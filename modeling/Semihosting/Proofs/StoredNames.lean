import Semihosting.Proofs.Servers
import Semihosting.Proofs.StreamSteps

/-!
# Names of stored files

A store never forgets a file. A call can create one, empty it or change it, but the name stays, and
so does every stream on it: an open stream is always on a file that is stored, so that reading,
writing and moving never create one.

## Main definitions

* `FileStore.Has` — a file of some name is stored
* `Stage.Backed` — every open stream is on a stored file

## Main results

* `Turn.HandleStep.renewed_or_kept` — a stream stays on its file until another one is opened
* `Turn.opened_cases` — what an open leaves behind
* `Turn.has_after` — no call makes a store forget a name
* `Transcript.backed` — after any run every open stream is on a stored file
-/

namespace Semihosting

variable {x : Turn FileStore StoredStream} {turns : List (Turn FileStore StoredStream)}
variable {t : StreamTable StoredStream} {rest : List (Handler StoredStream)} {w : Word}
variable {file file' : OpenFile StoredStream} {name : String}

/-! ### Names in a store -/

namespace FileStore

variable {s files : FileStore} {mode : OpenMode} {stream : StoredStream}

/-- A file of this name is stored. -/
def Has (s : FileStore) (name : String) : Prop := (s.get? name).isSome = true

theorem has_insert_self (s : FileStore) (name : String) (content : ByteArray) :
    (s.insert name content).Has name := by
  rw [Has, get?_insert, if_pos rfl]
  rfl

theorem Has.insert (has : s.Has name) (key : String) (content : ByteArray) :
    (s.insert key content).Has name := by
  rw [Has, get?_insert]
  split
  · rfl
  · exact has

/-- What is opened is stored then, and all that was stored still is. -/
theorem has_openFile (opened : FileHost.openFile s name mode = .ok (files, stream)) :
    files.Has name ∧ ∀ other, s.Has other → files.Has other := by
  have unfolded : FileHost.openFile s name mode = s.openFile name mode := rfl
  rw [unfolded, openFile] at opened
  split at opened
  · next content stored =>
    have has : s.Has name := by
      rw [Has, stored]
      rfl
    split at opened
    · cases opened
    · cases opened
      split
      · exact ⟨has_insert_self .., fun other there => there.insert ..⟩
      · exact ⟨has, fun other there => there⟩
  · split at opened
    · cases opened
      exact ⟨has_insert_self .., fun other there => there.insert ..⟩
    · cases opened

theorem Has.drain (has : s.Has name) (file : OpenFile StoredStream) (data : ByteArray) :
    (file.drain s data).files.Has name := by
  rw [drain_eq]
  dsimp only
  split
  · exact has
  · exact has.insert ..

end FileStore

/-! ### Handlers -/

namespace StreamTable

variable {path mode handle : Word} {memory : Memory} {host : Host FileStore}

/-- An open leaves the host as it is, or the host has granted it. -/
theorem host_fopen_cases :
    (t.fopen path mode memory host).host = host ∨
      ∃ files stream, grant? memory host path mode = some (files, stream) ∧
        (t.fopen path mode memory host).host = { host with files } := by
  rcases grant_cases memory host path mode with
    ⟨fault, lacks⟩ | ⟨strings, denied⟩ | ⟨files, stream, grant⟩
  · rw [fopen_of_lacks lacks]
    exact Or.inl rfl
  · obtain ⟨event, answer⟩ := fopen_of_denied (t := t) strings denied
    rw [answer]
    exact Or.inl rfl
  · rw [fopen_of_grant grant]
    exact Or.inr ⟨files, stream, grant, rfl⟩

theorem host_freopen_cases :
    (t.freopen path mode handle memory host).host = host ∨
      ∃ files stream, grant? memory host path mode = some (files, stream) ∧
        (t.freopen path mode handle memory host).host = { host with files } := by
  rcases memory.holdsStrings_or_lacksStrings path mode with strings | ⟨fault, lacks⟩
  · cases live : t.get? handle with
    | none =>
      rw [freopen_of_dead strings live]
      exact Or.inl rfl
    | some file =>
      cases grant : grant? memory host path mode with
      | none =>
        obtain ⟨event, denied⟩ := freopen_of_denied strings live grant
        rw [denied]
        exact Or.inl rfl
      | some opened =>
        rw [freopen_of_grant live grant]
        exact Or.inr ⟨opened.1, opened.2, rfl, rfl⟩
  · rw [freopen_of_lacks lacks]
    exact Or.inl rfl

/-- A grant of the host forgets no name. -/
theorem has_of_grant {host' : Host FileStore} (has : host.files.Has name)
    (cases : host' = host ∨ ∃ files stream, grant? memory host path mode = some (files, stream) ∧
      host' = { host with files }) : host'.files.Has name := by
  rcases cases with rfl | ⟨files, stream, grant, rfl⟩
  · exact has
  · obtain ⟨path, letters, mode, -, -, -, opened⟩ := grant?_eq_some_iff.mp grant
    exact (FileStore.has_openFile opened).2 name has

theorem has_fwrite {number address size count : Word} (has : host.files.Has name) :
    (t.fwrite number address size count handle memory host).host.files.Has name := by
  rcases t.transfer_cases size count handle with
    large | ⟨small, idle⟩ | ⟨file, live, pos, small⟩
  · rw [fwrite_of_large large]
    exact has
  · rw [fwrite_of_idle small idle]
    exact has
  · rw [fwrite_of_live pos small live]
    split
    · exact has
    · exact has.drain ..

theorem has_react? {r : Request} {act : Reaction (StreamTable StoredStream) FileStore}
    (hact : t.react? r = some act) (has : host.files.Has name) :
    (act memory host).host.files.Has name := by
  unfold react? at hact
  split at hact <;> cases hact
  · exact has_of_grant has host_fopen_cases
  · exact has_of_grant has host_freopen_cases
  · rw [host_fread]
    exact has
  · exact has
  · exact has
  · rw [host_fgetc]
    exact has
  · exact has
  · rw [host_ftell]
    exact has
  · rw [host_fseek]
    exact has
  · exact has_fwrite has

end StreamTable

/-- No handler makes a store forget a name. -/
theorem Handler.has_react? {h : Handler StoredStream} {r : Request}
    {act : Reaction (Handler StoredStream) FileStore} {memory : Memory} {host : Host FileStore}
    (hact : h.react? r = some act) (has : host.files.Has name) :
    (act memory host).host.files.Has name := by
  cases h with
  | streams t =>
    obtain ⟨act, reacts, rfl⟩ := Option.map_eq_some_iff.mp hact
    exact StreamTable.has_react? reacts has
  | input f =>
    obtain ⟨act, reacts, rfl⟩ := Option.map_eq_some_iff.mp hact
    unfold InputFeed.react? at reacts
    split at reacts <;> cases reacts
    rw [Reaction.map, Answer.map, InputFeed.host_deliver]
    exact has
  | console c =>
    obtain ⟨act, reacts, rfl⟩ := Option.map_eq_some_iff.mp hact
    unfold Console.react? at reacts
    split at reacts
    · cases reacts
      rw [Reaction.map, Answer.map, Console.files_write]
      exact has
    · cases reacts
      exact has
    · cases reacts
      exact has
    · cases reacts
  | saver =>
    obtain ⟨-, ⟨⟩⟩ := Option.ite_none_right_eq_some.mp hact
    unfold saveFile
    split
    · exact has
    · exact has
    · dsimp only
      split
      · next files saved =>
        -- A store refuses no file.
        cases saved
        exact has.insert ..
      · exact has
  | entropy | clock | stub =>
    obtain ⟨-, ⟨⟩⟩ := Option.ite_none_right_eq_some.mp hact
    exact has

/-- No call makes a store forget a name, whatever handlers there are. -/
theorem Turn.has_after (has : x.host.files.Has name) : x.after.host.files.Has name := by
  rcases x.answer?_cases with none | ⟨before, taker, behind, act, split, hact, answer⟩
  · rw [after_of_none none]
    exact has
  · rw [host_after answer]
    exact Handler.has_react? hact has

/-! ### Open streams -/

namespace Turn

/-- A stream stays on its file, in its mode, until another one is opened under its handle. -/
theorem HandleStep.renewed_or_kept {before : Option (OpenFile StoredStream)}
    (step : x.HandleStep w before file') :
    (∃ files stream, x.Renews w ∧ x.granted? = some (files, stream) ∧ file' = { stream }) ∨
      ¬ x.Renews w ∧ ∃ file, before = some file ∧ file'.stream.name = file.stream.name ∧
        file'.stream.mode = file.stream.mode := by
  cases step with
  | renewed renews grant => exact Or.inl ⟨_, _, renews, grant, rfl⟩
  | kept quiet => exact Or.inr ⟨quiet.renews, _, rfl, rfl, rfl⟩
  | told quiet =>
    exact Or.inr ⟨quiet.renews, _, rfl, FileStore.seek_keeps_mode x.host.files _ _⟩
  | rewound rewinds =>
    exact Or.inr ⟨fun renews => renews.not_rewinds rewinds, _, rfl,
      FileStore.seek_keeps_mode x.host.files _ _⟩
  | filled pulls =>
    exact Or.inr ⟨fun renews => renews.not_pulls pulls, _, rfl,
      FileStore.fill_keeps_mode x.host.files _ _⟩
  | drained pushes =>
    exact Or.inr ⟨fun renews => renews.not_pushes pushes, _, rfl,
      FileStore.drain_keeps_mode x.host.files _ _⟩

section Opening

variable {σ ς : Type} [FileHost σ ς] {x : Turn σ ς} {t : StreamTable ς}
variable {rest : List (Handler ς)}

/-- An open that is granted puts the files of the host in place together with the stream. Any other
one leaves the host as it is, and no stream under the handle that it was to open. -/
theorem opened_cases (h : x.debugger.handlers = .streams t :: rest)
    (service : x.service? = some .fopen ∨ x.service? = some .freopen) :
    (x.after.host = x.host ∧ ∀ w, x.Renews w → x.after.debugger.table.get? w = none) ∨
      ∃ w files stream, x.granted? = some (files, stream) ∧ x.Renews w ∧
        x.after.debugger.table.get? w = some { stream } ∧
        x.after.host = { x.host with files } := by
  rcases service with hs | hs
  · have answer := answer?_of_streams h (react?_of_service hs)
    have unopened (denied : x.granted? = none) (w : Word) : ¬ x.Renews w := by
      rintro (handed | ⟨other, -⟩)
      · simp [opened?, denied] at handed
      · simp [hs] at other
    rcases StreamTable.grant_cases x.memory x.host (x.arg 0) (x.arg 1) with
      ⟨fault, lacks⟩ | ⟨strings, denied⟩ | ⟨files, stream, grant⟩
    · rw [StreamTable.fopen_of_lacks lacks] at answer
      exact Or.inl ⟨host_after answer, fun w renews =>
        absurd renews (unopened (StreamTable.grant?_of_lacks lacks) w)⟩
    · obtain ⟨event, refused⟩ := StreamTable.fopen_of_denied (t := t) strings denied
      rw [refused] at answer
      exact Or.inl ⟨host_after answer, fun w renews => absurd renews (unopened denied w)⟩
    · rw [StreamTable.fopen_of_grant grant] at answer
      have granted : x.granted? = some (files, stream) := grant
      refine Or.inr ⟨t.next, files, stream, grant, Or.inl ?_, ?_, host_after answer⟩
      · rw [opened?, if_pos ⟨hs, by rw [granted]; rfl⟩, result?_eq answer]
        rfl
      · rw [Debugger.table_eq (handlers_after answer)]
        exact (StreamTable.get?_put ..).trans (if_pos rfl)
  · have answer := answer?_of_streams h (react?_of_service hs)
    have only {w : Word} (renews : x.Renews w) : x.arg 2 = w ∧ x.result? = some w := by
      rcases renews with handed | ⟨-, same, reopened⟩
      · rw [opened?_of_named (handle?_eq hs)] at handed
        cases handed
      · exact ⟨same, reopened⟩
    rcases x.memory.holdsStrings_or_lacksStrings (x.arg 0) (x.arg 1) with
      strings | ⟨fault, lacks⟩
    · cases live : t.get? (x.arg 2) with
      | none =>
        rw [StreamTable.freopen_of_dead strings live] at answer
        refine Or.inl ⟨host_after answer, fun w renews => ?_⟩
        rw [Debugger.table_eq (handlers_after answer), ← (only renews).1]
        exact live
      | some file =>
        cases grant : x.granted? with
        | none =>
          obtain ⟨event, denied⟩ := StreamTable.freopen_of_denied strings live grant
          rw [denied] at answer
          refine Or.inl ⟨host_after answer, fun w renews => ?_⟩
          rw [Debugger.table_eq (handlers_after answer), ← (only renews).1]
          exact (StreamTable.get?_close ..).trans (if_pos rfl)
        | some opened =>
          obtain ⟨files, stream⟩ := opened
          rw [StreamTable.freopen_of_grant live grant] at answer
          refine Or.inr ⟨x.arg 2, files, stream, rfl, Or.inr ⟨hs, rfl, result?_eq answer⟩, ?_,
            host_after answer⟩
          rw [Debugger.table_eq (handlers_after answer)]
          exact (StreamTable.get?_put ..).trans (if_pos rfl)
    · rw [StreamTable.freopen_of_lacks lacks] at answer
      refine Or.inl ⟨host_after answer, fun w renews => ?_⟩
      have result := (only renews).2
      rw [result?_eq answer] at result
      cases result

end Opening

end Turn

/-- Every open stream is on a stored file. -/
def Stage.Backed (s : Stage FileStore StoredStream) : Prop :=
  ∀ w file, s.debugger.table.get? w = some file → s.host.files.Has file.stream.name

theorem Turn.backed_after (h : x.debugger.handlers = .streams t :: rest)
    (backed : x.toStage.Backed) : x.after.Backed := by
  intro w file' found
  have table : x.debugger.table = t := Debugger.table_eq h
  rcases (handleStep h found).renewed_or_kept with
    ⟨files, stream, renews, grant, rfl⟩ | ⟨-, file, live, same, -⟩
  · obtain ⟨path, letters, mode, -, -, -, opened⟩ := StreamTable.grant?_eq_some_iff.mp grant
    have files_eq : x.after.host.files = files := by
      rcases opened_cases h renews.service with
        ⟨-, unopened⟩ | ⟨w', files', stream', granted, -, -, host⟩
      · rw [unopened w renews] at found
        cases found
      · cases grant.symm.trans granted
        rw [host]
    rw [files_eq, (FileStore.openFile_cases opened).1]
    exact (FileStore.has_openFile opened).1
  · rw [same]
    exact has_after (backed w file (by rw [table]; exact live))

/-- A session that starts without streams keeps every stream on a stored file. -/
theorem Transcript.backed {s₀ s : Stage FileStore StoredStream} (run : Transcript s₀ turns s)
    (start : s₀.debugger.handlers = .streams {} :: rest) :
    ∃ t rest', s.debugger.handlers = .streams t :: rest' ∧ s.Backed := by
  induction run with
  | nil =>
    refine ⟨{}, rest, start, fun w file live => ?_⟩
    rw [Debugger.table_eq start] at live
    cases live
  | @snoc turns s run machine ih =>
    obtain ⟨t, rest', handlers, backed⟩ := ih
    obtain ⟨t', rest'', handlers', -⟩ := Turn.exists_tableStep (x := ⟨s, machine⟩) handlers
    exact ⟨t', rest'', handlers', Turn.backed_after (x := ⟨s, machine⟩) handlers backed⟩

end Semihosting
