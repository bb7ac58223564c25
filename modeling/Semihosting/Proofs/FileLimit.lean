import Semihosting.Proofs.HostFiles

/-!
# The limit on stored files

A store has a limit on the length of its files. Streams keep to it, wherever they write and however
large a gap they leave. A call that saves a whole file does not: the file is put in place whatever
its length, and only then can it be longer than the limit.

## Main definitions

* `FileStore.Within` — no file is longer than the limit
* `Turn.Saves` — the call saves some bytes as a whole file

## Main results

* `Turn.size_after` — the length of a file after one call
* `Transcript.within_or_saved` — a file beyond the limit is as long as it was last saved
* `not_within_of_save` — such a file can come to be
-/

namespace Semihosting

open Debugger (panel)

variable {x : Turn FileStore StoredStream} {turns : List (Turn FileStore StoredStream)}
variable {t : StreamTable StoredStream} {f : InputFeed} {c : Console} {name : String}
variable {content : ByteArray}

/-- No file is longer than the limit. -/
def FileStore.Within (s : FileStore) : Prop :=
  ∀ name content, s.get? name = some content → content.size ≤ s.limit

/-- A write leaves the file within the limit or as long as it was. -/
theorem FileStore.size_drain (s : FileStore) (file : OpenFile StoredStream) (data : ByteArray)
    (stored : (file.drain s data).files.get? name = some content) :
    content.size ≤ s.limit ∨ ∃ old, s.get? name = some old ∧ content.size = old.size := by
  by_cases same : name = file.stream.name
  · subst same
    rw [drain_eq] at stored
    dsimp only at stored
    split at stored
    · exact Or.inr ⟨content, stored, rfl⟩
    · next some =>
      have pos := Nat.pos_of_ne_zero some
      have allowed : s.allowance file.stream data.size =
          min data.size (s.limit - s.writeStart file.stream) :=
        allowance_of_writable (writable_of_pos pos)
      rw [get?_insert, if_pos rfl] at stored
      -- What is written ends within the limit; what lies behind it was there before.
      have size : content.size = max (s.content file.stream.name).size
          (s.writeStart file.stream + min (s.allowance file.stream data.size) data.size) := by
        rw [← Option.some.inj stored, Bytes.size_overlay, Bytes.size_window, Nat.sub_zero]
      cases old : s.get? file.stream.name with
      | none =>
        rw [FileStore.content, old, Option.getD_none, ByteArray.size_empty] at size
        exact Or.inl (by omega)
      | some bytes =>
        rw [FileStore.content, old, Option.getD_some] at size
        rcases Nat.lt_or_ge s.limit content.size with beyond | within
        · exact Or.inr ⟨bytes, rfl, by omega⟩
        · exact Or.inl within
  · have kept := (drain_keeps s file data).2 name same
    rw [kept] at stored
    exact Or.inr ⟨content, stored, rfl⟩

/-- Opening a file empties it, creates it without content, or leaves it as it is. -/
theorem FileStore.size_openFile {s files : FileStore} {key : String} {mode : OpenMode}
    {stream : StoredStream} (opened : FileHost.openFile s key mode = .ok (files, stream))
    (stored : files.get? name = some content) :
    content.size ≤ s.limit ∨ ∃ old, s.get? name = some old ∧ content.size = old.size := by
  rcases (openFile_cases opened).2 with rfl | ⟨rfl, -⟩
  · exact Or.inr ⟨content, stored, rfl⟩
  · rw [get?_insert] at stored
    split at stored
    · cases stored
      exact Or.inl (Nat.zero_le _)
    · exact Or.inr ⟨content, stored, rfl⟩

namespace Turn

/-- The call saves some bytes of guest memory as a whole file. -/
def Saves (x : Turn FileStore StoredStream) (name : String) (data : ByteArray) : Prop :=
  x.service? = some .fileWrite ∧
    (∃ path, x.memory.HoldsString (x.arg 0) path ∧ Utf8.decode path = name) ∧
    x.memory.Holds (x.arg 1) (x.arg 2).toNat ∧
    data = Bytes.window x.memory.bytes (x.arg 1).toNat (x.arg 2).toNat

/-- A whole file that is saved is as long as the call says. -/
theorem Saves.size_eq {data : ByteArray} (saves : x.Saves name data) :
    data.size = (x.arg 2).toNat := by
  obtain ⟨-, -, held, rfl⟩ := saves
  exact held.size_window

/-- A call that is to save a file puts it in place, or is at fault and does nothing. -/
theorem saved_cases (h : x.debugger.handlers = panel t f c) (hs : x.service? = some .fileWrite) :
    (∃ name data, x.Saves name data ∧ x.after.host.files = x.host.files.insert name data) ∨
      (∀ name data, ¬ x.Saves name data) ∧ x.after.host = x.host := by
  have answer := answer?_fileWrite h hs
  rcases x.memory.holdsString_or_lacksString (x.arg 0) with ⟨path, named⟩ | ⟨fault, lacks⟩
  · by_cases held : x.memory.Holds (x.arg 1) (x.arg 2).toNat
    · refine Or.inl ⟨Utf8.decode path, _, ⟨hs, ⟨path, named, rfl⟩, held, rfl⟩, ?_⟩
      rw [host_after answer, Answer.map]
      have loaded := Memory.load_eq_ok_iff.mpr ⟨held, rfl⟩
      simp only [Handler.saveFile, Memory.loadString_eq_ok_iff.mpr named, loaded]
      rfl
    · rw [Handler.saveFile_of_outside ⟨path, named⟩ held] at answer
      refine Or.inr ⟨?_, host_after answer⟩
      rintro name data ⟨-, -, inside, -⟩
      exact held inside
  · rw [Handler.saveFile_of_lacks lacks] at answer
    refine Or.inr ⟨?_, host_after answer⟩
    rintro name data ⟨-, ⟨path, named, -⟩, -⟩
    rw [← Memory.loadString_eq_ok_iff, Memory.loadString_eq_error_iff.mpr lacks] at named
    cases named

/-- After a call a file is as long as the call has saved it; or the call has not saved it, and the
file is within the limit or as long as before. -/
theorem size_after (h : x.debugger.handlers = panel t f c)
    (stored : x.after.host.files.get? name = some content) :
    (∃ data, x.Saves name data ∧ data.size = content.size) ∨
      (∀ data, ¬ x.Saves name data) ∧
        (content.size ≤ x.host.files.limit ∨
          ∃ old, x.host.files.get? name = some old ∧ content.size = old.size) := by
  by_cases hs : x.service? = some .fileWrite
  · rcases saved_cases h hs with ⟨key, data, saves, files⟩ | ⟨unsaved, host⟩
    · rw [files, FileStore.get?_insert] at stored
      split at stored
      · next same =>
        cases stored
        exact Or.inl ⟨_, same ▸ saves, rfl⟩
      · next other =>
        refine Or.inr ⟨fun data' saves' => other ?_, Or.inr ⟨content, stored, rfl⟩⟩
        -- A call names one file only.
        obtain ⟨-, ⟨path, named, rfl⟩, -, -⟩ := saves
        obtain ⟨-, ⟨path', named', rfl⟩, -, -⟩ := saves'
        rw [← Memory.loadString_eq_ok_iff] at named named'
        rw [Except.ok.inj (named'.symm.trans named)]
    · rw [host] at stored
      exact Or.inr ⟨unsaved name, Or.inr ⟨content, stored, rfl⟩⟩
  · refine Or.inr ⟨fun data saves => hs saves.1, ?_⟩
    have step := filesStep h
    generalize x.after.host.files = after at step stored
    cases step with
    | same => exact Or.inr ⟨content, stored, rfl⟩
    | opened service grant =>
      obtain ⟨path, letters, mode, -, -, -, opened⟩ := StreamTable.grant?_eq_some_iff.mp grant
      exact FileStore.size_openFile opened stored
    | drained service live => exact FileStore.size_drain _ _ _ stored
    | saved service named put => exact absurd service hs

end Turn

/-! ### A file is saved that is too long -/

namespace TooLong

/-- The path `f`, and three bytes to save. -/
def memory : Memory := ⟨⟨#[0x66, 0, 0x78, 0x79, 0x7a]⟩, by decide⟩

/-- A file may have two bytes, and there is none. -/
def store : FileStore := { limit := 2 }

/-- The whole file is saved. -/
def saving : Turn FileStore StoredStream :=
  ⟨.initial none { files := store }, .asking .fileWrite [0, 2, 3] memory⟩

theorem run : Transcript saving.toStage [saving] saving.after :=
  Transcript.nil.snoc _

theorem within : store.Within := by
  intro name content stored
  cases stored

theorem stored : saving.after.host.files.get? "f" = some ⟨#[0x78, 0x79, 0x7a]⟩ := by
  decide +kernel

end TooLong

/-! ### Whole runs -/

/-- After a run that starts within the limit, a file is within the limit, or it is as long as the
last call that has saved it has made it. So the limit holds as long as no call saves more. -/
theorem Transcript.within_or_saved {s₀ s : Stage FileStore StoredStream}
    (run : Transcript s₀ turns s) (session : ∃ t f c, s₀.debugger.handlers = panel t f c)
    (within : s₀.host.files.Within) :
    (∀ name content, s.host.files.get? name = some content →
      content.size ≤ s₀.host.files.limit ∨
        Since turns (fun x => ∃ data, x.Saves name data ∧ data.size = content.size)
          fun x => ∃ data, x.Saves name data) ∧
      ((∀ x ∈ turns, ∀ name data, x.Saves name data → data.size ≤ s₀.host.files.limit) →
        s.host.files.Within) := by
  have whole : (∃ t f c, s.debugger.handlers = panel t f c) ∧
      s.host.files.limit = s₀.host.files.limit ∧
      ∀ name content, s.host.files.get? name = some content →
        content.size ≤ s₀.host.files.limit ∨
          Since turns (fun x => ∃ data, x.Saves name data ∧ data.size = content.size)
            fun x => ∃ data, x.Saves name data := by
    induction run with
    | nil => exact ⟨session, rfl, fun name content stored => Or.inl (within name content stored)⟩
    | @snoc turns s run machine ih =>
      obtain ⟨⟨t, f, c, h⟩, limit, known⟩ := ih
      refine ⟨Turn.exists_panel_after (x := ⟨s, machine⟩) h,
        (Turn.limit_after (x := ⟨s, machine⟩) h).trans limit, fun name content stored => ?_⟩
      rw [since_snoc_iff, ← limit]
      rcases Turn.size_after (x := ⟨s, machine⟩) h stored with saved | ⟨unsaved, within | kept⟩
      · exact Or.inr (Or.inl saved)
      · exact Or.inl within
      · obtain ⟨old, there, size⟩ := kept
        rw [size, limit]
        refine (known name old there).imp_right fun since => Or.inr ⟨since, ?_⟩
        rintro ⟨data, saves⟩
        exact unsaved data saves
  refine ⟨whole.2.2, fun small name content stored => ?_⟩
  rw [whole.2.1]
  rcases whole.2.2 name content stored with within | ⟨before, x, since, rfl, ⟨data, saves, size⟩, -⟩
  · exact within
  · rw [← size]
    exact small x (by simp) name data saves

/-- The file that is too long is the one that was saved. -/
theorem within_or_saved_tooLong :
    Since [TooLong.saving] (fun x => ∃ data, x.Saves "f" data ∧ data.size = 3) fun x =>
      ∃ data, x.Saves "f" data := by
  have session : ∃ t f c, TooLong.saving.debugger.handlers = panel t f c := ⟨_, _, _, rfl⟩
  rcases (TooLong.run.within_or_saved session TooLong.within).1 "f" _ TooLong.stored with
    within | since
  · exact absurd within (by decide)
  · exact since

/-- A session that starts within the limit can end beyond it. -/
theorem not_within_of_save :
    ¬ ∀ (content : Option ByteArray) (host : Host FileStore)
      (turns : List (Turn FileStore StoredStream)) (s : Stage FileStore StoredStream),
      host.files.Within → Transcript (.initial content host) turns s → s.host.files.Within := by
  intro holds
  have within := holds none { files := TooLong.store } _ _ TooLong.within TooLong.run
  exact absurd (within "f" _ TooLong.stored) (by decide +kernel)

end Semihosting
