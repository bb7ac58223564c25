import Semihosting.Proofs.Exchanges
import Semihosting.Proofs.HostFiles
import Semihosting.Proofs.StoredNames

/-!
# Appending to a file

As long as every stream on a stored file appends, or only reads, the file can only grow. Each write
goes to the end that the file has at that moment, whatever the stream remembers of its position, so
any number of streams may write in turn and nothing that was written is lost.

## Main definitions

* `Stage.AppendOnly` — no open stream overwrites the file
* `Turn.Leaves` — the call opens no stream that does, and does not replace the file
* `Turn.accepted` — the bytes that a call gets accepted by a stream on the file
* `Turn.Appends` — what a call that writes to an appending stream does

## Main results

* `Turn.content_after` — one call puts what it gets accepted behind the content
* `Transcript.appends` — so does a whole run, in the order of its calls
-/

namespace Semihosting

open Debugger (panel)

/-- A stream overwrites nothing if it appends, or is for reading alone. -/
theorem OpenMode.overwrites_eq_false_iff {m : OpenMode} :
    m.overwrites = false ↔ m.purpose = .append ∨ m.purpose = .read ∧ m.update = false := by
  obtain ⟨purpose, update, exclusive⟩ := m
  cases purpose <;> simp [overwrites]

theorem OpenMode.truncates_of_overwrites {m : OpenMode} (keeps : m.overwrites = false) :
    m.truncates = false := by
  rcases overwrites_eq_false_iff.mp keeps with append | ⟨read, -⟩
  · simp [truncates, append]
  · simp [truncates, read]

/-! ### Writing, from the guest's side -/

namespace Turn

section Fwrite

variable {σ ς : Type} [FileHost σ ς] {x : Turn σ ς} {t : StreamTable ς} {rest : List (Handler ς)}
variable {file : OpenFile ς} {data : ByteArray}

/-- The bytes that a call offers to a stream are written as far as the stream takes them. -/
theorem Pushes.written (pushes : x.Pushes (x.arg 3) data)
    (h : x.debugger.handlers = .streams t :: rest) (live : t.get? (x.arg 3) = some file) :
    x.exchanges = file.writeLog x.host.files data ∧
      x.after.host.files = (file.drain x.host.files data).files ∧
      x.result? = some (UInt64.ofNat ((file.drain x.host.files data).count / (x.arg 1).toNat)) := by
  obtain ⟨hs, -, pos, small, held, rfl⟩ := pushes
  have table : x.debugger.table.get? (x.arg 3) = some file := by rw [Debugger.table_eq h, live]
  have answer := answer?_of_streams h (react?_of_service hs)
  rw [StreamTable.fwrite_of_held pos small live held] at answer
  refine ⟨?_, ?_, result?_eq answer⟩
  · simp [exchanges, hs, table, small, held]
  · rw [host_after answer]
    rfl

/-- A call that offers nothing is at fault or has nothing to write. -/
theorem written_of_not_pushes (hs : x.service? = some .fwrite)
    (idle : ∀ data, ¬ x.Pushes (x.arg 3) data) (h : x.debugger.handlers = .streams t :: rest)
    (live : t.get? (x.arg 3) = some file) :
    x.exchanges.flatMap Exchange.accepted = [] ∧ x.after.host = x.host ∧
      (x.result? = none ∨ x.length = 0 ∧ x.result? = some 0) := by
  have table : x.debugger.table.get? (x.arg 3) = some file := by rw [Debugger.table_eq h, live]
  have answer := answer?_of_streams h (react?_of_service hs)
  rcases t.transfer_cases (x.arg 1) (x.arg 2) (x.arg 3) with
    large | ⟨small, none | dead⟩ | ⟨file', -, pos, small⟩
  · rw [StreamTable.fwrite_of_large large] at answer
    have outside : ¬ x.length ≤ StreamTable.transferLimit := Nat.not_le.mpr large
    refine ⟨?_, host_after answer, Or.inl (result?_eq answer)⟩
    simp [exchanges, hs, table, outside]
  · rw [StreamTable.fwrite_of_idle small (Or.inl none)] at answer
    refine ⟨?_, host_after answer, Or.inr ⟨none, result?_eq answer⟩⟩
    have length : x.length = 0 := none
    -- Nothing is offered, so nothing is accepted.
    simp only [exchanges, hs, table]
    split
    · rw [OpenFile.accepted_writeLog, length, Bytes.window_zero]
      exact List.take_nil
    · rfl
  · rw [live] at dead
    cases dead
  · have outside : ¬ x.memory.Holds (x.arg 0) x.length := fun held =>
      idle _ ⟨hs, rfl, pos, small, held, rfl⟩
    rw [StreamTable.fwrite_of_outside pos small live outside] at answer
    refine ⟨?_, host_after answer, Or.inl (result?_eq answer)⟩
    simp [exchanges, hs, table, outside]

end Fwrite

end Turn

/-! ### Streams that append -/

section Store

variable {x : Turn FileStore StoredStream} {turns : List (Turn FileStore StoredStream)}
variable {t : StreamTable StoredStream} {f : InputFeed} {c : Console} {name : String}
variable {file : OpenFile StoredStream}

/-- No open stream overwrites the file: all streams on it append, or are for reading alone. -/
def Stage.AppendOnly (s : Stage FileStore StoredStream) (name : String) : Prop :=
  ∀ w file, s.debugger.table.get? w = some file → file.stream.name = name →
    file.stream.mode.overwrites = false

namespace Turn

/-- The call leaves the file to streams that append: if it opens the file then in such a mode, and
it does not save the file as a whole. -/
structure Leaves (x : Turn FileStore StoredStream) (name : String) : Prop where
  opens : ∀ {path letters : ByteArray} {mode : OpenMode},
    x.service? = some .fopen ∨ x.service? = some .freopen → x.memory.HoldsString (x.arg 0) path →
    Utf8.decode path = name → x.memory.HoldsString (x.arg 1) letters →
    OpenMode.parse? letters = some mode → mode.overwrites = false
  saves : ∀ {path : ByteArray}, x.service? = some .fileWrite →
    x.memory.HoldsString (x.arg 0) path → Utf8.decode path ≠ name

/-- The bytes that the call gets accepted by a stream on the file. -/
def accepted (x : Turn FileStore StoredStream) (name : String) : List UInt8 :=
  match x.service?, x.debugger.table.get? (x.arg 3) with
  | some .fwrite, some file =>
    if file.stream.name = name then x.exchanges.flatMap Exchange.accepted else []
  | _, _ => []

/-- The call writes to a stream on the file that appends. -/
def Appends (x : Turn FileStore StoredStream) (name : String) : Prop :=
  x.service? = some .fwrite ∧ ∃ file, x.debugger.table.get? (x.arg 3) = some file ∧
    file.stream.name = name ∧ file.stream.mode.appends = true

theorem accepted_of_live (hs : x.service? = some .fwrite)
    (live : x.debugger.table.get? (x.arg 3) = some file) :
    x.accepted name =
      if file.stream.name = name then x.exchanges.flatMap Exchange.accepted else [] := by
  simp only [accepted, hs, live]

theorem accepted_of_ne (hs : x.service? ≠ some .fwrite) : x.accepted name = [] := by
  unfold accepted
  split
  · next hs' _ => exact absurd hs' hs
  · rfl

theorem accepted_of_dead (dead : x.debugger.table.get? (x.arg 3) = none) :
    x.accepted name = [] := by
  unfold accepted
  split
  · next live =>
    rw [dead] at live
    cases live
  · rfl

/-! ### One call -/

/-- A stream that appends, or is for reading alone, puts what it takes behind the content. -/
theorem content_drain (s : FileStore) (data : ByteArray)
    (keeps : file.stream.mode.overwrites = false) :
    ((file.drain s data).files.content file.stream.name).data.toList =
      (s.content file.stream.name).data.toList ++
        data.data.toList.take (file.drain s data).count := by
  rw [FileStore.drain_eq]
  dsimp only
  split
  · next none => rw [none, List.take_zero, List.append_nil]
  · next some =>
    have writable := FileStore.writable_of_pos (Nat.pos_of_ne_zero some)
    have appends : file.stream.mode.appends := by
      rw [OpenMode.writable, keeps, Bool.false_or] at writable
      exact writable
    rw [FileStore.content_insert, if_pos rfl, FileStore.writeStart_of_appends appends,
      Bytes.overlay_size, ByteArray.data_append, Array.toList_append, Bytes.toList_window,
      List.drop_zero]

theorem content_after_fwrite {rest : List (Handler StoredStream)}
    (h : x.debugger.handlers = .streams t :: rest) (hs : x.service? = some .fwrite)
    (live : t.get? (x.arg 3) = some file)
    (keeps : file.stream.name = name → file.stream.mode.overwrites = false) :
    (x.after.host.files.content name).data.toList =
      (x.host.files.content name).data.toList ++ x.accepted name := by
  have table : x.debugger.table.get? (x.arg 3) = some file := by rw [Debugger.table_eq h, live]
  rw [accepted_of_live hs table]
  by_cases pushes : ∃ data, x.Pushes (x.arg 3) data
  · obtain ⟨data, pushes⟩ := pushes
    obtain ⟨exchanges, files, -⟩ := pushes.written h live
    rw [files]
    by_cases same : file.stream.name = name
    · subst same
      rw [if_pos rfl, content_drain _ _ (keeps rfl), exchanges, OpenFile.accepted_writeLog]
    · -- The stream is on another file.
      have kept := (FileStore.drain_keeps x.host.files file data).2 name (Ne.symm same)
      rw [if_neg same, List.append_nil, FileStore.content, kept, FileStore.content]
  · obtain ⟨accepted, host, -⟩ :=
      written_of_not_pushes hs (fun data pushed => pushes ⟨data, pushed⟩) h live
    rw [accepted, host, ite_self, List.append_nil]

/-- A call that leaves the file to streams that append puts what it gets accepted behind the
content. -/
theorem content_after (h : x.debugger.handlers = panel t f c)
    (appendOnly : x.toStage.AppendOnly name) (leaves : x.Leaves name) :
    (x.after.host.files.content name).data.toList =
      (x.host.files.content name).data.toList ++ x.accepted name := by
  have table : x.debugger.table = t := Debugger.table_eq h
  by_cases writes : x.service? = some .fwrite ∧ ∃ file, t.get? (x.arg 3) = some file
  · obtain ⟨hs, file, live⟩ := writes
    exact content_after_fwrite h hs live (appendOnly _ file (by rw [table]; exact live))
  · -- No other call has anything accepted, and none of them changes the content.
    have nothing : x.accepted name = [] := by
      by_cases hs : x.service? = some .fwrite
      · refine accepted_of_dead ?_
        rw [table, Option.eq_none_iff_forall_ne_some]
        exact fun file live => writes ⟨hs, file, live⟩
      · exact accepted_of_ne hs
    rw [nothing, List.append_nil]
    have step := filesStep h
    generalize x.after.host.files = after at step ⊢
    cases step with
    | same => rfl
    | opened service grant =>
      obtain ⟨path, letters, mode, named, spelled, parsed, opened⟩ :=
        StreamTable.grant?_eq_some_iff.mp grant
      rw [FileStore.content_of_openFile opened]
      intro same
      exact OpenMode.truncates_of_overwrites (leaves.opens service named same.symm spelled parsed)
    | drained service live =>
      rw [table] at live
      exact absurd ⟨service, _, live⟩ writes
    | @saved path data _ service named stored =>
      have replaced : after = x.host.files.insert (Utf8.decode path) data := by
        cases stored
        rfl
      rw [replaced, FileStore.content_insert,
        if_neg fun same => leaves.saves service named same.symm]

/-- No call that leaves the file to streams that append opens another one on it. -/
theorem appendOnly_after {rest : List (Handler StoredStream)}
    (h : x.debugger.handlers = .streams t :: rest) (appendOnly : x.toStage.AppendOnly name)
    (leaves : x.Leaves name) : x.after.AppendOnly name := by
  intro w file' found same
  have before := appendOnly w
  rw [Debugger.table_eq h] at before
  rcases (handleStep h found).renewed_or_kept with
    ⟨files, stream, renews, grant, rfl⟩ | ⟨-, file, was, name_eq, mode_eq⟩
  · obtain ⟨path, letters, mode, named, spelled, parsed, opened⟩ :=
      StreamTable.grant?_eq_some_iff.mp grant
    obtain ⟨rfl, -⟩ := FileStore.openFile_cases opened
    exact leaves.opens renews.service named same spelled parsed
  · rw [mode_eq]
    exact before _ was (name_eq.symm.trans same)

/-- What an append gets accepted: as much of what it offers as the limit leaves room for behind the
content, and nothing if it faults. The result counts whole items. -/
structure AcceptsWithin (x : Turn FileStore StoredStream) (limit : Nat) (name : String) :
    Prop where
  /-- They are the first bytes of what is offered. -/
  offered : x.accepted name <+:
    (Bytes.window x.memory.bytes (x.arg 0).toNat x.length).data.toList
  faulted : x.result? = none → x.accepted name = []
  length_eq : ∀ {r : Word}, x.result? = some r → (x.accepted name).length =
    min x.length (limit - (x.host.files.content name).size)
  result_eq : ∀ {r : Word}, x.result? = some r →
    r = UInt64.ofNat ((x.accepted name).length / (x.arg 1).toNat)

theorem Appends.acceptsWithin {rest : List (Handler StoredStream)}
    (h : x.debugger.handlers = .streams t :: rest) (appends : x.Appends name) :
    x.AcceptsWithin x.host.files.limit name := by
  obtain ⟨hs, file, table, rfl, mode⟩ := appends
  have live : t.get? (x.arg 3) = some file := by rw [← Debugger.table_eq h, table]
  have accepted : x.accepted file.stream.name = x.exchanges.flatMap Exchange.accepted :=
    (accepted_of_live hs table).trans (if_pos rfl)
  by_cases pushes : ∃ data, x.Pushes (x.arg 3) data
  · obtain ⟨data, pushes⟩ := pushes
    obtain ⟨exchanges, -, result⟩ := pushes.written h live
    have writable : file.stream.mode.writable := by rw [OpenMode.writable, mode, Bool.or_true]
    have count : (file.drain x.host.files data).count =
        min x.length (x.host.files.limit - (x.host.files.content file.stream.name).size) := by
      rw [FileStore.drain_eq]
      dsimp only
      rw [FileStore.allowance_of_writable writable, FileStore.writeStart_of_appends mode,
        pushes.size_eq]
    rw [exchanges, OpenFile.accepted_writeLog, count] at accepted
    rw [count] at result
    have length : (x.accepted file.stream.name).length =
        min x.length (x.host.files.limit - (x.host.files.content file.stream.name).size) := by
      rw [accepted, List.length_take, Bytes.length_toList, pushes.size_eq]
      omega
    obtain ⟨-, -, -, -, -, rfl⟩ := pushes
    refine ⟨?_, fun faulted => ?_, fun _ => length, fun returned => ?_⟩
    · rw [accepted]
      exact List.take_prefix ..
    · rw [result] at faulted
      cases faulted
    · rw [result] at returned
      rw [length, Option.some.inj returned]
  · obtain ⟨nothing, -, result⟩ :=
      written_of_not_pushes hs (fun data pushed => pushes ⟨data, pushed⟩) h live
    rw [nothing] at accepted
    refine ⟨by rw [accepted]; exact List.nil_prefix, fun _ => accepted, fun returned => ?_,
      fun returned => ?_⟩
    · rcases result with faulted | ⟨length, -⟩
      · rw [faulted] at returned
        cases returned
      · rw [accepted, length]
        simp
    · rcases result with faulted | ⟨-, zero⟩
      · rw [faulted] at returned
        cases returned
      · rw [zero] at returned
        rw [accepted, ← Option.some.inj returned]
        simp

end Turn

/-! ### Two streams on a file of two bytes, where there is room for five -/

namespace TwoStreams

/-- The path `f`, the modes `a` and `a+`, and three bytes to write. -/
def memory : Memory := ⟨⟨#[0x66, 0, 0x61, 0, 0x61, 0x2b, 0, 0x78, 0x79, 0x7a]⟩, by decide⟩

def store : FileStore := { files := .ofList [("f", ⟨#[0x31, 0x32]⟩)], limit := 5 }

def opening : Turn FileStore StoredStream :=
  ⟨.initial none { files := store }, .asking .fopen [0, 2] memory⟩

/-- The second stream may be read as well. -/
def second : Turn FileStore StoredStream := ⟨opening.after, .asking .fopen [0, 4] memory⟩

/-- The first stream writes one byte. -/
def writing : Turn FileStore StoredStream := ⟨second.after, .asking .fwrite [7, 1, 1, 1] memory⟩

/-- The second stream moves to the start of the file. -/
def seeking : Turn FileStore StoredStream := ⟨writing.after, .asking .fseek [2, 0, 0] memory⟩

/-- Still it writes at the end, where there is room for two of its three bytes. -/
def filling : Turn FileStore StoredStream := ⟨seeking.after, .asking .fwrite [7, 1, 3, 2] memory⟩

/-- Now there is no room left for the first stream. -/
def refused : Turn FileStore StoredStream := ⟨filling.after, .asking .fwrite [7, 1, 1, 1] memory⟩

def calls : List (Turn FileStore StoredStream) := [writing, seeking, filling, refused]

theorem run : Transcript second.after calls refused.after :=
  (((Transcript.nil.snoc _).snoc _).snoc _).snoc _

theorem reachable : second.after.Reachable :=
  ⟨none, _, [opening, second], (Transcript.nil.snoc _).snoc _⟩

theorem appendOnly : second.after.AppendOnly "f" := by
  intro w file live _
  have all : ∀ entry ∈ second.after.debugger.table.streams.entries,
      entry.2.stream.mode.overwrites = false := by decide +kernel
  exact all _ (Table.mem_entries_of_get? live)

theorem services : ∀ x ∈ calls, x.service? = some .fwrite ∨ x.service? = some .fseek := by
  decide +kernel

theorem leaves : ∀ x ∈ calls, x.Leaves "f" := by
  intro x there
  refine ⟨fun opens => ?_, fun saves => ?_⟩
  · rcases services x there with hs | hs <;> simp [hs] at opens
  · rcases services x there with hs | hs <;> simp [hs] at saves

theorem appends_filling : filling.Appends "f" := by
  refine ⟨by decide +kernel, (filling.debugger.table.get? 2).get (by decide +kernel), ?_⟩
  decide +kernel

end TwoStreams

/-! ### A whole run -/

/-- While all streams on a file append or only read, the content grows by what the calls of the run
get accepted, in their order, and each append gets accepted what the limit leaves room for. -/
theorem Transcript.appends {s₀ s : Stage FileStore StoredStream} (run : Transcript s₀ turns s)
    (session : ∃ t f c, s₀.debugger.handlers = panel t f c) (appendOnly : s₀.AppendOnly name)
    (leaves : ∀ x ∈ turns, x.Leaves name) :
    (s.host.files.content name).data.toList =
        (s₀.host.files.content name).data.toList ++ turns.flatMap (·.accepted name) ∧
      ∀ x ∈ turns, x.Appends name → x.AcceptsWithin s₀.host.files.limit name := by
  -- The invariant: the session goes on, the streams still append, and the limit is the same.
  have whole : (∃ t f c, s.debugger.handlers = panel t f c) ∧ s.AppendOnly name ∧
      s.host.files.limit = s₀.host.files.limit ∧
      (s.host.files.content name).data.toList =
        (s₀.host.files.content name).data.toList ++ turns.flatMap (·.accepted name) ∧
      ∀ x ∈ turns, x.Appends name → x.AcceptsWithin s₀.host.files.limit name := by
    induction run with
    | nil => exact ⟨session, appendOnly, rfl, by simp, by simp⟩
    | @snoc turns s run machine ih =>
      obtain ⟨⟨t, f, c, h⟩, streams, limit, content, accepts⟩ :=
        ih fun x there => leaves x (List.mem_append_left _ there)
      let x : Turn FileStore StoredStream := ⟨s, machine⟩
      have spared : x.Leaves name := leaves x (by simp [x])
      have after := Turn.content_after (x := x) h streams spared
      refine ⟨Turn.exists_panel_after (x := x) h, Turn.appendOnly_after (x := x) h streams spared,
        (Turn.limit_after (x := x) h).trans limit, ?_, ?_⟩
      · rw [after, content, List.flatMap_append, List.append_assoc]
        simp [x]
      · intro y there appends
        rcases List.mem_append.mp there with there | there
        · exact accepts y there appends
        · obtain rfl := List.mem_singleton.mp there
          rw [← limit]
          exact appends.acceptsWithin h
  exact whole.2.2.2

/-- The second stream has moved, and still its bytes come behind those of the first. -/
theorem appends_twoStreams :
    (TwoStreams.refused.after.host.files.content "f").data.toList =
        [0x31, 0x32] ++ [0x78, 0x78, 0x79] ∧
      (TwoStreams.filling.accepted "f").length = 2 := by
  obtain ⟨content, accepts⟩ :=
    TwoStreams.run.appends TwoStreams.reachable.exists_panel TwoStreams.appendOnly TwoStreams.leaves
  have before : (TwoStreams.second.after.host.files.content "f").data.toList = [0x31, 0x32] := by
    decide +kernel
  have accepted : TwoStreams.calls.flatMap (·.accepted "f") = [0x78, 0x78, 0x79] := by
    decide +kernel
  have result : TwoStreams.filling.result? = some 2 := by decide +kernel
  have there : TwoStreams.filling ∈ TwoStreams.calls := by simp [TwoStreams.calls]
  refine ⟨by rw [content, before, accepted], ?_⟩
  rw [(accepts _ there TwoStreams.appends_filling).length_eq result]
  decide +kernel

end Store

end Semihosting
