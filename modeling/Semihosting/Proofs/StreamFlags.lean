import Semihosting.Proofs.StoredFile
import Semihosting.Proofs.StreamSteps

/-!
# The flags of a stream

A stream on a stored file keeps two flags. One tells that a read has met the end of the file, the
other that a transfer has failed. Both stay until something clears them: a stream that is opened
under the handle clears both, and one that moves clears the first. Other streams may change the file
in the meantime, so it counts how long the file was when the read was made.

## Main definitions

* `Turn.Overreads`, `Turn.Misreads`, `Turn.FallsShort` — what sets a flag
* `Flagged` — the flags of an open file tell what a run has done to its handle

## Main results

* `Turn.flagged_after` — one more call keeps the flags true to the run
* `Transcript.flags_iff` — so what a guest is told of the flags is what has happened
-/

namespace Semihosting

namespace FileStore

variable {s : FileStore} {file : OpenFile StoredStream} {data : ByteArray} {wanted : Nat}

/-- How many bytes lie between the position of a stream and the end of its file. -/
def left (s : FileStore) (stream : StoredStream) : Nat :=
  (s.content stream.name).size - stream.position

/-- A read sets the first flag if it wants more than is left, and never the second. -/
theorem flags_fill_of_readable (readable : file.stream.mode.readable) :
    ((file.fill s wanted).file.eof = true ↔ s.left file.stream < wanted ∨ file.eof = true) ∧
      (file.fill s wanted).file.error = file.error := by
  rw [fill_eq readable]
  refine ⟨?_, rfl⟩
  dsimp only
  rw [Bool.or_eq_true, decide_eq_true_iff, Bytes.size_window, left]
  have short : min wanted ((s.content file.stream.name).size - file.stream.position) < wanted ↔
      (s.content file.stream.name).size - file.stream.position < wanted := by omega
  rw [short, or_comm]

/-- A write sets the second flag if it is cut short, and never the first. -/
theorem flags_drain (s : FileStore) (file : OpenFile StoredStream) (pos : 0 < data.size) :
    (file.drain s data).file.eof = file.eof ∧
      ((file.drain s data).file.error = true ↔
        (file.stream.mode.writable = false ∨
          s.limit < s.writeStart file.stream + data.size) ∨ file.error = true) := by
  rw [drain_eq]
  refine ⟨rfl, ?_⟩
  dsimp only
  rw [Bool.or_eq_true, decide_eq_true_iff, or_comm]
  cases writable : file.stream.mode.writable with
  | false => simp [allowance_of_unwritable writable, pos]
  | true =>
    have short : s.allowance file.stream data.size < data.size ↔
        s.limit < s.writeStart file.stream + data.size := by
      rw [allowance_of_writable writable]
      omega
    rw [short]
    simp

end FileStore

variable {x : Turn FileStore StoredStream} {turns : List (Turn FileStore StoredStream)}
variable {t : StreamTable StoredStream} {rest : List (Handler StoredStream)} {w : Word}
variable {file file' : OpenFile StoredStream}

namespace Turn

/-! ### What sets a flag -/

/-- The call asks a stream for more bytes than are left of its file. -/
def Overreads (x : Turn FileStore StoredStream) (w : Word) : Prop :=
  ∃ count file, x.Pulls w count ∧ x.debugger.table.get? w = some file ∧
    file.stream.mode.readable = true ∧ x.host.files.left file.stream < count

/-- The call asks a stream for bytes that may not be read. -/
def Misreads (x : Turn FileStore StoredStream) (w : Word) : Prop :=
  ∃ count file, x.Pulls w count ∧ x.debugger.table.get? w = some file ∧
    file.stream.mode.readable = false

/-- The call offers a stream more bytes than it can write: the stream may not be written, or the
limit on files does not leave room for all of them. -/
def FallsShort (x : Turn FileStore StoredStream) (w : Word) : Prop :=
  ∃ data file, x.Pushes w data ∧ x.debugger.table.get? w = some file ∧
    (file.stream.mode.writable = false ∨
      x.host.files.limit < x.host.files.writeStart file.stream + data.size)

section

variable {count : Nat} {data : ByteArray}

theorem overreads_iff (pulls : x.Pulls w count) (live : x.debugger.table.get? w = some file) :
    x.Overreads w ↔ file.stream.mode.readable = true ∧ x.host.files.left file.stream < count := by
  constructor
  · rintro ⟨count', file', pulls', live', readable, short⟩
    rw [live] at live'
    cases live'
    rw [pulls.unique pulls']
    exact ⟨readable, short⟩
  · rintro ⟨readable, short⟩
    exact ⟨count, file, pulls, live, readable, short⟩

theorem misreads_iff (pulls : x.Pulls w count) (live : x.debugger.table.get? w = some file) :
    x.Misreads w ↔ file.stream.mode.readable = false := by
  constructor
  · rintro ⟨-, file', -, live', unreadable⟩
    rw [live] at live'
    cases live'
    exact unreadable
  · intro unreadable
    exact ⟨count, file, pulls, live, unreadable⟩

theorem fallsShort_iff (pushes : x.Pushes w data) (live : x.debugger.table.get? w = some file) :
    x.FallsShort w ↔ file.stream.mode.writable = false ∨
      x.host.files.limit < x.host.files.writeStart file.stream + data.size := by
  constructor
  · rintro ⟨data', file', pushes', live', short⟩
    rw [live] at live'
    cases live'
    rw [pushes.unique pushes']
    exact short
  · intro short
    exact ⟨data, file, pushes, live, short⟩

/-- Only a call that asks for bytes meets the end of a file. -/
theorem not_overreads_of (pulls : ∀ count, ¬ x.Pulls w count) : ¬ x.Overreads w := by
  rintro ⟨count, -, pulled, -⟩
  exact pulls count pulled

theorem not_misreads_of (pulls : ∀ count, ¬ x.Pulls w count) : ¬ x.Misreads w := by
  rintro ⟨count, -, pulled, -⟩
  exact pulls count pulled

theorem not_fallsShort_of (pushes : ∀ data, ¬ x.Pushes w data) : ¬ x.FallsShort w := by
  rintro ⟨data, -, pushed, -⟩
  exact pushes data pushed

end

end Turn

/-! ### The invariant -/

/-- A read on the handle has met the end of the file, and since then no stream was opened under the
handle and the stream has not moved. -/
def MetEnd (turns : List (Turn FileStore StoredStream)) (w : Word) : Prop :=
  Since turns (·.Overreads w) fun y => y.Renews w ∨ y.Rewinds w

/-- A transfer on the handle has failed, and since then no stream was opened under the handle. -/
def HasFailed (turns : List (Turn FileStore StoredStream)) (w : Word) : Prop :=
  Since turns (fun y => y.Misreads w ∨ y.FallsShort w) (·.Renews w)

/-- The flags of an open file are true to a run. -/
structure Flagged (turns : List (Turn FileStore StoredStream)) (w : Word)
    (file : OpenFile StoredStream) : Prop where
  eof_iff : file.eof = true ↔ MetEnd turns w
  error_iff : file.error = true ↔ HasFailed turns w

/-- A call that opens no stream under the handle sets and clears flags one by one. -/
theorem Flagged.snoc (flagged : Flagged turns w file) (renews : ¬ x.Renews w)
    (eof : file'.eof = true ↔ x.Overreads w ∨ file.eof = true ∧ ¬ x.Rewinds w)
    (error : file'.error = true ↔ (x.Misreads w ∨ x.FallsShort w) ∨ file.error = true) :
    Flagged (turns ++ [x]) w file' := by
  refine ⟨?_, ?_⟩
  · rw [eof, flagged.eof_iff, MetEnd, MetEnd, since_snoc_iff]
    simp [renews]
  · rw [error, flagged.error_iff, HasFailed, HasFailed, since_snoc_iff]
    simp [renews]

/-- One more call keeps the flags of every handle true to the run. -/
theorem Turn.flagged_after (h : x.debugger.handlers = .streams t :: rest)
    (before : ∀ file, t.get? w = some file → Flagged turns w file)
    (found : x.after.debugger.table.get? w = some file') : Flagged (turns ++ [x]) w file' := by
  have table : x.debugger.table = t := Debugger.table_eq h
  have step := handleStep h found
  generalize old : t.get? w = was at step
  cases step with
  | renewed renews grant =>
    -- A new stream has both flags clear, and the call has set none of them.
    have within : ¬ x.Overreads w := not_overreads_of fun _ => renews.not_pulls
    refine ⟨?_, ?_⟩
    · rw [MetEnd, since_snoc_iff]
      simp [renews, within]
    · rw [HasFailed, since_snoc_iff]
      simp [renews, not_misreads_of fun _ => renews.not_pulls,
        not_fallsShort_of fun _ => renews.not_pushes]
  | kept quiet =>
    refine (before _ old).snoc quiet.renews ?_ ?_
    · simp [not_overreads_of quiet.pulls, quiet.rewinds]
    · simp [not_misreads_of quiet.pulls, not_fallsShort_of quiet.pushes]
  | told quiet =>
    refine (before _ old).snoc quiet.renews ?_ ?_
    · simp [not_overreads_of quiet.pulls, quiet.rewinds]
    · simp [not_misreads_of quiet.pulls, not_fallsShort_of quiet.pushes]
  | rewound rewinds =>
    refine (before _ old).snoc (fun renews => renews.not_rewinds rewinds) ?_ ?_
    · simp [not_overreads_of fun _ => rewinds.not_pulls, rewinds]
    · simp [not_misreads_of fun _ => rewinds.not_pulls,
        not_fallsShort_of fun _ => rewinds.not_pushes]
  | @filled file count pulls =>
    have live : x.debugger.table.get? w = some file := by rw [table, old]
    have still : ¬ x.Rewinds w := fun rewinds => rewinds.not_pulls pulls
    have whole : ¬ x.FallsShort w := not_fallsShort_of fun _ => pulls.not_pushes
    refine (before _ old).snoc (fun renews => renews.not_pulls pulls) ?_ ?_
    · rw [overreads_iff pulls live]
      cases readable : file.stream.mode.readable with
      | true => simp [(FileStore.flags_fill_of_readable readable).1, still]
      | false => simp [FileStore.fill_of_unreadable readable pulls.pos, still]
    · rw [misreads_iff pulls live]
      cases readable : file.stream.mode.readable with
      | true => simp [(FileStore.flags_fill_of_readable readable).2, whole]
      | false => simp [FileStore.fill_of_unreadable readable pulls.pos]
  | @drained file data pushes =>
    have live : x.debugger.table.get? w = some file := by rw [table, old]
    have still : ¬ x.Rewinds w := fun rewinds => rewinds.not_pushes pushes
    have within : ¬ x.Overreads w := not_overreads_of fun _ pulls => pulls.not_pushes pushes
    have may : ¬ x.Misreads w := not_misreads_of fun _ pulls => pulls.not_pushes pushes
    have pos : 0 < data.size := by
      rw [pushes.size_eq]
      exact pushes.2.2.1
    obtain ⟨eof, error⟩ := FileStore.flags_drain x.host.files file pos
    refine (before _ old).snoc (fun renews => renews.not_pushes pushes) ?_ ?_
    · simp [eof, within, still]
    · rw [error, fallsShort_iff pushes live]
      simp [may]

/-- Along a whole run the flags of every handle stay true to it. -/
theorem Transcript.flagged {s₀ s : Stage FileStore StoredStream} (run : Transcript s₀ turns s)
    (start : s₀.debugger.handlers = .streams {} :: rest) :
    ∃ t rest', s.debugger.handlers = .streams t :: rest' ∧
      ∀ w file, t.get? w = some file → Flagged turns w file := by
  induction run with
  | nil =>
    refine ⟨{}, rest, start, fun w file live => ?_⟩
    cases live
  | @snoc turns s run machine ih =>
    obtain ⟨t, rest', handlers, flagged⟩ := ih
    obtain ⟨t', rest'', handlers', -⟩ := Turn.exists_tableStep (x := ⟨s, machine⟩) handlers
    refine ⟨t', rest'', handlers', fun w file live => ?_⟩
    apply Turn.flagged_after (x := ⟨s, machine⟩) handlers (flagged w)
    rw [Debugger.table_eq handlers']
    exact live

/-- What a call that asks for a flag is told. -/
theorem Turn.result?_of_flag (h : x.debugger.handlers = .streams t :: rest)
    (live : t.get? (x.arg 0) = some file) :
    (x.service? = some .feof → x.result? = some (if file.eof then 1 else 0)) ∧
      (x.service? = some .ferror → x.result? = some (if file.error then 1 else 0)) := by
  refine ⟨fun hs => ?_, fun hs => ?_⟩
  · have answer := answer?_of_streams h (react?_of_service hs)
    rw [result?_eq answer, Answer.map, StreamTable.flag, live]
    rfl
  · have answer := answer?_of_streams h (react?_of_service hs)
    rw [result?_eq answer, Answer.map, StreamTable.flag, live]
    rfl

/-! ### A read past the end of a file, and a move back -/

namespace PastEnd

/-- Eight bytes, with the path `f` and the mode `r` in front. -/
def memory : Memory := ⟨⟨#[0x66, 0, 0x72, 0, 0, 0, 0, 0]⟩, by decide⟩

/-- The file has two bytes. -/
def store : FileStore := { files := .ofList [("f", ⟨#[0x61, 0x62]⟩)] }

/-- The file is opened for reading. -/
def opening : Turn FileStore StoredStream :=
  ⟨.initial none { files := store }, .asking .fopen [0, 2] memory⟩

/-- Three bytes are asked for. -/
def reading : Turn FileStore StoredStream := ⟨opening.after, .asking .fread [4, 1, 3, 1] memory⟩

/-- A byte is written, which the mode does not allow. -/
def writing : Turn FileStore StoredStream := ⟨reading.after, .asking .fwrite [4, 1, 1, 1] memory⟩

/-- The stream moves back to the start. -/
def seeking : Turn FileStore StoredStream := ⟨writing.after, .asking .fseek [1, 0, 0] memory⟩

theorem run_writing : Transcript opening.toStage [opening, reading, writing] writing.after :=
  ((Transcript.nil.snoc _).snoc _).snoc _

theorem run_seeking :
    Transcript opening.toStage [opening, reading, writing, seeking] seeking.after :=
  run_writing.snoc _

/-- The guest asks for the first flag, or for the second. -/
def asking (s : Stage FileStore StoredStream) (service : Service) : Turn FileStore StoredStream :=
  ⟨s, .asking service [1] memory⟩

theorem live_writing : (writing.after.debugger.table.get? 1).isSome := by
  decide +kernel

theorem live_seeking : (seeking.after.debugger.table.get? 1).isSome := by
  decide +kernel

end PastEnd

/-- A guest that asks for a flag of an open handle is told whether a read has met the end of the
file, or whether a transfer has failed, since the flag was last cleared. -/
theorem Transcript.flags_iff {s₀ s : Stage FileStore StoredStream} (run : Transcript s₀ turns s)
    (start : s₀.debugger.handlers = .streams {} :: rest) (next : x.toStage = s)
    (handle : x.arg 0 = w) (live : (s.debugger.table.get? w).isSome) :
    (x.service? = some .feof →
        (x.result? = some 1 ↔ MetEnd turns w) ∧ (x.result? = some 0 ↔ ¬ MetEnd turns w)) ∧
      (x.service? = some .ferror →
        (x.result? = some 1 ↔ HasFailed turns w) ∧
          (x.result? = some 0 ↔ ¬ HasFailed turns w)) := by
  obtain ⟨t, rest', handlers, flagged⟩ := run.flagged start
  subst next
  subst handle
  rw [Debugger.table_eq handlers] at live
  obtain ⟨file, live⟩ := Option.isSome_iff_exists.mp live
  obtain ⟨eof, error⟩ := Turn.result?_of_flag handlers live
  obtain ⟨eof_iff, error_iff⟩ := flagged _ file live
  refine ⟨fun hs => ?_, fun hs => ?_⟩
  · rw [eof hs, ← eof_iff]
    cases file.eof <;> simp
  · rw [error hs, ← error_iff]
    cases file.error <;> simp

/-- The first flag is set by the read and cleared by the move, the second stays. -/
theorem flags_iff_pastEnd :
    ((PastEnd.asking PastEnd.writing.after .feof).result? = some 1 ∧
        MetEnd [PastEnd.opening, PastEnd.reading, PastEnd.writing] 1) ∧
      ((PastEnd.asking PastEnd.seeking.after .feof).result? = some 0 ∧
        ¬ MetEnd [PastEnd.opening, PastEnd.reading, PastEnd.writing, PastEnd.seeking] 1) ∧
      ((PastEnd.asking PastEnd.seeking.after .ferror).result? = some 1 ∧
        HasFailed [PastEnd.opening, PastEnd.reading, PastEnd.writing, PastEnd.seeking] 1) := by
  have met : (PastEnd.asking PastEnd.writing.after .feof).result? = some 1 := by decide +kernel
  have cleared : (PastEnd.asking PastEnd.seeking.after .feof).result? = some 0 := by
    decide +kernel
  have failed : (PastEnd.asking PastEnd.seeking.after .ferror).result? = some 1 := by
    decide +kernel
  have before := PastEnd.run_writing.flags_iff (x := PastEnd.asking PastEnd.writing.after .feof)
    rfl rfl (by decide +kernel) PastEnd.live_writing
  have first := PastEnd.run_seeking.flags_iff (x := PastEnd.asking PastEnd.seeking.after .feof)
    rfl rfl (by decide +kernel) PastEnd.live_seeking
  have second := PastEnd.run_seeking.flags_iff (x := PastEnd.asking PastEnd.seeking.after .ferror)
    rfl rfl (by decide +kernel) PastEnd.live_seeking
  exact ⟨⟨met, (before.1 (by decide +kernel)).1.mp met⟩,
    ⟨cleared, (first.1 (by decide +kernel)).2.mp cleared⟩,
    failed, (second.2 (by decide +kernel)).1.mp failed⟩

end Semihosting
