import Semihosting.File.Rehearsal
import Semihosting.Proofs.Faults
import Semihosting.Proofs.Transfer

/-!
# A faulting call changes nothing

The handlers look at all of guest memory that a call needs before they turn to the host, and touch
the registers last. So a call that faults leaves machine, debugger and host as they were. One call
cannot know in advance: a read learns only from the stream how much there is to store. If that
finds no room, the stream has moved on, and still nothing else has changed.

## Main definitions

* `RehearsedStream.ReadOn` — a stream that differs from another one only in how far it was read

## Main results

* `Turn.faults_iff` — exactly when a call of a debugging session faults, and how
* `Turn.unchanged_or_overran` — what a faulting call leaves behind
-/

namespace Semihosting

/-! ### Streams that were read on -/

/-- The next cues come behind the first. -/
theorem Cue.next_suffix {α : Type} (usedUp : α) (cues : List (Cue α)) :
    (next usedUp cues).2 <:+ cues := by
  unfold next
  split
  · exact List.suffix_refl _
  · exact List.suffix_cons _ _
  · exact List.suffix_cons _ _
  · exact List.suffix_cons _ _

/-- The second stream is the first one read on: it has another position, or fewer read cues, and
all else is the same. -/
inductive RehearsedStream.ReadOn : RehearsedStream → RehearsedStream → Prop
  | stored (stream : StoredStream) {position : Nat} (le : stream.position ≤ position) :
      ReadOn (.stored stream) (.stored { stream with position })
  | scripted (script : Script) {reads : List (Cue ByteArray)} (suffix : reads <:+ script.reads) :
      ReadOn (.scripted script) (.scripted { script with reads })

theorem RehearsedStream.ReadOn.refl (stream : RehearsedStream) : ReadOn stream stream := by
  cases stream with
  | stored stream => exact .stored stream (Nat.le_refl _)
  | scripted script => exact .scripted script (List.suffix_refl _)

/-- One more read reads on. -/
theorem RehearsedStream.ReadOn.read {first stream : RehearsedStream} (h : ReadOn first stream)
    (files : Rehearsal) (count : Nat) : ReadOn first (files.read stream count).2 := by
  cases h with
  | stored start le =>
    simp only [Rehearsal.read, FileStore.read]
    -- A stream that may not be read stays where it is.
    split
    · exact .stored start (Nat.le_trans le (Nat.le_add_right _ _))
    · exact .stored start le
  | scripted script suffix =>
    exact .scripted script ((Cue.next_suffix _ _).trans suffix)

/-- However many requests it takes, filling a buffer reads on. -/
theorem RehearsedStream.readOn_fill (files : Rehearsal) (file : OpenFile RehearsedStream)
    (wanted : Nat) : ReadOn file.stream (file.fill files wanted).file.stream :=
  OpenFile.fill_keeps (fun _ count h => h.read files count) (.refl _)

/-! ### A stream that stops early

The file `f` is interrupted once, delivers three bytes and breaks. The guest opens it and asks for
two items of two bytes, which are to go to the last address of its memory. -/

namespace Overrun

/-- Sixteen bytes, with the path `f` and the mode `r` in front. -/
def memory : Memory := ⟨⟨#[0x66, 0, 0x72, 0, 0, 0, 0, 0, 0, 0, 0, 0, 0, 0, 0, 0]⟩, by decide⟩

/-- What the stream plays. -/
def script : Script := { reads := [.interrupted, .reply ⟨#[1, 2, 3]⟩, .broken] }

/-- A host on which `f` plays the script. -/
def host : Host Rehearsal := { files := { scripts := .ofList [("f", script)] } }

/-- The guest opens the file. -/
def opening : Turn Rehearsal RehearsedStream :=
  ⟨.initial none host, .asking .fopen [0, 2] memory⟩

/-- The guest reads, with one byte of room. -/
def reading : Turn Rehearsal RehearsedStream :=
  ⟨opening.after, .asking .fread [15, 2, 2, 1] memory⟩

theorem reading_reachable : reading.toStage.Reachable :=
  ⟨none, host, _, Transcript.nil.snoc _⟩

theorem reading_live :
    reading.debugger.table.get? (reading.arg 3) = some { stream := .scripted script } := by
  cbv

/-- One whole item arrives before the stream breaks, and it is a byte too long. -/
theorem reading_faults : reading.Faults (.outOfBounds 15 2) := by
  have outside : ¬ reading.memory.Holds (reading.arg 0)
      (reading.items { stream := .scripted script }).size := by
    decide +kernel
  have faults := Turn.Faults.stored (by cbv) reading_live (by cbv) (by decide +kernel) outside
  have fault : Fault.outOfBounds (reading.arg 0)
      (UInt64.ofNat (reading.items { stream := .scripted script }).size) = .outOfBounds 15 2 := by
    cbv
  rw [fault] at faults
  exact faults

theorem reading_outcome : reading.serviced.outcome = .error (.outOfBounds 15 2) := by
  cbv

end Overrun

/-! ### Sessions -/

namespace Turn

/-- A call of a debugging session faults exactly if there is a cause, whatever host it runs on, and
the fault names the cause. -/
theorem faults_iff {σ ς : Type} [FileHost σ ς] {x : Turn σ ς} (reachable : x.toStage.Reachable)
    {fault : Fault} : x.serviced.outcome = .error fault ↔ x.Faults fault := by
  obtain ⟨t, f, c, h⟩ := reachable.exists_panel
  constructor
  · exact faults_of_error h
  · intro hf
    rcases error_of_faults h hf with ⟨he, -⟩ | ⟨he, -⟩
    · exact he
    · exact he

/-- The read that finds no room faults, whatever else its stream would have done. -/
theorem faults_iff_overrun :
    Overrun.reading.toStage.Reachable ∧
      (Overrun.reading.serviced.outcome = .error (.outOfBounds 15 2) ↔
        Overrun.reading.Faults (.outOfBounds 15 2)) ∧
      Overrun.reading.serviced.outcome = .error (.outOfBounds 15 2) :=
  ⟨Overrun.reading_reachable, faults_iff Overrun.reading_reachable,
    (faults_iff Overrun.reading_reachable).mpr Overrun.reading_faults⟩

/-- A faulting call leaves machine, debugger and host as they were, unless it is a read whose items
find no room in memory; then the stream of its handle was read on, and only that. -/
theorem unchanged_or_overran {x : Turn Rehearsal RehearsedStream}
    (reachable : x.toStage.Reachable) {fault : Fault}
    (he : x.serviced.outcome = .error fault) :
    x.Unchanged ∨ ∃ t f c file moved, x.Overran t f c file moved ∧
      RehearsedStream.ReadOn file.stream moved.stream := by
  obtain ⟨t, f, c, h⟩ := reachable.exists_panel
  -- Every fault has a cause, and every cause but one leaves everything as it was.
  rcases error_of_faults h (faults_of_error h he) with ⟨-, same⟩ | ⟨-, file, overran⟩
  · exact Or.inl same
  · exact Or.inr ⟨t, f, c, file, _, overran, RehearsedStream.readOn_fill _ _ _⟩

/-- The read that finds no room has moved its stream on, past the interruption, the bytes and the
break. -/
theorem overran_overrun :
    (Overrun.reading.Unchanged ∨ ∃ t f c file moved, Overrun.reading.Overran t f c file moved ∧
      RehearsedStream.ReadOn file.stream moved.stream) ∧
    Overrun.reading.after.debugger.table.get? 1 =
      some { stream := .scripted {}, error := true } :=
  ⟨unchanged_or_overran Overrun.reading_reachable Overrun.reading_outcome, by cbv⟩

end Turn

end Semihosting
