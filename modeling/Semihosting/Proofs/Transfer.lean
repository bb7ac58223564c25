import Semihosting.Stdio.OpenFile

/-!
# What a transfer keeps

A transfer repeats host requests. Whatever one request keeps of a stream, and of the files, the
whole transfer keeps as well, however many requests it takes.

## Main results

* `OpenFile.fill_keeps`, `OpenFile.drain_keeps` — an invariant of single requests is one of
  transfers
* `OpenFile.fillFrom_of_done`, `OpenFile.drainFrom_of_done` — where nothing is left to move, nothing
  is asked for
* `OpenFile.size_fill_le` — a read delivers no more than was wanted
* `OpenFile.count_drain_le` — a write takes no more than there is
-/

namespace Semihosting.OpenFile

variable {σ ς : Type} [FileHost σ ς]

/-! ### Reading -/

/-- Where nothing is wanted, nothing is asked for. -/
theorem fillFrom_of_done {files : σ} {rounds : Nat} {file : OpenFile ς} {delivered : ByteArray} :
    fillFrom files rounds file 0 delivered = { data := delivered, file } := by
  cases rounds with
  | zero => rfl
  | succ rounds => exact if_pos rfl

theorem fillFrom_keeps {files : σ} {P : ς → Prop}
    (step : ∀ stream count, P stream → P (FileHost.read files stream count).2)
    {rounds : Nat} {file : OpenFile ς} {wanted : Nat} {delivered : ByteArray}
    (start : P file.stream) :
    P (fillFrom files rounds file wanted delivered).file.stream := by
  -- However a request ends, the stream is the one that the step speaks of.
  induction rounds generalizing file wanted delivered with
  | zero => exact start
  | succ rounds ih =>
    have next := step file.stream wanted start
    unfold fillFrom
    split
    · exact start
    · split
      · next answered =>
        rw [answered] at next
        split
        · exact next
        · exact ih next
      · next interrupted =>
        rw [interrupted] at next
        exact ih next
      · next failed =>
        rw [failed] at next
        exact next

/-- What every read keeps of a stream, filling a buffer keeps. -/
theorem fill_keeps {files : σ} {P : ς → Prop}
    (step : ∀ stream count, P stream → P (FileHost.read files stream count).2)
    {file : OpenFile ς} {wanted : Nat} (start : P file.stream) :
    P (file.fill files wanted).file.stream :=
  fillFrom_keeps step start

theorem size_fillFrom_le {files : σ} {rounds : Nat} {file : OpenFile ς} {wanted : Nat}
    {delivered : ByteArray} :
    (fillFrom files rounds file wanted delivered).data.size ≤ delivered.size + wanted := by
  induction rounds generalizing file wanted delivered with
  | zero => exact Nat.le_add_right _ _
  | succ rounds ih =>
    unfold fillFrom
    split
    · exact Nat.le_add_right _ _
    · split
      · next answered =>
        have small := FileHost.size_le_of_read answered
        split
        · exact Nat.le_add_right _ _
        · -- What was delivered is no longer wanted.
          refine Nat.le_trans ih ?_
          rw [ByteArray.size_append]
          omega
      · exact ih
      · exact Nat.le_add_right _ _

/-- A read delivers no more than was wanted. -/
theorem size_fill_le (files : σ) (file : OpenFile ς) (wanted : Nat) :
    (file.fill files wanted).data.size ≤ wanted := by
  have bound : (file.fill files wanted).data.size ≤ ByteArray.empty.size + wanted :=
    size_fillFrom_le
  rw [ByteArray.size_empty, Nat.zero_add] at bound
  exact bound

/-! ### Writing -/

/-- Where everything is taken, nothing is passed on. -/
theorem drainFrom_of_done {data : ByteArray} {rounds : Nat} {files : σ} {file : OpenFile ς}
    {taken : Nat} (all : data.size ≤ taken) :
    drainFrom data rounds files file taken = { count := taken, files, file } := by
  cases rounds with
  | zero => rfl
  | succ rounds => exact if_pos all

theorem drainFrom_keeps {P : σ → ς → Prop}
    (step : ∀ files stream data, P files stream →
      P (FileHost.write files stream data).2.1 (FileHost.write files stream data).2.2)
    {data : ByteArray} {rounds : Nat} {files : σ} {file : OpenFile ς} {taken : Nat}
    (start : P files file.stream) :
    P (drainFrom data rounds files file taken).files
      (drainFrom data rounds files file taken).file.stream := by
  induction rounds generalizing files file taken with
  | zero => exact start
  | succ rounds ih =>
    -- The step is about any data, so it covers what is left after each request.
    have next := step files file.stream (data.extract taken data.size) start
    unfold drainFrom
    split
    · exact start
    · split
      · next answered =>
        rw [answered] at next
        split
        · exact next
        · exact ih next
      · next interrupted =>
        rw [interrupted] at next
        exact ih next
      · next failed =>
        rw [failed] at next
        exact next

/-- What every write keeps of the files and a stream, draining a buffer keeps. -/
theorem drain_keeps {P : σ → ς → Prop}
    (step : ∀ files stream data, P files stream →
      P (FileHost.write files stream data).2.1 (FileHost.write files stream data).2.2)
    {files : σ} {file : OpenFile ς} {data : ByteArray} (start : P files file.stream) :
    P (file.drain files data).files (file.drain files data).file.stream :=
  drainFrom_keeps step start

theorem count_drainFrom_le {data : ByteArray} {rounds : Nat} {files : σ} {file : OpenFile ς}
    {taken : Nat} (le : taken ≤ data.size) :
    (drainFrom data rounds files file taken).count ≤ data.size := by
  induction rounds generalizing files file taken with
  | zero => exact le
  | succ rounds ih =>
    unfold drainFrom
    split
    · exact le
    · split
      · next answered =>
        have small := FileHost.le_size_of_write answered
        rw [ByteArray.size_extract, Nat.min_self] at small
        split
        · exact le
        · exact ih (by omega)
      · exact ih le
      · exact le

/-- A write takes no more than there is. -/
theorem count_drain_le (files : σ) (file : OpenFile ς) (data : ByteArray) :
    (file.drain files data).count ≤ data.size :=
  count_drainFrom_le (Nat.zero_le _)

end Semihosting.OpenFile
