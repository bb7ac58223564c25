import Semihosting.Program.Run
import Semihosting.Proofs.Exchanges

/-!
# Moving data from one stream to another

To copy a file is to fill a buffer from one stream and to drain it into another, until nothing more
comes or something goes wrong. This is said here for the two streams alone, on any host and without
a bound on the number of rounds. Whatever the streams answer, what was read is what was written
when the copy ends well, and it ends well only if no request failed.

## Main definitions

* `Relay` — two streams and the files behind them
* `Relay.Runs` — the rounds of a copy, with what is moved and what is said

## Main results

* `Relay.exists_runs_of_left` — a copy comes to its end if its rounds use something up
* `Relay.Runs.finished_iff`, `Relay.Runs.writeFailed_iff` — a copy ends well exactly if no request
  failed, and it is stopped by a write exactly if one failed
* `Relay.Runs.accepted_eq` — what was delivered was accepted, unless a write failed
* `Relay.Runs.reads_end` — the input was read to its end or an error, unless a write failed
-/

namespace Semihosting

/-- A stream to read from and a stream to write to. -/
structure Relay (σ ς : Type) where
  files : σ
  input : OpenFile ς
  output : OpenFile ς

namespace Relay

/-- How a copy ends. -/
inductive Ending where
  | finished
  | readFailed
  | writeFailed
deriving DecidableEq

variable {σ ς : Type} [FileHost σ ς]

/-! ### Rounds -/

/-- What a round reads. -/
def filled (r : Relay σ ς) : Filled ς := r.input.fill r.files Program.chunk.toNat

/-- What becomes of it. -/
def drained (r : Relay σ ς) : Drained σ ς := r.output.drain r.files r.filled.data

/-- The two streams after a round. -/
def next (r : Relay σ ς) : Relay σ ς := ⟨r.drained.files, r.filled.file, r.drained.file⟩

/-- What a round asks of the stream it reads from. -/
def readLog (r : Relay σ ς) : List Exchange := r.input.readLog r.files Program.chunk.toNat

/-- What a round asks of the stream it writes to. -/
def writeLog (r : Relay σ ς) : List Exchange := r.output.writeLog r.files r.filled.data

/-- The rounds of a copy: the chunks that are read, the exchanges with both streams, how it ends,
and the streams as they are then. -/
inductive Runs : Relay σ ς → List ByteArray → List Exchange → Ending → Relay σ ς → Prop
  /-- Nothing was read. The error flag tells why. -/
  | dry {r : Relay σ ς} (none : r.filled.data.size = 0) :
      Runs r [] r.readLog (if r.filled.file.error then .readFailed else .finished)
        { r with input := r.filled.file }
  /-- Not everything was written that was read. -/
  | jammed {r : Relay σ ς} (some : r.filled.data.size ≠ 0)
      (part : r.drained.count ≠ r.filled.data.size) :
      Runs r [r.filled.data] (r.readLog ++ r.writeLog) .writeFailed r.next
  /-- Everything was written, and there may be more. -/
  | moved {r r' : Relay σ ς} {chunks : List ByteArray} {log : List Exchange} {ending : Ending}
      (some : r.filled.data.size ≠ 0) (whole : r.drained.count = r.filled.data.size)
      (rest : Runs r.next chunks log ending r') :
      Runs r (r.filled.data :: chunks) (r.readLog ++ r.writeLog ++ log) ending r'

/-! ### What a round says -/

section Round

variable (r : Relay σ ς)

@[simp] theorem delivered_readLog :
    r.readLog.flatMap Exchange.delivered = r.filled.data.data.toList :=
  (OpenFile.fill_data ..).symm

@[simp] theorem accepted_readLog : r.readLog.flatMap Exchange.accepted = [] :=
  OpenFile.accepted_readLog ..

@[simp] theorem writeFails_readLog : r.readLog.any Exchange.writeFails = false :=
  OpenFile.writeFails_readLog ..

@[simp] theorem delivered_writeLog : r.writeLog.flatMap Exchange.delivered = [] :=
  OpenFile.delivered_writeLog ..

@[simp] theorem readFails_writeLog : r.writeLog.any Exchange.readFails = false :=
  OpenFile.readFails_writeLog ..

@[simp] theorem filter_isRead_readLog : r.readLog.filter Exchange.isRead = r.readLog :=
  OpenFile.filter_isRead_readLog ..

@[simp] theorem filter_isWrite_readLog : r.readLog.filter Exchange.isWrite = [] :=
  OpenFile.filter_isWrite_readLog ..

@[simp] theorem filter_isRead_writeLog : r.writeLog.filter Exchange.isRead = [] :=
  OpenFile.filter_isRead_writeLog ..

@[simp] theorem filter_isWrite_writeLog : r.writeLog.filter Exchange.isWrite = r.writeLog :=
  OpenFile.filter_isWrite_writeLog ..

/-- A stream accepts what a write counts. -/
theorem accepted_writeLog :
    r.writeLog.flatMap Exchange.accepted = r.filled.data.data.toList.take r.drained.count :=
  OpenFile.accepted_writeLog ..

/-- A read sets the error flag if it fails. -/
theorem error_filled :
    r.filled.file.error = (r.input.error || r.readLog.any Exchange.readFails) :=
  OpenFile.fill_error ..

/-- A write is complete exactly if it does not fail. -/
theorem count_drained_iff :
    r.drained.count = r.filled.data.size ↔ r.writeLog.any Exchange.writeFails = false :=
  OpenFile.drain_whole_iff ..

end Round

/-- If every round that reads something uses up a part of what is left, a copy comes to its end
before that. -/
theorem exists_runs_of_left {P : Nat → Relay σ ς → Prop}
    (step : ∀ {n r}, P n r → r.filled.data.size ≠ 0 → ∃ m < n, P m r.next)
    {n : Nat} {r : Relay σ ς} (start : P n r) :
    ∃ chunks log ending r', r.Runs chunks log ending r' ∧ chunks.length ≤ n := by
  induction n using Nat.strong_induction_on generalizing r with
  | _ n ih =>
    by_cases none : r.filled.data.size = 0
    · exact ⟨_, _, _, _, .dry none, Nat.zero_le _⟩
    · obtain ⟨m, fewer, further⟩ := step start none
      by_cases whole : r.drained.count = r.filled.data.size
      · obtain ⟨chunks, log, ending, r', runs, le⟩ := ih m fewer further
        refine ⟨_, _, _, r', runs.moved none whole, ?_⟩
        rw [List.length_cons]
        omega
      · refine ⟨_, _, _, _, .jammed none whole, ?_⟩
        rw [List.length_singleton]
        omega

/-! ### What a copy moves -/

namespace Runs

variable {r r' : Relay σ ς} {chunks : List ByteArray} {log : List Exchange} {ending : Ending}

theorem toList_eq_nil {bytes : ByteArray} (none : bytes.size = 0) : bytes.data.toList = [] := by
  rw [← List.length_eq_zero_iff, Bytes.length_toList, none]

/-- What was delivered was accepted, unless a write failed. -/
theorem accepted_eq (runs : Runs r chunks log ending r') (ended : ending ≠ .writeFailed) :
    log.flatMap Exchange.accepted = log.flatMap Exchange.delivered := by
  induction runs with
  | dry none => rw [delivered_readLog, accepted_readLog, toList_eq_nil none]
  | jammed some part => exact absurd rfl ended
  | @moved r r' chunks log ending some whole rest ih =>
    have all : r.writeLog.flatMap Exchange.accepted = r.filled.data.data.toList := by
      rw [accepted_writeLog, whole, List.take_of_length_le (Nat.le_of_eq (Bytes.length_toList _))]
    simp only [List.flatMap_append, accepted_readLog, delivered_readLog, delivered_writeLog, all,
      ih ended, List.nil_append, List.append_nil]

/-- A copy ends well exactly if there was no error before and no request failed. -/
theorem finished_iff (runs : Runs r chunks log ending r') :
    ending = .finished ↔ r.input.error = false ∧ log.any Exchange.readFails = false ∧
      log.any Exchange.writeFails = false := by
  induction runs with
  | @dry r none =>
    rw [error_filled, writeFails_readLog]
    cases r.input.error <;> cases r.readLog.any Exchange.readFails <;> decide
  | @jammed r some part =>
    have failed : r.writeLog.any Exchange.writeFails ≠ false := mt r.count_drained_iff.mpr part
    simp [failed]
  | @moved r r' chunks log ending some whole rest ih =>
    have error : r.next.input.error = (r.input.error || r.readLog.any Exchange.readFails) :=
      r.error_filled
    rw [ih, error]
    simp only [List.any_append, writeFails_readLog, readFails_writeLog,
      r.count_drained_iff.mp whole, Bool.or_eq_false_iff, Bool.or_false, Bool.false_or, and_assoc]

/-- A copy is stopped by a write exactly if one failed. -/
theorem writeFailed_iff (runs : Runs r chunks log ending r') :
    ending = .writeFailed ↔ log.any Exchange.writeFails = true := by
  induction runs with
  | @dry r none =>
    rw [writeFails_readLog]
    cases r.filled.file.error <;> decide
  | @jammed r some part =>
    have failed : r.writeLog.any Exchange.writeFails ≠ false := mt r.count_drained_iff.mpr part
    simp [failed]
  | @moved r r' chunks log ending some whole rest ih =>
    rw [ih, List.any_append, List.any_append, writeFails_readLog, r.count_drained_iff.mp whole]
    rfl

/-- A copy succeeds if it ends well and the output can be flushed: exactly if no read, no write and
not the flush has failed. -/
theorem succeeds_iff (runs : Runs r chunks log ending r') (fresh : r.input.error = false) :
    ending = .finished ∧ (FileHost.flush r'.files r'.output.stream).1.isOk = true ↔
      (log.filter Exchange.isRead).any Exchange.readFails = false ∧
        (log.filter Exchange.isWrite).any Exchange.writeFails = false ∧
        (FileHost.flush r'.files r'.output.stream).1 = .ok () := by
  have flush_iff : (FileHost.flush r'.files r'.output.stream).1.isOk = true ↔
      (FileHost.flush r'.files r'.output.stream).1 = .ok () := by
    cases (FileHost.flush r'.files r'.output.stream).1 <;> simp [Except.isOk, Except.toBool]
  rw [runs.finished_iff, and_iff_right fresh, flush_iff, Exchange.readFails_filter_isRead,
    Exchange.writeFails_filter_isWrite, and_assoc]

/-- Unless a write failed, the input was read until nothing was delivered or a read was refused. -/
theorem reads_end (runs : Runs r chunks log ending r') (ended : ending ≠ .writeFailed) :
    ∃ front last, log.filter Exchange.isRead = front ++ [last] ∧ last.readEnds := by
  induction runs with
  | @dry r none =>
    obtain ⟨front, last, log, ends⟩ := OpenFile.readLog_of_short r.files r.input
      (show r.filled.data.size < Program.chunk.toNat by rw [none]; decide)
    rw [filter_isRead_readLog]
    exact ⟨front, last, log, ends⟩
  | jammed some part => exact absurd rfl ended
  | @moved r r' chunks log ending some whole rest ih =>
    obtain ⟨front, last, further, ends⟩ := ih ended
    refine ⟨r.readLog ++ front, last, ?_, ends⟩
    rw [List.filter_append, List.filter_append, filter_isRead_readLog, filter_isRead_writeLog,
      List.append_nil, further, List.append_assoc]

end Runs

end Relay

end Semihosting
