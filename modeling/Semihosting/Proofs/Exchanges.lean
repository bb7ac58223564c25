import Semihosting.Proofs.Handles
import Semihosting.Proofs.StoredFile

/-!
# What a call says to a stream, and what the stream answers

A transfer makes requests of a host stream until it is complete or the stream stops. The exchange of
requests and answers is listed here beside the transfer itself, request by request, so that the
outcome of the transfer can be read off the list: what was delivered, what was accepted, and whether
anything failed.

## Main definitions

* `Exchange` — a request to a host stream, with its answer
* `OpenFile.readLog`, `OpenFile.writeLog` — the exchanges of a transfer
* `Turn.exchanges`, `Turn.exchangesOn` — the exchanges of a call, and those with one handle's stream

## Main results

* `OpenFile.fill_data`, `OpenFile.fill_error` — what a read delivers, and when it fails
* `OpenFile.readLog_of_short` — a read that delivers less than was wanted has met an end or an error
* `OpenFile.accepted_writeLog`, `OpenFile.drain_whole_iff` — what a write gets accepted, and when it
  is complete
-/

namespace Semihosting

/-- A request that a call makes of a host stream, with the answer. -/
inductive Exchange where
  | read (answer : Except IoError ByteArray)
  | write (slice : ByteArray) (answer : Except IoError Nat)
  | flush (answer : Except IoError Unit)

namespace Exchange

/-- The bytes that the stream has delivered. -/
def delivered : Exchange → List UInt8
  | read (.ok data) => data.data.toList
  | _ => []

/-- The bytes that the stream has accepted: the beginning of the slice. -/
def accepted : Exchange → List UInt8
  | write slice (.ok count) => slice.data.toList.take count
  | _ => []

/-- A read was asked for. -/
def isRead : Exchange → Bool
  | read _ => true
  | _ => false

/-- A write was asked for. -/
def isWrite : Exchange → Bool
  | write _ _ => true
  | _ => false

/-- A read was refused, and not only interrupted. -/
def readFails : Exchange → Bool
  | read (.error reason) => reason ≠ .interrupted
  | _ => false

/-- A read after which a transfer asks for no more: nothing was delivered, or the read was refused
and not only interrupted. -/
def readEnds : Exchange → Bool
  | read (.ok data) => data.size = 0
  | read (.error reason) => reason ≠ .interrupted
  | _ => false

/-- A write was refused, and not only interrupted, or nothing was accepted. -/
def writeFails : Exchange → Bool
  | write _ (.error reason) => reason ≠ .interrupted
  | write _ (.ok count) => count = 0
  | _ => false

/-- The last read of a transfer fails unless it has found the end. -/
theorem eq_of_readEnds {e : Exchange} (ends : e.readEnds) (well : e.readFails = false) :
    e = read (.ok .empty) := by
  cases e with
  | read answer =>
    cases answer with
    | ok data =>
      have none : data.size = 0 := of_decide_eq_true ends
      rw [ByteArray.size_eq_zero_iff.mp none]
    | error reason => exact absurd ends (by rw [readEnds, ← readFails, well]; exact nofun)
  | write | flush => cases ends

theorem not_isWrite_of_isRead {e : Exchange} (h : e.isRead) : ¬ e.isWrite := by
  cases e with
  | read answer => exact Bool.false_ne_true
  | write | flush => cases h

theorem accepted_of_isRead {e : Exchange} (h : e.isRead) : e.accepted = [] := by
  cases e with
  | read answer => rfl
  | write | flush => cases h

theorem writeFails_of_isRead {e : Exchange} (h : e.isRead) : e.writeFails = false := by
  cases e with
  | read answer => rfl
  | write | flush => cases h

theorem delivered_of_isWrite {e : Exchange} (h : e.isWrite) : e.delivered = [] := by
  cases e with
  | write slice answer => rfl
  | read | flush => cases h

theorem readFails_of_isWrite {e : Exchange} (h : e.isWrite) : e.readFails = false := by
  cases e with
  | write slice answer => rfl
  | read | flush => cases h

/-! Of a list of exchanges, the reads alone tell what was delivered, and the writes alone what was
accepted. -/

variable (log : List Exchange)

theorem delivered_filter_isRead :
    (log.filter isRead).flatMap delivered = log.flatMap delivered := by
  induction log with
  | nil => rfl
  | cons e rest ih => cases e <;> simp [List.filter_cons, isRead, delivered, ih]

theorem accepted_filter_isWrite :
    (log.filter isWrite).flatMap accepted = log.flatMap accepted := by
  induction log with
  | nil => rfl
  | cons e rest ih => cases e <;> simp [List.filter_cons, isWrite, accepted, ih]

theorem readFails_filter_isRead : (log.filter isRead).any readFails = log.any readFails := by
  induction log with
  | nil => rfl
  | cons e rest ih => cases e <;> simp [List.filter_cons, isRead, readFails, ih]

theorem writeFails_filter_isWrite : (log.filter isWrite).any writeFails = log.any writeFails := by
  induction log with
  | nil => rfl
  | cons e rest ih => cases e <;> simp [List.filter_cons, isWrite, writeFails, ih]

end Exchange

namespace OpenFile

variable {σ ς : Type} [FileHost σ ς] {files : σ} {file : OpenFile ς}

/-! ### Reading -/

/-- The exchanges of a read. -/
def readLogFrom (files : σ) : Nat → OpenFile ς → Nat → List Exchange
  | 0, _, _ => []
  | rounds + 1, file, wanted =>
    if wanted = 0 then []
    else match FileHost.read files file.stream wanted with
      | (.ok data, stream) =>
        .read (.ok data) ::
          if data.size = 0 then []
          else readLogFrom files rounds { file with stream } (wanted - data.size)
      | (.error .interrupted, stream) =>
        .read (.error .interrupted) :: readLogFrom files rounds { file with stream } wanted
      | (.error reason, _) => [.read (.error reason)]

/-- The exchanges of reading up to a number of bytes. -/
def readLog (files : σ) (file : OpenFile ς) (wanted : Nat) : List Exchange :=
  file.readLogFrom files (wanted + FileHost.readDelays (σ := σ) file.stream) wanted

theorem data_fillFrom {rounds wanted : Nat} {delivered : ByteArray} :
    (fillFrom files rounds file wanted delivered).data.data.toList =
      delivered.data.toList ++
        (readLogFrom files rounds file wanted).flatMap Exchange.delivered := by
  induction rounds generalizing file wanted delivered with
  | zero => simp [fillFrom, readLogFrom]
  | succ rounds ih =>
    unfold fillFrom readLogFrom
    split
    · simp
    · rcases FileHost.read files file.stream wanted with ⟨reason | data, stream⟩
      · by_cases interrupted : reason = .interrupted
        · subst interrupted
          dsimp only
          rw [ih]
          simp [Exchange.delivered]
        · simp [Exchange.delivered]
      · dsimp only
        split
        · next none =>
          have empty : data.data.toList = [] := by
            rw [← List.length_eq_zero_iff, Bytes.length_toList, none]
          rw [List.flatMap_cons, Exchange.delivered, empty]
          simp
        · rw [ih]
          simp [Exchange.delivered]

/-- A read delivers what the stream delivers. -/
theorem fill_data (files : σ) (file : OpenFile ς) (wanted : Nat) :
    (file.fill files wanted).data.data.toList =
      (file.readLog files wanted).flatMap Exchange.delivered := by
  have delivered : (file.fill files wanted).data.data.toList =
      ByteArray.empty.data.toList ++ (file.readLog files wanted).flatMap Exchange.delivered :=
    data_fillFrom
  exact delivered

theorem error_fillFrom {rounds wanted : Nat} {delivered : ByteArray} :
    (fillFrom files rounds file wanted delivered).file.error =
      (file.error || (readLogFrom files rounds file wanted).any Exchange.readFails) := by
  induction rounds generalizing file wanted delivered with
  | zero => simp [fillFrom, readLogFrom]
  | succ rounds ih =>
    unfold fillFrom readLogFrom
    split
    · simp
    · rcases FileHost.read files file.stream wanted with ⟨reason | data, stream⟩
      · by_cases interrupted : reason = .interrupted
        · subst interrupted
          dsimp only
          rw [ih]
          simp [Exchange.readFails]
        · simp [Exchange.readFails, interrupted]
      · dsimp only
        split
        · simp [Exchange.readFails]
        · rw [ih]
          simp [Exchange.readFails]

/-- The error flag of a stream is set by a read that is refused, and stays. -/
theorem fill_error (files : σ) (file : OpenFile ς) (wanted : Nat) :
    (file.fill files wanted).file.error =
      (file.error || (file.readLog files wanted).any Exchange.readFails) :=
  error_fillFrom

theorem readLogFrom_of_short {rounds wanted : Nat} {delivered : ByteArray}
    (enough : wanted + FileHost.readDelays (σ := σ) file.stream ≤ rounds)
    (short : (fillFrom files rounds file wanted delivered).data.size < delivered.size + wanted) :
    ∃ front last, readLogFrom files rounds file wanted = front ++ [last] ∧ last.readEnds := by
  induction rounds generalizing file wanted delivered with
  | zero =>
    obtain rfl : wanted = 0 := by omega
    exact absurd short (Nat.lt_irrefl _)
  | succ rounds ih =>
    unfold fillFrom at short
    unfold readLogFrom
    split at short
    · next zero => exact absurd short (by rw [zero]; exact Nat.lt_irrefl _)
    · next some_left =>
      rw [if_neg some_left]
      have fewer := FileHost.readDelays_le files file.stream wanted
      rcases answered : FileHost.read files file.stream wanted with ⟨reason | data, stream⟩
      · rw [answered] at short
        by_cases interrupted : reason = .interrupted
        · subst interrupted
          have less := FileHost.readDelays_lt answered
          obtain ⟨front, last, log, ends⟩ := ih (by dsimp only; omega) short
          exact ⟨_ :: front, last, congrArg (List.cons _) log, ends⟩
        · exact ⟨[], .read (.error reason), by simp, by simp [Exchange.readEnds, interrupted]⟩
      · rw [answered] at short fewer
        have small := FileHost.size_le_of_read answered
        dsimp only at short fewer ⊢
        split at short
        · next none =>
          rw [if_pos none]
          exact ⟨[], _, rfl, by simp [Exchange.readEnds, none]⟩
        · next some =>
          rw [if_neg some]
          have further : (fillFrom files rounds { file with stream } (wanted - data.size)
              (delivered ++ data)).data.size < (delivered ++ data).size + (wanted - data.size) := by
            rw [ByteArray.size_append]
            omega
          obtain ⟨front, last, log, ends⟩ := ih (by dsimp only; omega) further
          exact ⟨_ :: front, last, congrArg (List.cons _) log, ends⟩

/-- A read that delivers less than was wanted has met the end of the stream or an error. -/
theorem readLog_of_short (files : σ) (file : OpenFile ς) {wanted : Nat}
    (short : (file.fill files wanted).data.size < wanted) :
    ∃ front last, file.readLog files wanted = front ++ [last] ∧ last.readEnds :=
  readLogFrom_of_short (Nat.le_refl _)
    (show (file.fill files wanted).data.size < ByteArray.empty.size + wanted by
      rw [ByteArray.size_empty, Nat.zero_add]
      exact short)

theorem all_isRead_readLogFrom {rounds wanted : Nat} :
    (readLogFrom files rounds file wanted).all Exchange.isRead := by
  induction rounds generalizing file wanted with
  | zero => rfl
  | succ rounds ih =>
    unfold readLogFrom
    split
    · rfl
    · rcases FileHost.read files file.stream wanted with ⟨reason | data, stream⟩
      · by_cases interrupted : reason = .interrupted
        · subst interrupted
          exact ih
        · simp [Exchange.isRead]
      · dsimp only
        split
        · rfl
        · exact ih

/-- A read accepts nothing. -/
theorem accepted_readLog (files : σ) (file : OpenFile ς) (wanted : Nat) :
    (file.readLog files wanted).flatMap Exchange.accepted = [] := by
  rw [List.flatMap_eq_nil_iff]
  intro e there
  exact Exchange.accepted_of_isRead (List.all_eq_true.mp all_isRead_readLogFrom e there)

theorem writeFails_readLog (files : σ) (file : OpenFile ς) (wanted : Nat) :
    (file.readLog files wanted).any Exchange.writeFails = false := by
  rw [List.any_eq_false]
  intro e there
  rw [Exchange.writeFails_of_isRead (List.all_eq_true.mp all_isRead_readLogFrom e there)]
  exact Bool.false_ne_true

/-- All exchanges of a read are reads. -/
theorem filter_isRead_readLog (files : σ) (file : OpenFile ς) (wanted : Nat) :
    (file.readLog files wanted).filter Exchange.isRead = file.readLog files wanted :=
  List.filter_eq_self.mpr (List.all_eq_true.mp all_isRead_readLogFrom)

theorem filter_isWrite_readLog (files : σ) (file : OpenFile ς) (wanted : Nat) :
    (file.readLog files wanted).filter Exchange.isWrite = [] :=
  List.filter_eq_nil_iff.mpr fun e there =>
    Exchange.not_isWrite_of_isRead (List.all_eq_true.mp all_isRead_readLogFrom e there)

/-! ### Writing -/

/-- The exchanges of a write. -/
def writeLogFrom (data : ByteArray) : Nat → σ → OpenFile ς → Nat → List Exchange
  | 0, _, _, _ => []
  | rounds + 1, files, file, taken =>
    if data.size ≤ taken then []
    else match FileHost.write files file.stream (data.extract taken data.size) with
      | (.ok count, files, stream) =>
        .write (data.extract taken data.size) (.ok count) ::
          if count = 0 then []
          else writeLogFrom data rounds files { file with stream } (taken + count)
      | (.error .interrupted, files, stream) =>
        .write (data.extract taken data.size) (.error .interrupted) ::
          writeLogFrom data rounds files { file with stream } taken
      | (.error reason, _, _) => [.write (data.extract taken data.size) (.error reason)]

/-- The exchanges of writing a byte string. -/
def writeLog (files : σ) (file : OpenFile ς) (data : ByteArray) : List Exchange :=
  writeLogFrom data (data.size + FileHost.writeDelays (σ := σ) file.stream) files file 0

variable {data : ByteArray}

theorem accepted_writeLogFrom {rounds taken : Nat} (le : taken ≤ data.size) :
    data.data.toList.take taken ++
        (writeLogFrom data rounds files file taken).flatMap Exchange.accepted =
      data.data.toList.take (drainFrom data rounds files file taken).count := by
  induction rounds generalizing files file taken with
  | zero => simp [drainFrom, writeLogFrom]
  | succ rounds ih =>
    unfold drainFrom writeLogFrom
    split
    · simp
    · rcases answered : FileHost.write files file.stream (data.extract taken data.size) with
        ⟨reason | count, files', stream⟩
      · by_cases interrupted : reason = .interrupted
        · subst interrupted
          dsimp only
          rw [← ih le]
          simp [Exchange.accepted]
        · simp [Exchange.accepted]
      · have small := FileHost.le_size_of_write answered
        rw [ByteArray.size_extract, Nat.min_self] at small
        -- The slice begins where the bytes end that were taken before.
        have slice : (data.extract taken data.size).data.toList = data.data.toList.drop taken := by
          rw [ByteArray.data_extract, Array.toList_extract, List.extract_eq_take_drop,
            List.take_of_length_le
              (Nat.le_of_eq (by rw [List.length_drop, Bytes.length_toList]))]
        dsimp only
        split
        · next none => simp [Exchange.accepted, none]
        · rw [← ih (by omega), List.take_add, List.append_assoc, List.flatMap_cons,
            Exchange.accepted, slice]

/-- A stream accepts as many bytes as a write counts. -/
theorem accepted_writeLog (files : σ) (file : OpenFile ς) (data : ByteArray) :
    (file.writeLog files data).flatMap Exchange.accepted =
      data.data.toList.take (file.drain files data).count := by
  have accepted : data.data.toList.take 0 ++
      (file.writeLog files data).flatMap Exchange.accepted =
        data.data.toList.take (file.drain files data).count :=
    accepted_writeLogFrom (Nat.zero_le _)
  exact accepted

theorem count_drainFrom_eq_size_iff {rounds taken : Nat} (le : taken ≤ data.size)
    (enough : data.size - taken + FileHost.writeDelays (σ := σ) file.stream ≤ rounds) :
    (drainFrom data rounds files file taken).count = data.size ↔
      (writeLogFrom data rounds files file taken).any Exchange.writeFails = false := by
  induction rounds generalizing files file taken with
  | zero =>
    have all : taken = data.size := by omega
    simp [drainFrom, writeLogFrom, all]
  | succ rounds ih =>
    unfold drainFrom writeLogFrom
    split
    · next all =>
      have all : taken = data.size := by omega
      simp [all]
    · next some_left =>
      have fewer := FileHost.writeDelays_le files file.stream (data.extract taken data.size)
      rcases answered : FileHost.write files file.stream (data.extract taken data.size) with
        ⟨reason | count, files', stream⟩
      · by_cases interrupted : reason = .interrupted
        · subst interrupted
          have less := FileHost.writeDelays_lt answered
          dsimp only
          rw [ih le (by dsimp only; omega)]
          simp [Exchange.writeFails]
        · have short : taken ≠ data.size := by omega
          simp [Exchange.writeFails, interrupted, short]
      · have small := FileHost.le_size_of_write answered
        rw [ByteArray.size_extract, Nat.min_self] at small
        rw [answered] at fewer
        dsimp only at fewer ⊢
        split
        · next none =>
          have short : taken ≠ data.size := by omega
          simp [Exchange.writeFails, none, short]
        · next some =>
          rw [ih (by omega) (by dsimp only; omega)]
          simp [Exchange.writeFails, some]

/-- A write is complete exactly if no request failed. -/
theorem drain_whole_iff (files : σ) (file : OpenFile ς) (data : ByteArray) :
    (file.drain files data).count = data.size ↔
      (file.writeLog files data).any Exchange.writeFails = false :=
  count_drainFrom_eq_size_iff (Nat.zero_le _) (by omega)

theorem all_isWrite_writeLogFrom {rounds taken : Nat} :
    (writeLogFrom data rounds files file taken).all Exchange.isWrite := by
  induction rounds generalizing files file taken with
  | zero => rfl
  | succ rounds ih =>
    unfold writeLogFrom
    split
    · rfl
    · rcases FileHost.write files file.stream (data.extract taken data.size) with
        ⟨reason | count, files', stream⟩
      · by_cases interrupted : reason = .interrupted
        · subst interrupted
          exact ih
        · simp [Exchange.isWrite]
      · dsimp only
        split
        · rfl
        · exact ih

/-- A write delivers nothing. -/
theorem delivered_writeLog (files : σ) (file : OpenFile ς) (data : ByteArray) :
    (file.writeLog files data).flatMap Exchange.delivered = [] := by
  rw [List.flatMap_eq_nil_iff]
  intro e there
  exact Exchange.delivered_of_isWrite (List.all_eq_true.mp all_isWrite_writeLogFrom e there)

theorem readFails_writeLog (files : σ) (file : OpenFile ς) (data : ByteArray) :
    (file.writeLog files data).any Exchange.readFails = false := by
  rw [List.any_eq_false]
  intro e there
  rw [Exchange.readFails_of_isWrite (List.all_eq_true.mp all_isWrite_writeLogFrom e there)]
  exact Bool.false_ne_true

/-- All exchanges of a write are writes. -/
theorem filter_isWrite_writeLog (files : σ) (file : OpenFile ς) (data : ByteArray) :
    (file.writeLog files data).filter Exchange.isWrite = file.writeLog files data :=
  List.filter_eq_self.mpr (List.all_eq_true.mp all_isWrite_writeLogFrom)

theorem filter_isRead_writeLog (files : σ) (file : OpenFile ς) (data : ByteArray) :
    (file.writeLog files data).filter Exchange.isRead = [] :=
  List.filter_eq_nil_iff.mpr fun e there read =>
    Exchange.not_isWrite_of_isRead read (List.all_eq_true.mp all_isWrite_writeLogFrom e there)

end OpenFile

/-! ### Calls -/

/-- What a call says to the stream that it is about: reads and writes as long as a transfer goes on,
or a flush when the stream is closed. -/
def Turn.exchanges {σ ς : Type} [FileHost σ ς] (x : Turn σ ς) : List Exchange :=
  match x.service?, x.debugger.table.get? (x.arg 3), x.debugger.table.get? (x.arg 0) with
  | some .fread, some file, _ =>
    if x.length ≤ StreamTable.transferLimit then file.readLog x.host.files x.length else []
  | some .fwrite, some file, _ =>
    if x.length ≤ StreamTable.transferLimit ∧ x.memory.Holds (x.arg 0) x.length then
      file.writeLog x.host.files (Bytes.window x.memory.bytes (x.arg 0).toNat x.length)
    else []
  | some .fgetc, _, some file => file.readLog x.host.files 1
  | some .fclose, _, some file => [.flush (FileHost.flush x.host.files file.stream).1]
  | _, _, _ => []

/-- What a call says to the stream under a handle. -/
def Turn.exchangesOn {σ ς : Type} [FileHost σ ς] (x : Turn σ ς) (handle : Word) : List Exchange :=
  if x.request.handle? = some handle then x.exchanges else []

section Calls

variable {σ ς : Type} [FileHost σ ς] {x : Turn σ ς} {handle : Word}

/-- A call says what it says to the stream that it names, and nothing to any other. -/
theorem Turn.exchangesOn_of_named (named : x.request.handle? = some handle) (w : Word) :
    x.exchangesOn w = if w = handle then x.exchanges else [] := by
  rw [exchangesOn, named]
  simp only [Option.some.injEq, eq_comm]

theorem Turn.exchangesOn_of_silent (silent : x.exchanges = []) (w : Word) :
    x.exchangesOn w = [] := by
  rw [exchangesOn, silent, ite_self]

end Calls

end Semihosting
