import Semihosting.File.Host

/-!
# Open files

A stdio stream is a host stream with two flags. Reading and writing repeat host requests until the
transfer is complete or the stream stops: at the end of the file, at an error, or where nothing
more is taken. An interrupted request is simply made again.

## Main definitions

* `OpenFile` — a host stream with its end-of-file and error flags
* `OpenFile.fill` — reading up to a number of bytes
* `OpenFile.drain` — writing a byte string

## Main results

* `OpenFile.fillFrom_eq_of_le`, `OpenFile.drainFrom_eq_of_le` — the bound on the number of requests
  never cuts a transfer short
-/

namespace Semihosting

/-- A stdio stream. -/
structure OpenFile (ς : Type) where
  stream : ς
  /-- A read has met the end of the file. -/
  eof : Bool := false
  /-- A transfer has failed. -/
  error : Bool := false
deriving DecidableEq

/-- What a read from an open file leaves behind. -/
structure Filled (ς : Type) where
  data : ByteArray
  file : OpenFile ς
  /-- The error that stopped the read, if one did. -/
  failure : Option IoError := none

/-- What a write to an open file leaves behind. -/
structure Drained (σ ς : Type) where
  /-- How many bytes were taken. -/
  count : Nat
  files : σ
  file : OpenFile ς
  /-- The error that stopped the write, if one did. -/
  failure : Option IoError := none

namespace OpenFile

variable {σ ς : Type} [FileHost σ ς]

/-- Reads `wanted` more bytes behind those already delivered, in at most `rounds` requests. -/
def fillFrom (files : σ) : Nat → OpenFile ς → Nat → ByteArray → Filled ς
  | 0, file, _, delivered => { data := delivered, file }
  | rounds + 1, file, wanted, delivered =>
    if wanted = 0 then { data := delivered, file }
    else match FileHost.read files file.stream wanted with
      | (.ok data, stream) =>
        -- A read that delivers nothing has met the end of the file.
        if data.size = 0 then { data := delivered, file := { file with stream, eof := true } }
        else fillFrom files rounds { file with stream } (wanted - data.size) (delivered ++ data)
      | (.error .interrupted, stream) =>
        -- Nothing was delivered; the same request is made again.
        fillFrom files rounds { file with stream } wanted delivered
      | (.error reason, stream) =>
        { data := delivered, file := { file with stream, error := true }, failure := reason }

/-- Reads until `wanted` bytes are there or the stream stops. Each request delivers a byte, uses up
an interruption or ends the read, which bounds their number. -/
def fill (files : σ) (file : OpenFile ς) (wanted : Nat) : Filled ς :=
  file.fillFrom files (wanted + FileHost.readDelays (σ := σ) file.stream) wanted .empty

/-- Writes the bytes of `data` from position `taken` on, in at most `rounds` requests. -/
def drainFrom (data : ByteArray) : Nat → σ → OpenFile ς → Nat → Drained σ ς
  | 0, files, file, taken => { count := taken, files, file }
  | rounds + 1, files, file, taken =>
    if data.size ≤ taken then { count := taken, files, file }
    else match FileHost.write files file.stream (data.extract taken data.size) with
      | (.ok count, files, stream) =>
        -- A stream that takes nothing will take nothing more.
        if count = 0 then { count := taken, files, file := { file with stream, error := true } }
        else drainFrom data rounds files { file with stream } (taken + count)
      -- Nothing was taken; the same bytes are offered again.
      | (.error .interrupted, files, stream) =>
        drainFrom data rounds files { file with stream } taken
      | (.error reason, files, stream) =>
        { count := taken, files, file := { file with stream, error := true }, failure := reason }

/-- Writes as much of `data` as the stream takes. Each request takes a byte, uses up an
interruption or ends the write, which bounds their number. -/
def drain (files : σ) (file : OpenFile ς) (data : ByteArray) : Drained σ ς :=
  drainFrom data (data.size + FileHost.writeDelays (σ := σ) file.stream) files file 0

/-! ### The bound on requests -/

/-- Once there are enough requests for every byte and every interruption, more of them make no
difference to a read. -/
theorem fillFrom_eq_of_le (files : σ) {rounds more : Nat} {file : OpenFile ς} {wanted : Nat}
    {delivered : ByteArray} (enough : wanted + FileHost.readDelays (σ := σ) file.stream ≤ rounds)
    (le : rounds ≤ more) :
    fillFrom files more file wanted delivered = fillFrom files rounds file wanted delivered := by
  induction rounds generalizing more file wanted delivered with
  | zero =>
    have none : wanted = 0 := by omega
    cases more with
    | zero => rfl
    | succ more => simp [fillFrom, none]
  | succ rounds ih =>
    obtain ⟨more, rfl⟩ : ∃ k, more = k + 1 := ⟨more - 1, by omega⟩
    have fewer := FileHost.readDelays_le files file.stream wanted
    unfold fillFrom
    split
    · rfl
    · split
      · next answered =>
        rw [answered] at fewer
        split
        · rfl
        · exact ih (by dsimp only at fewer ⊢; omega) (by omega)
      · next interrupted =>
        have less := FileHost.readDelays_lt interrupted
        exact ih (by dsimp only; omega) (by omega)
      · rfl

/-- Once there are enough requests for every byte and every interruption, more of them make no
difference to a write. -/
theorem drainFrom_eq_of_le {data : ByteArray} {rounds more : Nat} {files : σ} {file : OpenFile ς}
    {taken : Nat}
    (enough : data.size - taken + FileHost.writeDelays (σ := σ) file.stream ≤ rounds)
    (le : rounds ≤ more) :
    drainFrom data more files file taken = drainFrom data rounds files file taken := by
  induction rounds generalizing more files file taken with
  | zero =>
    have all : data.size ≤ taken := by omega
    cases more with
    | zero => rfl
    | succ more => simp [drainFrom, all]
  | succ rounds ih =>
    obtain ⟨more, rfl⟩ : ∃ k, more = k + 1 := ⟨more - 1, by omega⟩
    have fewer := FileHost.writeDelays_le files file.stream (data.extract taken data.size)
    unfold drainFrom
    split
    · rfl
    · split
      · next answered =>
        rw [answered] at fewer
        split
        · rfl
        · exact ih (by dsimp only at fewer ⊢; omega) (by omega)
      · next interrupted =>
        have less := FileHost.writeDelays_lt interrupted
        exact ih (by dsimp only; omega) (by omega)
      · rfl

end OpenFile

end Semihosting
