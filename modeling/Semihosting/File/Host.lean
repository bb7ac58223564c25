import Semihosting.File.IoError
import Semihosting.File.OpenMode

/-!
# File hosts

A host keeps files and opens streams on them. Whatever the files are kept in, the guest's stdio
calls and whole-file writes need the operations collected here and the few laws they obey.

## Main definitions

* `Seek` — where a stream is asked to move
* `Seek.target?` — the position asked for
* `FileHost` — files of type `σ` with streams of type `ς`
-/

namespace Semihosting

/-- Where a stream is asked to move. -/
inductive Seek where
  /-- To a position from the start of the file. -/
  | start (position : Nat)
  /-- By an offset from where the stream is. -/
  | current (offset : Int)
  /-- By an offset from the end of the file. -/
  | fromEnd (offset : Int)
deriving DecidableEq, Repr

namespace Seek

/-- The place asked for in a file of `length` bytes by a stream at `position`. -/
def target (s : Seek) (position length : Nat) : Int :=
  match s with
  | start place => place
  | current offset => position + offset
  | fromEnd offset => length + offset

/-- The position asked for, if it is one: from 0 up to, but not including, `bound`. -/
def target? (s : Seek) (bound position length : Nat) : Option Nat :=
  let place := s.target position length
  if 0 ≤ place ∧ place < bound then some place.toNat else none

end Seek

/-- Files of type `σ` and the streams of type `ς` opened on them.

An operation answers with its result, or with the reason why it was refused, and with the files and
the stream as they are afterwards. A stream interrupts only finitely many requests, which is what
the two measures say. -/
class FileHost (σ : Type) (ς : outParam Type) where
  /-- Opens a file; a refusal changes nothing. -/
  openFile (files : σ) (name : String) (mode : OpenMode) : Except IoError (σ × ς)
  /-- Creates or replaces a whole file; a refusal changes nothing. -/
  save (files : σ) (name : String) (data : ByteArray) : Except IoError σ
  /-- Reads at most `count` bytes, none at the end of the file. -/
  read (files : σ) (stream : ς) (count : Nat) : Except IoError ByteArray × ς
  /-- Writes a beginning of `data` and answers how many bytes it took. -/
  write (files : σ) (stream : ς) (data : ByteArray) : Except IoError Nat × σ × ς
  /-- Moves a stream and answers its new position. -/
  seek (files : σ) (stream : ς) (seek : Seek) : Except IoError Nat × ς
  /-- Asks for everything written to reach the file. -/
  flush (files : σ) (stream : ς) : Except IoError Unit × ς
  /-- How many reads can still be interrupted. -/
  readDelays : ς → Nat
  /-- How many writes can still be interrupted. -/
  writeDelays : ς → Nat
  /-- How many reads that deliver data a stream opened on these files can answer at most. -/
  volume : σ → Nat
  /-- A read delivers no more than it was asked for. -/
  size_le_of_read {files : σ} {stream after : ς} {count : Nat} {data : ByteArray} :
    read files stream count = (.ok data, after) → data.size ≤ count
  /-- A write takes no more than it was given. -/
  le_size_of_write {files files' : σ} {stream after : ς} {data : ByteArray} {count : Nat} :
    write files stream data = (.ok count, files', after) → count ≤ data.size
  /-- No read brings back an interruption. -/
  readDelays_le (files : σ) (stream : ς) (count : Nat) :
    readDelays (read files stream count).2 ≤ readDelays stream
  /-- No write brings back an interruption. -/
  writeDelays_le (files : σ) (stream : ς) (data : ByteArray) :
    writeDelays (write files stream data).2.2 ≤ writeDelays stream
  /-- An interrupted read leaves fewer interruptions. -/
  readDelays_lt {files : σ} {stream after : ς} {count : Nat} :
    read files stream count = (.error .interrupted, after) → readDelays after < readDelays stream
  /-- An interrupted write leaves fewer interruptions. -/
  writeDelays_lt {files files' : σ} {stream after : ς} {data : ByteArray} :
    write files stream data = (.error .interrupted, files', after) →
      writeDelays after < writeDelays stream

end Semihosting
