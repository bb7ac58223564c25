import Semihosting.Pattern.CharSet

/-!
# Byte sequences

The sets of characters that a reader of bytes meets: sequences of byte ranges, each of which encodes
a range of characters. A range of characters falls apart into such sequences wherever its encodings
change their length or one of their bytes in front of the last range.

## Main definitions

* `ByteRange` — an inclusive range of bytes
* `ByteSequence` — ranges of bytes, one behind the other
* `ByteSequence.ofSet` — the sequences that encode the members of a set, in increasing order
* `ByteSequence.heads` — sequences grouped by what they begin with
-/

namespace Semihosting.Pattern

/-- An inclusive range of bytes. -/
structure ByteRange where
  low : UInt8
  high : UInt8
deriving DecidableEq, Repr

namespace ByteRange

/-- A byte lies in the range. -/
def contains (r : ByteRange) (b : UInt8) : Bool := r.low ≤ b && b ≤ r.high

/-- The range of one byte. -/
def ofByte (b : UInt8) : ByteRange := ⟨b, b⟩

/-- The range of the bytes with certain values. -/
def ofValues (low high : Nat) : ByteRange := ⟨.ofNat low, .ofNat high⟩

end ByteRange

/-- Ranges of bytes, one behind the other. -/
abbrev ByteSequence := List ByteRange

namespace ByteSequence

/-- Six bits of a character, behind its first byte. -/
def continuation : ByteRange := ⟨0x80, 0xbf⟩

/-- The sequences for the numbers from `low` to `high`: a first byte, counted from `base`, and a
number of continuation bytes with six bits each. -/
def split (base : Nat) : Nat → Nat → Nat → List ByteSequence
  | 0, low, high => [[.ofValues (base + low) (base + high)]]
  | more + 1, low, high =>
    let unit := 64 ^ (more + 1)
    let first := low / unit
    let last := high / unit
    let part (byte low high : Nat) : List ByteSequence :=
      (split 0x80 more low high).map (.ofValues (base + byte) (base + byte) :: ·)
    if first = last then part first (low % unit) (high % unit)
    else
      -- A first byte that is cut, those that are complete, and a last one that is cut.
      let cutLow := low % unit ≠ 0
      let cutHigh := high % unit ≠ unit - 1
      let fullFrom := if cutLow then first + 1 else first
      let fullTo := if cutHigh then last - 1 else last
      (if cutLow then part first (low % unit) (unit - 1) else []) ++
        (if fullFrom ≤ fullTo then
          [.ofValues (base + fullFrom) (base + fullTo) :: List.replicate (more + 1) continuation]
        else []) ++
        (if cutHigh then part last 0 (high % unit) else [])

/-- The code points that are encoded with each number of continuation bytes: the value that their
first byte counts from, that number, and the range. -/
def lengths : List (Nat × Nat × Nat × Nat) :=
  [(0, 0, 0, 0x7f), (0xc0, 1, 0x80, 0x7ff), (0xe0, 2, 0x800, 0xd7ff), (0xe0, 2, 0xe000, 0xffff),
    (0xf0, 3, 0x10000, 0x10ffff)]

/-- A sequence has at most this many bytes. -/
def longest : Nat := 4

/-- The sequences that encode the characters of a range. -/
def ofRange (r : CodeRange) : List ByteSequence :=
  lengths.flatMap fun (base, more, low, high) =>
    let low := max low r.low
    let high := min high r.high
    if low ≤ high then split base more low high else []

/-- The sequences that encode the members of a set. -/
def ofSet (members : CharSet) : List ByteSequence := members.ranges.flatMap ofRange

/-- The ranges that sequences begin with, and what the neighbours that begin alike go on with. -/
def heads : List ByteSequence → List (ByteRange × List ByteSequence)
  | [] => []
  | [] :: more => heads more
  | (range :: rest) :: more =>
    match heads more with
    | [] => [(range, [rest])]
    | (next, rests) :: groups =>
      if range = next then (range, rest :: rests) :: groups
      else (range, [rest]) :: (next, rests) :: groups

end ByteSequence

end Semihosting.Pattern
