import Semihosting.Pattern.Tree

/-!
# Conditions

Conditions on a place in a text: it is the beginning, the end, or a side of a word. All that they
ask about the characters on both sides of the place is ASCII, so the bytes on both sides tell.

## Main definitions

* `Spot` — a place in a text
* `Look` — conditions on it
* `Look.holds` — a condition holds
-/

namespace Semihosting.Pattern

/-- A place in a text. -/
structure Spot where
  /-- The byte before it, if it is not the beginning. -/
  before : Option UInt8
  /-- The byte behind it, if it is not the end. -/
  after : Option UInt8

/-- Conditions on a place. -/
inductive Look where
  /-- The beginning of the text. -/
  | textStart
  /-- The end of the text. -/
  | textEnd
  /-- The beginning of a line. -/
  | lineStart
  /-- The end of a line. -/
  | lineEnd
  /-- The beginning of a line, where a carriage return can end lines too. -/
  | returnStart
  /-- The end of a line, where a carriage return can end lines too. -/
  | returnEnd
  /-- A side of a word. Words may be wide: made of all letters, not only of those in ASCII. -/
  | word (edge : Edge) (wide : Bool)
deriving DecidableEq, Repr

/-- A letter, a digit or a low line, in ASCII. -/
def isWordByte (b : UInt8) : Bool :=
  let c := Char.ofUInt8 b
  c.isAlphanum || c = '_'

/-- A place is such a side of a word. -/
def Edge.holds (edge : Edge) (spot : Spot) : Bool :=
  let before := spot.before.any isWordByte
  let after := spot.after.any isWordByte
  match edge with
  | any => before != after
  | neither => before == after
  | start => !before && after
  | stop => before && !after
  | startHalf => !before
  | stopHalf => !after

namespace Look

/-- A line feed. -/
def lineFeed : UInt8 := 0x0a

/-- A carriage return. -/
def carriageReturn : UInt8 := 0x0d

/-- It can be decided whether the condition holds. No table says what wide words are made of. -/
def decided : Look → Bool
  | word _ wide => !wide
  | _ => true

/-- A condition holds. One that cannot be decided is never known to hold. -/
def holds (look : Look) (spot : Spot) : Bool :=
  match look with
  | textStart => spot.before.isNone
  | textEnd => spot.after.isNone
  | lineStart => spot.before.all (· = lineFeed)
  | lineEnd => spot.after.all (· = lineFeed)
  -- A carriage return and a line feed end one line together.
  | returnStart =>
    spot.before.all (· = lineFeed) ||
      spot.before = some carriageReturn && spot.after ≠ some lineFeed
  | returnEnd =>
    spot.after.all (· = carriageReturn) ||
      spot.after = some lineFeed && spot.before ≠ some carriageReturn
  | word edge wide => !wide && edge.holds spot

end Look

end Semihosting.Pattern
