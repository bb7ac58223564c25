import Semihosting.Pattern.Complaint
import Semihosting.Pattern.Cursor
import Semihosting.Pattern.Tree

/-!
# Escapes and other atoms

Reading what stands for one character or one condition. A backslash takes its meaning from
punctuation, and gives one to letters: control characters, characters by their number, classes and
conditions.

## Main definitions

* `Atom.readEscape` — what begins with a backslash
* `Atom.read` — an atom outside brackets
-/

namespace Semihosting.Pattern

open Complaint (refuse)

namespace Atom

/-! ### Characters by their number -/

/-- The value of a hexadecimal digit. -/
def hexDigit? (c : Char) : Option Nat :=
  if c.isDigit then some (c.toNat - '0'.toNat)
  else if 'a' ≤ c && c ≤ 'f' then some (c.toNat - 'a'.toNat + 10)
  else if 'A' ≤ c && c ≤ 'F' then some (c.toNat - 'A'.toNat + 10)
  else none

/-- A hexadecimal digit. -/
def isHexDigit (c : Char) : Bool := (hexDigit? c).isSome

/-- The character whose number some hexadecimal digits spell. -/
def numbered? (digits : List Char) : Option Char :=
  let n := digits.foldl (fun n digit => 16 * n + (hexDigit? digit).getD 0) 0
  if n.isValidChar then some (Char.ofNat n) else none

/-- A given number of hexadecimal digits. -/
def readHexDigits (verbose : Bool) : Nat → Cursor → Except Complaint (List Char × Cursor)
  | 0, cursor => .ok ([], cursor)
  | count + 1, cursor =>
    match cursor.rest with
    | [] => refuse .escapeUnfinished cursor.here
    | c :: _ =>
      if isHexDigit c then do
        let (digits, cursor) ← readHexDigits verbose count (cursor.advance verbose)
        return (c :: digits, cursor)
      else refuse .hexDigit cursor.span

/-- A character by its number in braces, the cursor being at the opening brace. -/
def readBracedNumber (verbose : Bool) (start : Place) (cursor : Cursor) :
    Except Complaint (Atom × Cursor) :=
  let (digits, last) := (cursor.advance verbose).collect verbose isHexDigit
  match last.rest with
  | [] => refuse .escapeUnfinished (last.since cursor.place)
  | '}' :: _ =>
    let behind := last.advance verbose
    if digits.isEmpty then refuse .hexEmpty (behind.since cursor.place)
    else match numbered? digits with
      | none => refuse .hexNoChar (last.since cursor.bump.place)
      | some c => .ok (.char { span := behind.since start, char := c }, behind)
  | _ => refuse .hexDigit last.span

/-- A character by its number: that many digits, or any number of digits in braces. The cursor is
at the letter that tells how many. -/
def readNumber (verbose : Bool) (start : Place) (count : Nat) (cursor : Cursor) :
    Except Complaint (Atom × Cursor) :=
  let first := cursor.advance verbose
  match first.rest with
  | [] => refuse .escapeUnfinished first.here
  | '{' :: _ => readBracedNumber verbose start first
  | _ => do
    let (digits, behind) ← readHexDigits verbose count first
    match numbered? digits with
    | none => refuse .hexNoChar (behind.since first.place)
    | some c =>
      return (.char { span := behind.since start, char := c, asByte := count = 2 }, behind)

/-! ### Properties and edges of words -/

/-- A property of characters, by one letter or by a name in braces. The cursor is at the letter
that announces it. -/
def readProperty (verbose : Bool) (start : Place) (cursor : Cursor) :
    Except Complaint (Atom × Cursor) :=
  let first := cursor.advance verbose
  match first.rest with
  | [] => refuse .escapeUnfinished first.here
  | '{' :: _ =>
    let (name, last) := (first.advance verbose).collect verbose (· ≠ '}')
    if last.rest.isEmpty then refuse .escapeUnfinished last.here
    else .ok (.property (last.bump.since start) name, last.bump)
  | '\\' :: _ => refuse .propertyMalformed first.span
  | c :: _ =>
    let behind := first.advance verbose
    .ok (.property (behind.since start) [c], behind)

/-- A character of the names of edges. -/
def isEdgeChar (c : Char) : Bool := c.isAlpha || c = '-'

/-- The edge that a name in braces stands for. -/
def edge? : String → Option Edge
  | "start" => some .start
  | "end" => some .stop
  | "start-half" => some .startHalf
  | "end-half" => some .stopHalf
  | _ => none

/-- The edge of a word that braces choose. If no name can begin in the braces, they are left alone:
they may hold a count. The cursor is behind the letter. -/
def readEdge (verbose : Bool) (start : Place) (cursor : Cursor) :
    Except Complaint (Atom × Cursor) :=
  let plain : Except Complaint (Atom × Cursor) :=
    .ok (.anchor (cursor.since start) (.word .any), cursor)
  match cursor.rest with
  | '{' :: _ =>
    let first := cursor.advance verbose
    match first.rest with
    | [] => refuse .edgeUnfinished (first.since start)
    | c :: _ =>
      -- Digits are a count, which repeats the edge.
      if isEdgeChar c then
        let (name, last) := first.collect verbose isEdgeChar
        if last.rest.head? = some '}' then
          match edge? (String.ofList name) with
          | some edge => .ok (.anchor (last.bump.since start) (.word edge), last.bump)
          | none => refuse .edgeUnknown (last.since first.place)
        else refuse .edgeUnclosed (last.since cursor.place)
      else plain
  | _ => plain

/-! ### Atoms -/

/-- A backslash makes the character stand for itself. -/
def isPlainEscape (c : Char) : Bool :=
  c.toNat < 0x80 && !c.isAlphanum && c ≠ '<' && c ≠ '>'

/-- The control character that a letter behind a backslash stands for. -/
def control? : Char → Option Char
  | 'a' => some '\x07'
  | 'f' => some '\x0c'
  | 't' => some '\t'
  | 'n' => some '\n'
  | 'r' => some '\x0d'
  | 'v' => some '\x0b'
  | _ => none

/-- The class that a letter behind a backslash stands for; a capital letter means the complement. -/
def short? : Char → Option (ShortClass × Bool)
  | 'd' => some (.digit, false)
  | 's' => some (.space, false)
  | 'w' => some (.word, false)
  | 'D' => some (.digit, true)
  | 'S' => some (.space, true)
  | 'W' => some (.word, true)
  | _ => none

/-- The condition that a character behind a backslash stands for. -/
def anchor? : Char → Option Anchor
  | 'A' => some .textStart
  | 'z' => some .textEnd
  | 'B' => some (.word .neither)
  | '<' => some (.word .start)
  | '>' => some (.word .stop)
  | _ => none

/-- An escape that is a backslash and one character. -/
def simpleEscape? (span : Span) (c : Char) : Option Atom :=
  if isPlainEscape c then some (.char { span, char := c })
  else ((control? c).map fun c => .char { span, char := c }) <|>
    ((short? c).map fun (members, negated) => .short span members negated) <|>
    (anchor? c).map fun condition => .anchor span condition

/-- An escape, the cursor being at the backslash. -/
def readEscape (verbose : Bool) (cursor : Cursor) : Except Complaint (Atom × Cursor) :=
  let start := cursor.place
  let letter := cursor.bump
  match letter.rest with
  | [] => refuse .escapeUnfinished (letter.since start)
  | c :: _ =>
    let behind := letter.bump
    let span := behind.since start
    if c.isDigit then refuse .backReference span
    else match c with
      | 'x' => readNumber verbose start 2 letter
      | 'u' => readNumber verbose start 4 letter
      | 'U' => readNumber verbose start 8 letter
      | 'p' | 'P' => readProperty verbose start letter
      | 'b' => readEdge verbose start behind
      | c => match simpleEscape? span c with
        | some atom => .ok (atom, behind)
        | none => refuse .escapeUnknown span

/-- An atom outside brackets, the cursor being at a character `c`. -/
def read (verbose : Bool) (c : Char) (cursor : Cursor) : Except Complaint (Atom × Cursor) :=
  match c with
  | '\\' => readEscape verbose cursor
  | '.' => .ok (.dot cursor.span, cursor.bump)
  | '^' => .ok (.anchor cursor.span .lineStart, cursor.bump)
  | '$' => .ok (.anchor cursor.span .lineEnd, cursor.bump)
  | c => .ok (.char { span := cursor.span, char := c }, cursor.bump)

end Atom

end Semihosting.Pattern
