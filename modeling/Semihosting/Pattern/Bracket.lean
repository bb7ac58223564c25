import Semihosting.Pattern.Escape

/-!
# Classes in brackets

Reading a class: characters, ranges, escapes and classes in brackets of their own, one beside the
other, and operations between them, which are carried out from left to right. A caret behind the
bracket means the complement. Minus signs at the beginning stand for themselves, and so does a
closing bracket that comes first.

## Main definitions

* `OpenClass` — a class whose closing bracket has not been read yet
* `ClassTree.read` — a class in brackets
-/

namespace Semihosting.Pattern

open Complaint (refuse)

/-- A class whose closing bracket has not been read yet. -/
structure OpenClass where
  /-- Its beginning, up to the first part that can be anything. -/
  opening : Span
  negated : Bool
  /-- What an operation that waits for its right side has on its left. -/
  waiting : Option (SetOp × ClassTree) := none
  start : Place
  /-- The parts since the last operation, the latest first. -/
  parts : List ClassTree := []

namespace OpenClass

/-- The class with one more part. -/
def add (c : OpenClass) (part : ClassTree) : OpenClass := { c with parts := part :: c.parts }

/-- The union of the parts since the last operation. -/
def gathered (c : OpenClass) : ClassTree :=
  match c.parts with
  | [] => .union (.empty c.start) []
  | [part] => part
  | last :: earlier =>
    let first := earlier.getLast?.getD last
    .union ⟨first.span.start, last.span.stop⟩ c.parts.reverse

/-- Everything since the bracket, with the operation that was waiting carried out. -/
def operand (c : OpenClass) : ClassTree :=
  match c.waiting with
  | none => c.gathered
  | some (op, left) =>
    let right := c.gathered
    .combine ⟨left.span.start, right.span.stop⟩ op left right

/-- The class in front of an operation, whose right side begins at a place. -/
def operate (c : OpenClass) (op : SetOp) (start : Place) : OpenClass :=
  { c with waiting := some (op, c.operand), start, parts := [] }

/-- The whole class, up to behind its closing bracket. -/
def close (c : OpenClass) (stop : Place) : ClassTree :=
  .bracket ⟨c.opening.start, stop⟩ c.negated c.operand

/-- The complaint that the class has no end. -/
def unclosed {α : Type} (c : OpenClass) : Except Complaint α := refuse .classUnclosed c.opening

end OpenClass

namespace ClassTree

/-! ### The beginning -/

/-- Minus signs, each of which stands for itself, and the cursor behind them. The pattern may not
end there. -/
def readMinusSigns (verbose : Bool) (start : Place) :
    Nat → Cursor → Except Complaint (List ClassTree × Cursor)
  | 0, cursor => .ok ([], cursor)
  | fuel + 1, cursor =>
    if cursor.rest.head? = some '-' then
      let behind := cursor.advance verbose
      if behind.rest.isEmpty then refuse .classUnclosed (.empty start)
      else do
        let (signs, last) ← readMinusSigns verbose start fuel behind
        return (.char { span := cursor.span, char := '-' } :: signs, last)
    else .ok ([], cursor)

/-- The cursor behind the next character. The pattern may not end there. -/
def advanceWithin (verbose : Bool) (start : Place) (cursor : Cursor) : Except Complaint Cursor :=
  let behind := cursor.advance verbose
  if behind.rest.isEmpty then refuse .classUnclosed (behind.since start) else .ok behind

/-- The beginning of a class, the cursor being at its bracket. At most `fuel` characters are
left. -/
def readOpening (verbose : Bool) (fuel : Nat) (cursor : Cursor) :
    Except Complaint (OpenClass × Cursor) := do
  let start := cursor.place
  let first ← advanceWithin verbose start cursor
  let negated := first.rest.head? = some '^'
  let first ← if negated then advanceWithin verbose start first else pure first
  let (signs, next) ← readMinusSigns verbose start fuel first
  -- A class has at least one part, so a closing bracket that comes first is one.
  if signs.isEmpty && next.rest.head? = some ']' then
    let behind ← advanceWithin verbose start next
    return ({ opening := behind.since start, negated, start := first.place
              parts := [.char { span := next.span, char := ']' }] }, behind)
  else
    return ({ opening := next.since start, negated, start := first.place
              parts := signs.reverse }, next)

/-! ### The parts -/

/-- A class by its name between colons, in brackets of its own. What does not look like one, or has
no known name, is left alone. -/
def readNamed? (cursor : Cursor) : Option (ClassTree × Cursor) := do
  let inside ← cursor.past? ['[', ':']
  let (negated, first) := match inside.past? ['^'] with
    | some first => (true, first)
    | none => (false, inside)
  let (name, last) := first.collect false (· ≠ ':')
  let behind ← last.past? [':', ']']
  let members ← NamedClass.ofName? (String.ofList name)
  return (.named (behind.since cursor.place) members negated, behind)

/-- An atom in a class, the cursor being at a character `c`: an escape, or a character. -/
def readAtom (verbose : Bool) (c : Char) (cursor : Cursor) : Except Complaint (Atom × Cursor) :=
  if c = '\\' then Atom.readEscape verbose cursor
  else .ok (.char { span := cursor.span, char := c }, cursor.bump)

/-- The part of a class that an atom makes up. Conditions are none. -/
def ofAtom : Atom → Except Complaint ClassTree
  | .char literal => .ok (.char literal)
  | .short span members negated => .ok (.short span members negated)
  | .property span name => .ok (.property span name)
  | .dot span | .anchor span _ => refuse .classEscape span

/-- The bound of a range that an atom makes up: a character. -/
def bound : Atom → Except Complaint Literal
  | .char literal => .ok literal
  | other => refuse .classRangeBound other.span

/-- A part that is no class in brackets, the cursor being at a character `c`. A minus sign makes it
a range, unless an operation or the end of the class follows. -/
def readPart (verbose : Bool) (within : OpenClass) (c : Char) (cursor : Cursor) :
    Except Complaint (ClassTree × Cursor) := do
  let (low, cursor) ← readAtom verbose c cursor
  let cursor := cursor.skip verbose
  let next := cursor.peek? verbose
  match cursor.rest with
  | [] => within.unclosed
  | sign :: _ =>
    if sign ≠ '-' ∨ next = some ']' ∨ next = some '-' then
      return (← ofAtom low, cursor)
    else
      let cursor := cursor.advance verbose
      match cursor.rest with
      | [] => within.unclosed
      | c :: _ =>
        let (high, cursor) ← readAtom verbose c cursor
        -- Both bounds are read before either is checked.
        let low ← bound low
        let high ← bound high
        if low.char ≤ high.char then return (.range low high, cursor)
        else refuse .classRangeOrder ⟨low.span.start, high.span.stop⟩

/-- The operation that a sign means when it is written twice. -/
def operation? : Char → Option SetOp
  | '&' => some .inter
  | '-' => some .diff
  | '~' => some .symmDiff
  | _ => none

/-- The operation whose sign comes next, twice. -/
def operationNext? : List Char → Option SetOp
  | c :: d :: _ => if c = d then operation? c else none
  | _ => none

/-- The rest of a class, inside the classes `outer`, the innermost first. Each turn reads at least
one character, and the first argument is at least the number of those that are left. -/
def readRest (verbose : Bool) :
    Nat → OpenClass → List OpenClass → Cursor → Except Complaint (ClassTree × Cursor)
  | 0, within, _, _ => within.unclosed
  | fuel + 1, within, outer, cursor =>
    let cursor := cursor.skip verbose
    match cursor.rest with
    | [] => within.unclosed
    | '[' :: _ =>
      -- A class is open already, so a name between colons may come.
      match readNamed? cursor with
      | some (part, cursor) => readRest verbose fuel (within.add part) outer cursor
      | none => do
        let (inner, cursor) ← readOpening verbose fuel cursor
        readRest verbose fuel inner (within :: outer) cursor
    | ']' :: _ =>
      let cursor := cursor.bump
      let whole := within.close cursor.place
      match outer with
      | [] => .ok (whole, cursor)
      | parent :: outer => readRest verbose fuel (parent.add whole) outer cursor
    | c :: _ =>
      match operationNext? cursor.rest with
      | some op =>
        let cursor := cursor.bump.bump
        readRest verbose fuel (within.operate op cursor.place) outer cursor
      | none => do
        let (part, cursor) ← readPart verbose within c cursor
        readRest verbose fuel (within.add part) outer cursor

/-- A class in brackets, the cursor being at its opening bracket. At most `fuel` characters are
left. -/
def read (verbose : Bool) (fuel : Nat) (cursor : Cursor) :
    Except Complaint (ClassTree × Cursor) := do
  let (whole, cursor) ← readOpening verbose fuel cursor
  readRest verbose fuel whole [] cursor

end ClassTree

end Semihosting.Pattern
