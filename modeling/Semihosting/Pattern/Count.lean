import Semihosting.Pattern.Complaint
import Semihosting.Pattern.Cursor
import Semihosting.Pattern.Tree
import Semihosting.Text.Numeral

/-!
# Counts

How often a part is repeated: a sign, or counts in braces. A question mark behind either says that
fewer times are preferred to more.

## Main definitions

* `Count.ofSign?` — the counts that signs mean
* `Count.read` — counts in braces
-/

namespace Semihosting.Pattern

open Complaint (refuse)

namespace Count

/-- The count that a sign means. -/
def ofSign? : Char → Option Count
  | '?' => some { least := 0, most := some 1 }
  | '*' => some { least := 0, most := none }
  | '+' => some { least := 1, most := none }
  | _ => none

/-- The greatest number is not below the least. -/
def ordered (c : Count) : Bool := c.most.all (c.least ≤ ·)

/-- Numbers lie below this one. -/
def limit : Nat := 0x100000000

/-- A number between blanks, or what is wrong with it, and the cursor behind both. -/
def readNumber (verbose : Bool) (cursor : Cursor) : Except Complaint Nat × Cursor :=
  let first := (cursor.collect false Text.isBlank).2
  let (digits, last) := first.collect verbose Char.isDigit
  let span := last.since first.place
  let number := match digits, Numeral.readDigits? 0 digits with
    | _ :: _, some n => if n < limit then .ok n else refuse .countTooLarge span
    | _, _ => refuse .countEmpty span
  (number, (last.collect false Text.isBlank).2)

/-- A count that is not greedy if a question mark comes next, and the cursor behind it. -/
def readGreed (c : Count) (cursor : Cursor) : Count × Cursor :=
  match cursor.past? ['?'] with
  | some behind => ({ c with greedy := false }, behind)
  | none => (c, cursor)

/-- The numbers in braces: one, or a least and perhaps a greatest one. The cursor is at the opening
brace. -/
def readNumbers (verbose : Bool) (cursor : Cursor) : Except Complaint (Count × Cursor) := do
  let unclosed (last : Cursor) : Except Complaint Cursor :=
    if last.rest.isEmpty then refuse .countUnclosed (last.since cursor.place) else .ok last
  let first ← unclosed (cursor.advance verbose)
  let (least, last) := readNumber verbose first
  let last ← unclosed last
  if last.rest.head? = some ',' then
    let second ← unclosed (last.advance verbose)
    -- What is wrong with the first number is said only now that the pattern is known to go on.
    let least ← least
    if second.rest.head? = some '}' then return ({ least, most := none }, second)
    else
      let (most, last) := readNumber verbose second
      return ({ least, most := some (← most) }, last)
  else
    let n ← least
    return ({ least := n, most := some n }, last)

/-- Counts in braces, the cursor being at the opening brace. -/
def read (verbose : Bool) (cursor : Cursor) : Except Complaint (Count × Cursor) := do
  let (count, last) ← readNumbers verbose cursor
  if last.rest.head? = some '}' then
    let (count, behind) := count.readGreed (last.advance verbose)
    if count.ordered then return (count, behind)
    else refuse .countOrder (behind.since cursor.place)
  else refuse .countUnclosed (last.since cursor.place)

end Count

end Semihosting.Pattern
