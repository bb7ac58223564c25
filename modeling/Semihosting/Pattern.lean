import Semihosting.Pattern.Assembly
import Semihosting.Pattern.Meaning
import Semihosting.Pattern.Reader
import Semihosting.Pattern.Search

/-!
# Patterns

From the text of a pattern to an automaton that searches for it. The text is read and understood
first. Then automata are built for both directions, and the pattern is refused if one of them takes
too many bytes or if it asks for what cannot be decided. Searching needs only the one that reads
forwards.

## Main definitions

* `Refusal` — why a pattern cannot be used, `Refusal.lines` in words
* `Regex.ofPattern` — the regular expression of a pattern
* `Automaton.ofPattern` — the automaton of a pattern
-/

namespace Semihosting.Pattern

/-- Why a pattern cannot be used. -/
inductive Refusal where
  | wrong (complaint : Complaint)
  /-- An automaton of it takes more bytes than a limit. -/
  | tooHeavy (limit : Nat)
  /-- It depends on a condition that cannot be decided. -/
  | undecided

/-- The wording of a refusal of a pattern. -/
def Refusal.lines (pattern : String) : Refusal → List String
  | wrong complaint => complaint.lines pattern
  | tooHeavy limit =>
    ["Compiled regex exceeds size limit of " ++ Numeral.decimal limit ++ " bytes."]
  | undecided => ["error building NFA"]

/-- The regular expression of a pattern. -/
def Regex.ofPattern (pattern : String) : Except Complaint Regex := do
  let tree ← Tree.read pattern
  return (← tree.meaning {}).1

/-- Automata take at most this many bytes: ten mebibytes. -/
def weightLimit : Nat := 10 * 1024 * 1024

/-- A choice between so many words that no automaton is needed. -/
def Regex.isWordList : Regex → Bool
  | choice branches => 3000 ≤ branches.length && branches.all (·.bytes?.isSome)
  | _ => false

/-- The automaton of a pattern, which reads forwards. -/
def Automaton.ofPattern (pattern : String) : Except Refusal Automaton := do
  let r ← (Regex.ofPattern pattern).mapError .wrong
  let limit := if r.isWordList then none else some weightLimit
  let some automaton := r.automaton? limit .forward | throw (.tooHeavy weightLimit)
  if !r.decided then throw .undecided
  let some _ := r.automaton? limit .backward | throw (.tooHeavy weightLimit)
  return automaton

end Semihosting.Pattern
