import Semihosting.Pattern.CharSet
import Semihosting.Pattern.Look

/-!
# Regular expressions

What a pattern asks of a text, in a form without detours: nothing stands in a sequence for nothing,
no sequence stands directly in a sequence, no choice directly in a choice, and characters one behind
the other are one literal. The functions below build expressions in this form. It decides how many
states an automaton needs, so it is kept exactly.

## Main definitions

* `Regex` — regular expressions
* `Regex.ofSet`, `Regex.ofParts`, `Regex.ofBranches`, `Regex.times` — building them
* `Regex.pinned` — every match touches an end of the text
-/

namespace Semihosting.Pattern

/-- A regular expression. -/
inductive Regex where
  /-- No character. -/
  | nothing
  /-- Certain characters, at least one. -/
  | literal (text : List Char)
  /-- A character of a set. A wide set may hold characters beyond ASCII. -/
  | set (members : CharSet) (wide : Bool)
  /-- No character, at a place where a condition holds. -/
  | look (condition : Look)
  /-- Some matches, one behind the other. -/
  | sequence (parts : List Regex)
  /-- A match of one of some expressions. -/
  | choice (branches : List Regex)
  /-- Some number of matches, one behind the other. A greedy repetition prefers more of them. -/
  | repeated (body : Regex) (least : Nat) (most : Option Nat) (greedy : Bool)
  /-- A match that is captured. -/
  | captured (body : Regex)
deriving Repr

/-- The direction in which an automaton reads a text. -/
inductive Direction where
  /-- From the beginning to the end. -/
  | forward
  /-- From the end to the beginning. -/
  | backward
deriving DecidableEq, Repr

namespace Direction

/-- What is written from left to right, in the order in which it is read. -/
def order {α : Type} (d : Direction) (xs : List α) : List α :=
  match d with
  | forward => xs
  | backward => xs.reverse

/-- The end of the text at which reading begins. -/
def outset : Direction → Look
  | forward => .textStart
  | backward => .textEnd

end Direction

namespace Regex

/-! ### Comparing -/

mutual

/-- Two expressions are written alike. Captured matches never are: each is one of its own. -/
def same : Regex → Regex → Bool
  | nothing, nothing => true
  | literal s, literal t => s = t
  | set s wide, set t wide' => s = t && wide = wide'
  | look l, look m => l = m
  | sequence rs, sequence ss => sameAll rs ss
  | choice rs, choice ss => sameAll rs ss
  | repeated r least most greedy, repeated s least' most' greedy' =>
    least = least' && most = most' && greedy = greedy' && r.same s
  | _, _ => false

/-- The expressions of two lists are written alike. -/
def sameAll : List Regex → List Regex → Bool
  | [], [] => true
  | r :: rs, s :: ss => r.same s && sameAll rs ss
  | _, _ => false

end

/-! ### Lengths -/

mutual

/-- Every match is empty. -/
def onlyEmpty : Regex → Bool
  | nothing | look _ => true
  | literal _ | set _ _ => false
  | sequence rs | choice rs => allOnlyEmpty rs
  | repeated r _ most _ => r.onlyEmpty && most.isSome
  | captured r => r.onlyEmpty

/-- Every match of each of some expressions is empty. -/
def allOnlyEmpty : List Regex → Bool
  | [] => true
  | r :: rs => r.onlyEmpty && allOnlyEmpty rs

end

mutual

/-- The least number of characters of a match. Where a set is empty, it is unknown. -/
def shortest? : Regex → Option Nat
  | nothing | look _ => some 0
  | literal text => some text.length
  | set members _ => if members.ranges.isEmpty then none else some 1
  | sequence rs => shortestOfAll? rs
  | choice rs => shortestOfAny? rs
  | repeated r least _ _ => r.shortest?.map (· * least)
  | captured r => r.shortest?

/-- The least number of characters of a match of some expressions, one behind the other. -/
def shortestOfAll? : List Regex → Option Nat
  | [] => some 0
  | r :: rs => do return (← r.shortest?) + (← shortestOfAll? rs)

/-- The least number of characters of a match of one of some expressions. -/
def shortestOfAny? : List Regex → Option Nat
  | [] => none
  | [r] => r.shortest?
  | r :: rs => do return min (← r.shortest?) (← shortestOfAny? rs)

end

/-! ### Conditions -/

mutual

/-- All conditions can be decided. -/
def decided : Regex → Bool
  | nothing | literal _ | set _ _ => true
  | look l => l.decided
  | sequence rs | choice rs => allDecided rs
  | repeated r _ _ _ | captured r => r.decided

/-- All conditions in some expressions can be decided. -/
def allDecided : List Regex → Bool
  | [] => true
  | r :: rs => r.decided && allDecided rs

end

mutual

/-- Every match touches the end of the text at which reading begins, because of a condition. -/
def pinned (d : Direction) : Regex → Bool
  | nothing | literal _ | set _ _ => false
  | look l => l = d.outset
  | sequence rs =>
    match d with
    | .forward => firstPinned d rs
    | .backward => lastPinned d false rs
  | choice rs => allPinned d rs
  | repeated r least _ _ => 0 < least && r.pinned d
  | captured r => r.pinned d

/-- One of some expressions is pinned, and those before it match nothing. -/
def firstPinned (d : Direction) : List Regex → Bool
  | [] => false
  | r :: rs => r.pinned d || r.onlyEmpty && firstPinned d rs

/-- One of some expressions is pinned, and those behind it match nothing. Of the expressions before
them, this is known already. -/
def lastPinned (d : Direction) (known : Bool) : List Regex → Bool
  | [] => known
  | r :: rs => lastPinned d (r.pinned d || r.onlyEmpty && known) rs

/-- Each of some expressions is pinned. -/
def allPinned (d : Direction) : List Regex → Bool
  | [] => true
  | r :: rs => r.pinned d && allPinned d rs

end

/-! ### Sets -/

/-- A character of a set. If there is only one, it is a literal; if there is none, the set is the
one of no byte. -/
def ofSet (members : CharSet) (wide : Bool) : Regex :=
  if members.ranges.isEmpty then set .empty false
  else match members.single? with
    | some code => literal [Char.ofNat code]
    | none => set members wide

/-- The character of a literal that has only one. -/
def char? : Regex → Option Char
  | literal [c] => some c
  | _ => none

/-- The members of a set, all of them characters. -/
def members? : Regex → Option CharSet
  | set members wide => if wide || members.isAscii then some members else none
  | _ => none

/-! ### Sequences -/

/-- The parts of an expression that stands in a sequence. -/
def parts : Regex → List Regex
  | nothing => []
  | sequence rs => rs
  | r => [r]

/-- A part in front of others. Two literals become one. -/
def cons (r : Regex) (rest : List Regex) : List Regex :=
  match r, rest with
  | literal s, literal t :: rest => literal (s ++ t) :: rest
  | r, rest => r :: rest

/-- Expressions one behind the other. -/
def ofParts (rs : List Regex) : Regex :=
  match (rs.flatMap parts).foldr cons [] with
  | [] => nothing
  | [r] => r
  | rs => sequence rs

/-! ### Choices -/

/-- The branches of an expression that stands in a choice. -/
def branches : Regex → List Regex
  | choice rs => rs
  | r => [r]

/-- One of some expressions. Several characters, or several sets, are one set. -/
def merge (rs : List Regex) : Regex :=
  match rs.flatMap branches with
  | [] => set .empty false
  | [r] => r
  | rs =>
    match rs.mapM char?, rs.mapM members? with
    | some chars, _ => ofSet (.unionAll (chars.map .ofChar)) true
    | none, some sets => ofSet (.unionAll sets) true
    | none, none => choice rs

/-- The number of parts that two lists begin with alike. -/
def sharedLength : List Regex → List Regex → Nat
  | r :: rs, s :: ss => if r.same s then sharedLength rs ss + 1 else 0
  | _, _ => 0

/-- The parts of a sequence of at least two. -/
def sequence? : Regex → Option (List Regex)
  | sequence rs => some rs
  | _ => none

/-- One of some expressions. If all of them are sequences, what they begin with alike is written
once, before the choice. -/
def ofBranches (rs : List Regex) : Regex :=
  match merge rs with
  | choice rs =>
    match rs.mapM sequence? with
    | some (first :: others) =>
      let shared := others.foldl (fun n parts => min n (sharedLength first parts)) first.length
      if shared = 0 then choice rs
      else
        let rests := (first :: others).map fun parts => ofParts (parts.drop shared)
        ofParts (first.take shared ++ [merge rests])
    | _ => choice rs
  | r => r

/-! ### Repetitions -/

/-- Some number of matches. More than one empty match is no more than one. -/
def times (body : Regex) (least : Nat) (most : Option Nat) (greedy : Bool) : Regex :=
  let (least, most) :=
    if body.onlyEmpty then (min least 1, some (min (most.getD 1) 1)) else (least, most)
  if most = some 0 then nothing
  else if least = 1 ∧ most = some 1 then body
  else repeated body least most greedy

end Regex

end Semihosting.Pattern
