import Semihosting.Pattern.Automaton

/-!
# Trees of words

Several words that are looked for at once, in order of preference. Words share their beginnings, as
long as this does not change the order: where a word ends, those that come after it have steps of
their own.

## Main definitions

* `WordTree` — what can come next
* `WordTree.insert` — one more word, the last in order
* `WordTree.build` — the piece of an automaton that reads one of the words
-/

namespace Semihosting.Pattern

/-- What can come next, in order of preference. -/
inductive WordTree where
  /-- Nothing more. -/
  | done
  /-- The end of a word, or something later. -/
  | stop (later : WordTree)
  /-- A byte and what can follow it, or something later. -/
  | step (byte : UInt8) (below later : WordTree)
deriving DecidableEq, Repr

namespace WordTree

/-- A word ends here. -/
def stops : WordTree → Bool
  | done => false
  | stop _ => true
  | step _ _ later => later.stops

/-- No byte can come next. -/
def isLeaf : WordTree → Bool
  | done | stop done => true
  | _ => false

/-- The end of a word, behind all that can come next already. -/
def append : WordTree → WordTree
  | done => stop done
  | stop later => stop later.append
  | step byte below later => step byte below later.append

/-- A word ends here. That it does so again is left out where no other word goes on. -/
def addStop : WordTree → WordTree
  | stop done => stop done
  | tree => tree.append

/-- Changes what can follow a byte. Behind the last end of a word, bytes are in increasing order. -/
def change (byte : UInt8) (f : WordTree → WordTree) : WordTree → WordTree
  | done => step byte (f done) done
  | stop later => stop (later.change byte f)
  | step b below later =>
    if later.stops || b < byte then step b below (later.change byte f)
    else if b = byte then step b (f below) later
    else step byte (f done) (step b below later)

/-- One more word. -/
def insert : List UInt8 → WordTree → WordTree
  | [], tree => tree.addStop
  | byte :: word, tree => tree.change byte (insert word)

/-- The tree of some words. -/
def ofWords (words : List (List UInt8)) : WordTree :=
  words.foldl (fun tree word => tree.insert word) done

/-! ### Automata -/

open Build in
/-- The states that some steps need, in front of those that other ways need. -/
def buildSteps (steps : List Step) (ways : List StateId) : Build (List StateId) :=
  match steps with
  | [] => return ways
  | [one] => return (← add (.read one)) :: ways
  | steps => return (← add (.select steps)) :: ways

open Build in
/-- The state that reads what can come next; behind each word it leads to `target`. The steps before
the next end of a word, and the ways before these steps, are given, the latest first. -/
def buildFrom (target : StateId) (steps : List Step) (ways : List StateId) :
    WordTree → Build StateId
  | done => do add (.fork (← buildSteps steps.reverse ways))
  | stop later => do
    let ways ← buildSteps steps.reverse ways
    later.buildFrom target [] (target :: ways)
  | step byte below later => do
    let next ← if below.isLeaf then pure target else below.buildFrom target [] []
    later.buildFrom target (⟨.ofByte byte, next⟩ :: steps) ways

/-- The piece that reads one of the words. -/
def build (tree : WordTree) : Build Piece := do
  let target ← Build.add (.pass 0)
  return ⟨← tree.buildFrom target [] [], target⟩

end WordTree

end Semihosting.Pattern
