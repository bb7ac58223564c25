import Semihosting.Pattern.Complaint
import Semihosting.Pattern.Tree

/-!
# The depth of patterns

How deep the parts of a pattern may be nested. Atoms do not count; groups, repetitions, choices,
sequences, brackets, operations on classes and unions of several classes do.

## Main definitions

* `Tree.tooDeep?` — the first part that lies too deep
* `Tree.checkDepth` — the complaint about it
-/

namespace Semihosting.Pattern

mutual

/-- The first part of a class that lies deeper than some number of steps. -/
def ClassTree.tooDeep? (steps : Nat) : ClassTree → Option Span
  | .union _ [] => none
  | .union span parts => match steps with
    | 0 => some span
    | steps + 1 => ClassTree.tooDeepAmong? steps parts
  | .combine span _ left right => match steps with
    | 0 => some span
    | steps + 1 => left.tooDeep? steps <|> right.tooDeep? steps
  | .bracket span _ body => match steps with
    | 0 => some span
    | steps + 1 => body.tooDeep? steps
  | _ => none

/-- The first part of some classes that lies too deep. -/
def ClassTree.tooDeepAmong? (steps : Nat) : List ClassTree → Option Span
  | [] => none
  | part :: rest => part.tooDeep? steps <|> ClassTree.tooDeepAmong? steps rest

end

mutual

/-- The first part of a pattern that lies deeper than some number of steps. -/
def Tree.tooDeep? (steps : Nat) : Tree → Option Span
  | .bracket members => members.tooDeep? steps
  | .repeated span body _ | .group span _ _ body => match steps with
    | 0 => some span
    | steps + 1 => body.tooDeep? steps
  | .choice span parts | .sequence span parts => match steps with
    | 0 => some span
    | steps + 1 => Tree.tooDeepAmong? steps parts
  | _ => none

/-- The first part of some patterns that lies too deep. -/
def Tree.tooDeepAmong? (steps : Nat) : List Tree → Option Span
  | [] => none
  | part :: rest => part.tooDeep? steps <|> Tree.tooDeepAmong? steps rest

end

/-- Parts may lie this many steps deep. -/
def depthLimit : Nat := 250

/-- Refuses a pattern that is nested too deep. -/
def Tree.checkDepth (tree : Tree) : Except Complaint Unit :=
  match tree.tooDeep? depthLimit with
  | some span => Complaint.refuse (.tooDeep depthLimit) span
  | none => .ok ()

end Semihosting.Pattern
