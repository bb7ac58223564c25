import Semihosting.Pattern.Bracket
import Semihosting.Pattern.Count
import Semihosting.Pattern.Depth
import Semihosting.Pattern.Group

/-!
# Reading patterns

A pattern is read from left to right. The groups that are still open are kept with what stands
before them. The first thing that is wrong is complained about.

## Main definitions

* `Branches` — the alternatives read so far
* `OpenGroup` — a group whose closing parenthesis has not been read yet
* `Draft` — a pattern that is being read
* `Tree.read` — a whole pattern
-/

namespace Semihosting.Pattern

open Complaint (refuse)

/-- The alternatives read so far; the last one is unfinished. -/
structure Branches where
  /-- Where the first one begins. -/
  begun : Place := {}
  /-- The finished ones, the latest first. -/
  finished : List Tree := []
  /-- Where the last one begins. -/
  start : Place := begun
  /-- The parts of the last one, the latest first. -/
  parts : List Tree := []

namespace Branches

/-- The last alternative, up to a place. -/
def current (b : Branches) (stop : Place) : Tree := .ofParts ⟨b.start, stop⟩ b.parts.reverse

/-- The alternatives with one more part at their end. -/
def add (b : Branches) (part : Tree) : Branches := { b with parts := part :: b.parts }

/-- The alternatives before a vertical bar, with a new one behind it. -/
def split (b : Branches) (bar behind : Place) : Branches :=
  { begun := b.begun, finished := b.current bar :: b.finished, start := behind }

/-- The pattern of all the alternatives. -/
def close (b : Branches) (stop : Place) : Tree :=
  match b.finished with
  | [] => b.current stop
  | finished => .choice ⟨b.begun, stop⟩ (b.current stop :: finished).reverse

end Branches

/-- A group whose closing parenthesis has not been read yet. -/
structure OpenGroup where
  opening : Span
  captured : Bool
  /-- The settings changed in it. -/
  changes : Changes := []
  /-- The pattern around it is verbose. -/
  verbose : Bool
  before : Branches

/-- A pattern that is being read. -/
structure Draft where
  /-- Blanks and comments mean nothing here. -/
  verbose : Bool := false
  /-- The names of the groups so far. -/
  names : List GroupName := []
  /-- The innermost open group, or the whole pattern. -/
  branches : Branches := {}
  /-- The open groups, the innermost first. -/
  outer : List OpenGroup := []

namespace Draft

/-- The draft with one more part. -/
def add (d : Draft) (part : Tree) : Draft := { d with branches := d.branches.add part }

/-- The draft inside a group that has just been opened. -/
def enter (d : Draft) (opening : Span) (captured : Bool) (changes : Changes) (start : Place) :
    Draft :=
  { d with
    verbose := (changes.value? .verbose).getD d.verbose
    branches := { begun := start }
    outer := { opening, captured, changes, verbose := d.verbose, before := d.branches } :: d.outer }

/-- The draft behind what an opening parenthesis begins. -/
def openGroup (d : Draft) (cursor : Cursor) : Except Complaint (Draft × Cursor) := do
  let opening := cursor.span
  let (start, behind) ← GroupStart.read d.verbose d.names cursor
  match start with
  | .settings changes =>
    let d := d.add (.settings (behind.since cursor.place) changes)
    return ({ d with verbose := (changes.value? .verbose).getD d.verbose }, behind)
  | .capture => return (d.enter opening true [] behind.place, behind)
  | .named name =>
    return ({ d with names := name :: d.names }.enter opening true [] behind.place, behind)
  | .plain changes => return (d.enter opening false changes behind.place, behind)

/-- The draft behind a closing parenthesis. -/
def closeGroup (d : Draft) (cursor : Cursor) : Except Complaint (Draft × Cursor) :=
  match d.outer with
  | [] => refuse .groupUnopened cursor.span
  | group :: outer =>
    let body := d.branches.close cursor.place
    let behind := cursor.bump
    let whole := .group ⟨group.opening.start, behind.place⟩ group.captured group.changes body
    .ok ({ d with verbose := group.verbose, branches := group.before.add whole, outer }, behind)

/-- The draft with its last part repeated. Changes of settings cannot be repeated. -/
def repeatLast (d : Draft) (cursor : Cursor) (count : Except Complaint (Count × Cursor)) :
    Except Complaint (Draft × Cursor) :=
  match d.branches.parts with
  | [] | .settings .. :: _ => refuse .nothingToRepeat cursor.here
  | last :: earlier => do
    let (count, behind) ← count
    let whole := .repeated ⟨last.span.start, behind.place⟩ last count
    return ({ d with branches := { d.branches with parts := whole :: earlier } }, behind)

/-- The draft behind the part or the sign that comes next, the cursor being at a character `c`. At
most `fuel` characters are left. -/
def step (d : Draft) (fuel : Nat) (c : Char) (cursor : Cursor) :
    Except Complaint (Draft × Cursor) :=
  match c with
  | '(' => d.openGroup cursor
  | ')' => d.closeGroup cursor
  | '|' =>
    let behind := cursor.bump
    .ok ({ d with branches := d.branches.split cursor.place behind.place }, behind)
  | '[' => do
    let (members, behind) ← ClassTree.read d.verbose fuel cursor
    return (d.add (.bracket members), behind)
  -- That there is nothing to repeat is noticed before the counts are looked at.
  | '{' => d.repeatLast cursor (Count.read d.verbose cursor)
  | c =>
    match Count.ofSign? c with
    | some count => d.repeatLast cursor (.ok (count.readGreed cursor.bump))
    | none => do
      let (atom, behind) ← Atom.read d.verbose c cursor
      return (d.add (.atom atom), behind)

/-- The pattern that a draft has become at the end. -/
def finish (d : Draft) (stop : Place) : Except Complaint Tree :=
  match d.outer with
  | [] => .ok (d.branches.close stop)
  | group :: _ => refuse .groupUnclosed group.opening

/-- Reads on to the end. Each turn reads at least one character, and the first argument is greater
than the number of those that are left. -/
def readRest : Nat → Draft → Cursor → Except Complaint Tree
  | 0, d, cursor => d.finish cursor.place
  | fuel + 1, d, cursor =>
    let cursor := cursor.skip d.verbose
    match cursor.rest with
    | [] => d.finish cursor.place
    | c :: _ => do
      let (d, cursor) ← d.step fuel c cursor
      readRest fuel d cursor

end Draft

/-- The pattern that a text spells. -/
def Tree.read (text : String) : Except Complaint Tree := do
  let chars := text.toList
  let tree ← Draft.readRest (chars.length + 1) {} { rest := chars }
  tree.checkDepth
  return tree

end Semihosting.Pattern
