import Semihosting.Pattern.Automaton

/-!
# Searching

An automaton looks for a match in a text in one pass: at each place it is in all the states at once
that some way leads to. A match begins at a character, so that the automaton starts anew at each
place that does not lie inside one.

## Main definitions

* `Automaton.reach` — the states that are reached without reading
* `Automaton.occursIn` — a match somewhere in a text
-/

namespace Semihosting.Pattern

/-- The states that an automaton is in at a place. -/
structure Reached where
  /-- The place at which each state was reached last, counted from one. -/
  visits : Array Nat
  /-- The states that wait for a byte. -/
  waiting : List StateId := []
  found : Bool := false

namespace Automaton

/-- The states that are reached without reading from some states at a place, which is given by its
number and by the bytes around it. The first argument bounds the number of connections that are
followed. -/
def reach (a : Automaton) (place : Nat) (spot : Spot) :
    Nat → List StateId → Reached → Reached
  | 0, _, reached | _, [], reached => reached
  | fuel + 1, id :: rest, ⟨visits, waiting, found⟩ =>
    -- A state that was reached at this place already leads to nothing new.
    if visits[id]? = some place then a.reach place spot fuel rest ⟨visits, waiting, found⟩
    else
      let visits := visits.setIfInBounds id place
      match a.states[id]? with
      | none => a.reach place spot fuel rest ⟨visits, waiting, found⟩
      | some (.pass next) => a.reach place spot fuel (next :: rest) ⟨visits, waiting, found⟩
      | some (.look condition next) =>
        let rest := if condition.holds spot then next :: rest else rest
        a.reach place spot fuel rest ⟨visits, waiting, found⟩
      | some (.fork nexts) => a.reach place spot fuel (nexts ++ rest) ⟨visits, waiting, found⟩
      | some (.read _) | some (.select _) =>
        a.reach place spot fuel rest ⟨visits, id :: waiting, found⟩
      | some .final => ⟨visits, waiting, true⟩

/-- The states that a state leads to when it reads a byte. -/
def after (a : Automaton) (b : UInt8) (id : StateId) : Option StateId :=
  match a.states[id]? with
  | some (.read step) => if step.range.contains b then some step.next else none
  | some (.select steps) => (steps.find? (·.range.contains b)).map (·.next)
  | _ => none

/-- The byte is a later one of a character. -/
def insideChar (b : UInt8) : Bool := 0x80 ≤ b && b < 0xc0

/-- A match that has led to some states ends in the rest of a text, or one begins there. -/
def search (a : Automaton) (place : Nat) (before : Option UInt8) (ids : List StateId)
    (visits : Array Nat) : List UInt8 → Bool
  | [] =>
    let ids := a.start :: ids
    -- No connection is followed twice, and there are fewer of them than bytes that they take.
    (a.reach place ⟨before, none⟩ (a.weight + ids.length) ids { visits }).found
  | b :: rest =>
    let ids := if insideChar b then ids else a.start :: ids
    let reached := a.reach place ⟨before, some b⟩ (a.weight + ids.length) ids { visits }
    reached.found ||
      a.search (place + 1) (some b) (reached.waiting.filterMap (a.after b)) reached.visits rest

/-- A match occurs somewhere in a text. -/
def occursIn (a : Automaton) (text : String) : Bool :=
  a.search 1 none [] (.replicate a.states.size 0) text.toUTF8.toList

end Automaton

end Semihosting.Pattern
