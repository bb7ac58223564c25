import Semihosting.Pattern.ByteSequence
import Semihosting.Pattern.Look

/-!
# Automata

Numbered states that read a text byte by byte. Some of them read nothing and lead on at once, always
or where a condition holds. An automaton is built state by state; states are connected later, when
the one to lead to is there. Building fails as soon as the states weigh more than a limit.

## Main definitions

* `State` — what an automaton does next
* `Automaton` — states, and the one to begin in
* `Build` — what adds states to an automaton
* `Piece` — a part of an automaton with one way in and one way out

## Main results

* `State.weight_toward` — what a new connection adds to the weight of a state
-/

namespace Semihosting.Pattern

/-! ### States -/

/-- The number of a state. -/
abbrev StateId := Nat

/-- Bytes that lead to a state. -/
structure Step where
  range : ByteRange
  next : StateId
deriving DecidableEq, Repr

/-- What an automaton does next. -/
inductive State where
  | pass (next : StateId)
  /-- It goes on where a condition holds. -/
  | look (condition : Look) (next : StateId)
  | read (step : Step)
  /-- It reads a byte in one of several ways. -/
  | select (steps : List Step)
  /-- It goes on in several ways at once. -/
  | fork (nexts : List StateId)
  /-- It has found a match. -/
  | final
deriving Repr

namespace State

/-- The bytes that a state takes. -/
def weight : State → Nat
  | select steps => 32 + 8 * steps.length
  | fork nexts => 32 + 4 * nexts.length
  | _ => 32

/-- The state, leading on to another one. A fork leads there too; a state that was made with its
steps keeps them. -/
def toward (target : StateId) : State → State
  | pass _ => pass target
  | look condition _ => look condition target
  | read step => read { step with next := target }
  | fork nexts => fork (target :: nexts)
  | select steps => select steps
  | final => final

/-- The bytes that a new connection takes. -/
def connectionWeight : State → Nat
  | fork _ => 4
  | _ => 0

theorem weight_toward (s : State) (target : StateId) :
    (s.toward target).weight = s.weight + s.connectionWeight := by
  cases s <;> simp [toward, weight, connectionWeight]
  omega

end State

/-- States, and the one to begin in. -/
structure Automaton where
  /-- The states, by their numbers. -/
  states : Array State
  /-- The state to begin in. -/
  start : StateId
  /-- The bytes that the states take. -/
  weight : Nat

/-! ### Building -/

/-- An automaton that is being built. -/
structure Workpiece where
  states : Array State := #[]
  /-- The bytes that they take. -/
  weight : Nat := 0
  /-- They may take this many bytes, if there is a limit. -/
  limit : Option Nat

/-- What adds states to an automaton, and fails if they take too many bytes. -/
abbrev Build := StateT Workpiece Option

/-- A part of an automaton with one way in and one way out. -/
structure Piece where
  /-- The state to begin in. -/
  start : StateId
  /-- The state that leads on. -/
  stop : StateId
deriving DecidableEq, Repr

namespace Build

/-- Checks that the states do not take too many bytes. -/
def check : Build Unit := fun w =>
  if w.limit.any (· < w.weight) then none else some ((), w)

/-- Adds a state. -/
def add (state : State) : Build StateId := do
  let id ← modifyGet fun w =>
    (w.states.size, { w with states := w.states.push state, weight := w.weight + state.weight })
  check
  return id

/-- Lets a state lead on to another one. -/
def connect (source target : StateId) : Build Unit := do
  modify fun w =>
    -- Most states have room for their connection from the beginning.
    let added := (w.states[source]?.map State.connectionWeight).getD 0
    { w with states := w.states.modify source (·.toward target), weight := w.weight + added }
  check

/-- A state that is a piece of its own. -/
def single (state : State) : Build Piece := do
  let id ← add state
  return ⟨id, id⟩

/-- Two pieces, one behind the other. -/
def join (first second : Piece) : Build Piece := do
  connect first.stop second.start
  return ⟨first.start, second.stop⟩

/-- Pieces behind another one. -/
def joinAll (first : Piece) : List (Build Piece) → Build Piece
  | [] => return first
  | piece :: rest => do
    let joined ← join first (← piece)
    joinAll joined rest

/-- Pieces one behind the other. Where there are none, a state goes on. -/
def chain : List (Build Piece) → Build Piece
  | [] => single (.pass 0)
  | first :: rest => do joinAll (← first) rest

/-- A number of copies of a piece behind another one. -/
def joinCopies (body : Build Piece) : Nat → Piece → Build Piece
  | 0, first => return first
  | n + 1, first => do
    let joined ← join first (← body)
    joinCopies body n joined

/-- A number of copies of a piece, one behind the other. -/
def copies (body : Build Piece) : Nat → Build Piece
  | 0 => chain []
  | n + 1 => do joinCopies body n (← body)

end Build

end Semihosting.Pattern
