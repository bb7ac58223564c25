import Semihosting.Pattern.Automaton
import Std.Data.HashMap

/-!
# State caches

States that are remembered by what they were made for, so that they can be used again. A cache has a
fixed number of slots: what was made for one thing is forgotten when something else needs its slot.

## Main definitions

* `checksum` — a number that tells lists of numbers apart, most of the time
* `StateCache` — the slots
* `StateCache.obtain` — a state that is remembered, or a new one

## Main results

* `StateCache.find?_remember` — what was remembered last is found
-/

namespace Semihosting.Pattern

/-- A number of 64 bits that tells lists of numbers apart, most of the time: each number is mixed
into what the numbers before it have left, which is then multiplied by a prime. -/
def checksum (numbers : List UInt64) : UInt64 :=
  numbers.foldl (fun sum n => (sum ^^^ n) * 1099511628211) 14695981039346656037

/-- States that are remembered by what they were made for. -/
structure StateCache where
  size : Nat
  /-- What the slots that are in use hold. -/
  slots : Std.HashMap Nat (List UInt64 × StateId) := {}

namespace StateCache

/-- The slot of what a state is made for. -/
def slot (cache : StateCache) (key : List UInt64) : Nat := (checksum key).toNat % cache.size

/-- The state that was made for a key, if it is remembered. -/
def find? (cache : StateCache) (key : List UInt64) : Option StateId :=
  match cache.slots[cache.slot key]? with
  | some (held, id) => if held = key then some id else none
  | none => none

/-- Remembers the state that was made for a key. -/
def remember (cache : StateCache) (key : List UInt64) (id : StateId) : StateCache :=
  { cache with slots := cache.slots.insert (cache.slot key) (key, id) }

theorem find?_remember (cache : StateCache) (key : List UInt64) (id : StateId) :
    (cache.remember key id).find? key = some id := by
  simp [find?, remember, slot]

/-- The state that was made for a key, or else a new one, which is then remembered. -/
def obtain (key : List UInt64) (state : State) : StateT StateCache Build StateId := do
  match (← get).find? key with
  | some id => return id
  | none =>
    let id ← Build.add state
    modify (·.remember key id)
    return id

end StateCache

end Semihosting.Pattern
