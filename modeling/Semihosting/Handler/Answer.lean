import Semihosting.Log.Event
import Semihosting.Machine.Memory

/-!
# Answers to requests

Host calls reach out to a host, which is more than its files: it prints lines, and it hands out
random words and the time. A handler that takes a request answers it with a result or a fault, and
with guest memory, the host and itself as they are afterwards. It never sees the registers.

## Main definitions

* `Host` — files, printed lines, random words and times
* `Answer` — what a handler of type `η` makes of a request
-/

namespace Semihosting

/-- The host of a debugging session. -/
structure Host (σ : Type) where
  files : σ
  /-- The lines printed so far. -/
  printed : Array String := #[]
  /-- The random words to come; zero when they are used up. -/
  entropy : List Word := []
  /-- The times to come, in nanoseconds; zero when they are used up. -/
  clock : List Word := []

namespace Host

variable {σ : Type}

/-- Prints lines. -/
def print (h : Host σ) (lines : Array String) : Host σ := { h with printed := h.printed ++ lines }

/-- Draws a random word. -/
def draw (h : Host σ) : Word × Host σ := (h.entropy.headD 0, { h with entropy := h.entropy.tail })

/-- Looks at the clock. -/
def now (h : Host σ) : Word × Host σ := (h.clock.headD 0, { h with clock := h.clock.tail })

end Host

/-- What becomes of a request: its outcome, and all that a handler may change. -/
structure Answer (η σ : Type) where
  /-- The result of the call, or the fault that stopped it. -/
  outcome : Except Fault Word
  handler : η
  memory : Memory
  host : Host σ
  /-- What there is to report, in order. -/
  events : List Event := []

/-- The answer with another handler in place of its own. -/
@[inline] def Answer.map {η θ σ : Type} (f : η → θ) (a : Answer η σ) : Answer θ σ :=
  { a with handler := f a.handler }

/-- How a handler answers a request that it takes. -/
abbrev Reaction (η σ : Type) := Memory → Host σ → Answer η σ

/-- The reaction with another handler in place of its own. -/
@[inline] def Reaction.map {η θ σ : Type} (f : η → θ) (act : Reaction η σ) : Reaction θ σ :=
  fun memory host => (act memory host).map f

end Semihosting
