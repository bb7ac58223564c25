import Semihosting.Machine.Memory
import Semihosting.Machine.Registers

/-!
# The guest's machine

Registers and memory, as far as host calls see them.

## Main definitions

* `Machine` — the state of a guest's machine
* `Machine.blank` — the state before the guest starts
-/

namespace Semihosting

/-- The registers and the memory of a guest. -/
structure Machine where
  registers : Registers
  memory : Memory
deriving DecidableEq

/-- A machine with zeroed registers and memory. -/
def Machine.blank (size : Word) : Machine := ⟨.blank, .blank size⟩

end Semihosting
