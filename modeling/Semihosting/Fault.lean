import Semihosting.Text.Numeral

/-!
# Faults

A fault stops a host call and is the guest's own doing: a bad address, an unknown call or an
oversized transfer. A host that refuses a request is no fault; the guest is told by a result code.

## Main definitions

* `Fault` — the causes
* `Fault.message` — their wording
-/

namespace Semihosting

/-- Why a host call could not be serviced. -/
inductive Fault where
  /-- The `length` bytes from `address` on do not all lie in guest memory. -/
  | outOfBounds (address length : Word)
  /-- No zero byte ends the string that starts at `address`. -/
  | unterminated (address : Word)
  /-- No handler services calls of this number. -/
  | unknownCall (number : Word)
  /-- The call asked to move more bytes at once than is allowed. -/
  | transferTooLarge (number length : Word)
deriving DecidableEq, Repr

/-- The wording of a fault. -/
def Fault.message : Fault → String
  | outOfBounds address length =>
    "memory out of bound: " ++ Numeral.decimal length.toNat ++ " bytes at " ++
      Numeral.hex address.toNat
  | unterminated address => "unterminated string at " ++ Numeral.hex address.toNat
  | unknownCall number => "invalid ecall " ++ Numeral.decimal number.toNat
  | transferTooLarge number length =>
    "host call " ++ Numeral.decimal number.toNat ++ " exceeds the transfer limit (" ++
      Numeral.decimal length.toNat ++ " bytes)"

end Semihosting
