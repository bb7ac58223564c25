import Semihosting.Machine.Registers
import Semihosting.Service
import Semihosting.Text.Numeral

/-!
# Host calls

A guest asks for a service by leaving a number and six arguments in its registers; the result comes
back in the register of the first argument.

## Main definitions

* `Request` — number and arguments, as found in the registers
* `Request.capture`, `Request.load` — reading a request from the registers, and placing one there
* `Request.arg` — one of the arguments
* `Call` — a request with its result
* `Call.text` — a call in one line, as in `close(0x1, 0x0, 0x0, 0x0, 0x0, 0x0) = 0`
-/

namespace Semihosting

/-- What a guest asks for. -/
structure Request where
  /-- The number of the service. -/
  number : Word
  /-- The six arguments, of which a service looks at the first few. -/
  arguments : Vector Word 6
deriving DecidableEq, Repr

/-- A request and its result. -/
structure Call extends Request where
  /-- The result, as left in the register of the first argument. -/
  result : Word
deriving DecidableEq, Repr

namespace Request

/-- The request for a service with the given arguments, the missing ones being zero. -/
def ofList (number : Word) (arguments : List Word) : Request :=
  ⟨number, Vector.ofFn fun i => arguments.getD i 0⟩

/-- The request that the registers hold. -/
def capture (rs : Registers) : Request :=
  ⟨rs.get .a7, Register.arguments.map rs.get⟩

/-- The registers with a request in them. -/
def load (r : Request) (rs : Registers) : Registers :=
  ((Register.arguments.zip r.arguments).foldl (fun rs (register, w) => rs.set register w) rs).set
    .a7 r.number

/-- An argument. That there is one in its place is found by evaluation, so that a definition that
looks at an argument has no proof of its own to carry. -/
abbrev arg (r : Request) (i : Nat) (h : decide (i < 6) = true := by exact Eq.refl true) : Word :=
  getElem r.arguments i (of_decide_eq_true h)

/-- The service asked for, if the number is known. -/
def service? (r : Request) : Option Service := Service.ofNumber? r.number

/-- The request together with a result. -/
def answered (r : Request) (result : Word) : Call := { r with result }

end Request

namespace Call

/-- The service by name, or its number if it is not known. -/
def title (c : Call) : String :=
  match c.service? with
  | some service => service.name
  | none => Numeral.decimal c.number.toNat

/-- A call in one line: the title, the arguments in hexadecimal, and the signed result. -/
def text (c : Call) : String :=
  c.title ++ "(" ++ ", ".intercalate (c.arguments.toList.map fun w => Numeral.hex w.toNat) ++
    ") = " ++ Numeral.signed c.result.signed

end Call

end Semihosting
