import Semihosting.Handler.Basic
import Semihosting.Machine

/-!
# The debugger

The debugger offers each request to its handlers in turn; the first that takes it decides the call.
The result goes into the register of the first argument, and no other register changes.

## Main definitions

* `Debugger` — the handlers, and how many calls were serviced
* `Debugger.panel`, `Debugger.standard` — the handlers of a debugging session
* `Debugger.service` — servicing the request in the guest's registers
-/

namespace Semihosting

/-- The handlers of a session. -/
structure Debugger (ς : Type) where
  /-- The handlers, in the order in which they are asked. -/
  handlers : List (Handler ς) := []
  /-- How many calls were serviced. -/
  served : Nat := 0

/-- What servicing a request leaves behind. -/
structure Serviced (σ ς : Type) where
  /-- The call with its result, or the fault that stopped it. -/
  outcome : Except Fault Call
  machine : Machine
  debugger : Debugger ς
  host : Host σ
  /-- What there is to report, in order. -/
  events : List Event

namespace Debugger

variable {σ ς : Type}

/-- The handlers of a debugging session, with what they keep. -/
def panel (t : StreamTable ς) (f : InputFeed) (c : Console) : List (Handler ς) :=
  [.streams t, .input f, .saver, .entropy, .console c, .clock]

/-- The debugger of a session with the given input, before the first call. -/
def standard (content : Option ByteArray) : Debugger ς := { handlers := panel {} { content } {} }

/-- Prepares the handlers in turn, up to the first that objects. The list holds the handlers that
were asked. -/
def startAll : List (Handler ς) → List (Handler ς) × Except Fault Unit
  | [] => ([], .ok ())
  | handler :: rest =>
    match handler.start with
    | .error fault => ([handler], .error fault)
    | .ok () =>
      let (asked, outcome) := startAll rest
      (handler :: asked, outcome)

/-- Prepares all handlers. -/
def start (d : Debugger ς) : Except Fault Unit := (startAll d.handlers).2

/-- The lines printed when the session ends. -/
def finish (d : Debugger ς) : Array String :=
  d.handlers.foldl (fun lines handler => lines ++ handler.finish) #[]

/-- How many pieces of input can still be delivered at most. -/
def supply (d : Debugger ς) : Nat :=
  d.handlers.foldr (fun handler rest => handler.supply + rest) 0

variable [FileHost σ ς]

/-- The reaction of the first handler that takes a request; the others stay as they are. -/
def react? (r : Request) : List (Handler ς) → Option (Reaction (List (Handler ς)) σ)
  | [] => none
  | handler :: rest =>
    match handler.react? r with
    | some act => some (act.map (· :: rest))
    | none => (react? r rest).map (·.map (handler :: ·))

/-- Services the request in the registers. A call that ends well is counted and reported; one that
faults is not, and one that no handler takes changes nothing. -/
def service (d : Debugger ς) (machine : Machine) (host : Host σ) : Serviced σ ς :=
  let request := Request.capture machine.registers
  match react? request d.handlers with
  | none =>
    { outcome := .error (.unknownCall request.number), machine, debugger := d, host
      events := [.callUnknown request] }
  | some act =>
    let registers := machine.registers
    let answer := act machine.memory host
    match answer.outcome with
    | .ok result =>
      let call := request.answered result
      { outcome := .ok call
        machine := { registers := registers.set .a0 result, memory := answer.memory }
        debugger := { handlers := answer.handler, served := d.served + 1 }
        host := answer.host
        events := answer.events ++ [.callServed call] }
    -- The registers stay, but what the handler has done already is done.
    | .error fault =>
      { outcome := .error fault
        machine := { registers, memory := answer.memory }
        debugger := { handlers := answer.handler, served := d.served }
        host := answer.host
        events := answer.events }

end Debugger

end Semihosting
