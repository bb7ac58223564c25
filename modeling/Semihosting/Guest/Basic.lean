import Semihosting.Debugger

/-!
# Guests

A guest places requests in its registers, has them serviced, and finds the results there. Its
memory is handed out by a heap that only grows, from an address above zero so that zero is no valid
pointer.

## Main definitions

* `Guest` — machine, debugger, host and heap of a running session
* `Guest.Action` — what a guest does: it changes the session and may fault
* `Guest.allocate` — taking memory from the heap
* `Guest.request`, `Guest.call` — asking for a service
* `Guest.print` — writing a text to standard output
-/

namespace Semihosting

/-- A session with a running guest. -/
structure Guest (σ ς : Type) where
  machine : Machine
  /-- The debugger that services its calls. -/
  debugger : Debugger ς
  host : Host σ
  /-- Memory from this address on is free. -/
  heap : Nat
  /-- What was reported, each event with the number of lines printed before it. -/
  journal : Array (Nat × Event) := #[]

namespace Guest

variable {σ ς : Type}

/-! ### Sessions -/

/-- The heap begins at this address. -/
def heapStart : Nat := 0x1000

/-- What a guest does. A fault stops it and keeps the session as it is. -/
abbrev Action (σ ς α : Type) := ExceptT Fault (StateM (Guest σ ς)) α

/-- A session about to begin: the handlers are prepared and the stack pointer is set to the end of
memory. -/
def start (machine : Machine) (debugger : Debugger ς) (host : Host σ) :
    Except Fault (Guest σ ς) :=
  debugger.start.map fun () =>
    let registers := machine.registers.set .sp (UInt64.ofNat machine.memory.size)
    { machine := { machine with registers }, debugger, host, heap := heapStart }

/-- The host at the end of the session, with the last line printed. -/
def finish (g : Guest σ ς) : Host σ := g.host.print g.debugger.finish

/-- The session with further events reported. -/
def note (g : Guest σ ς) (events : List Event) : Guest σ ς :=
  { g with journal := g.journal ++ events.toArray.map (g.host.printed.size, ·) }

/-! ### Memory -/

/-- The least multiple of `align` that is not below `address`. -/
def roundUp (address align : Nat) : Nat := (address + (align - 1)) / align * align

/-- Takes `length` bytes at a multiple of `align` from the heap; the result is their address. -/
def allocate (length align : Word) : Action σ ς Word := do
  let g ← get
  let address := roundUp g.heap align.toNat
  if address + length.toNat ≤ g.machine.memory.size then
    set { g with heap := address + length.toNat }
    return UInt64.ofNat address
  else throw (.outOfBounds (UInt64.ofNat g.heap) length)

/-- Puts bytes into guest memory. -/
def store (address : Word) (data : ByteArray) : Action σ ς Unit := do
  let g ← get
  let memory ← g.machine.memory.store address data
  set { g with machine.memory := memory }

/-- Puts a word into guest memory. -/
def storeWord (address w : Word) : Action σ ς Unit := store address (Bytes.ofWord w)

/-- The word at an address of guest memory. -/
def loadWord (address : Word) : Action σ ς Word := do
  let g ← get
  g.machine.memory.loadWord address

/-- Puts bytes into fresh memory; the result is their address. -/
def allocateBytes (data : ByteArray) : Action σ ς Word := do
  let address ← allocate (UInt64.ofNat data.size) 1
  store address data
  return address

/-- Puts a text and a zero byte behind it into fresh memory; the result is its address. -/
def allocateString (text : String) : Action σ ς Word := do
  let data := text.toUTF8
  let address ← allocate (UInt64.ofNat (data.size + 1)) 1
  store address data
  store (address + UInt64.ofNat data.size) ⟨#[0]⟩
  return address

variable [FileHost σ ς]

/-! ### Calls -/

/-- Has the request in the registers serviced. -/
def service : Action σ ς Call := fun g =>
  let ⟨machine, debugger, host, heap, journal⟩ := g
  let serviced := debugger.service machine host
  (serviced.outcome,
    ({ machine := serviced.machine, debugger := serviced.debugger, host := serviced.host, heap,
       journal } : Guest σ ς).note serviced.events)

/-- Places a request and has it serviced; the result is the word it leaves. -/
def request (r : Request) : Action σ ς Word := do
  modify fun g => { g with machine.registers := r.load g.machine.registers }
  let call ← service
  modify (note · [.callReturned r.number call.result])
  return call.result

/-- Asks for a service with the given arguments, the missing ones being zero. -/
def call (service : Service) (arguments : List Word) : Action σ ς Word :=
  request (.ofList service.number arguments)

/-- Writes a text to standard output, in memory that is given back whatever happens. -/
def print (text : String) : Action σ ς Word := fun g =>
  let data := text.toUTF8
  let write : Action σ ς Word := do
    let address ← allocateBytes data
    call .write [1, address, UInt64.ofNat data.size]
  let (outcome, after) := write g
  (outcome, { after with heap := g.heap })

/-- Closes the standard descriptors, as the last thing a program does. -/
def exit : Action σ ς Unit := do
  for descriptor in [0, 1, 2] do
    discard (call .close [descriptor])

/-- An upper bound on the number of pieces of data that a program can take from files and from the
session's input. -/
def supply (g : Guest σ ς) : Nat := FileHost.volume g.host.files + g.debugger.supply

end Guest

end Semihosting
