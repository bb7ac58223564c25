import Semihosting.Handler.Console
import Semihosting.Handler.InputFeed
import Semihosting.Stdio.StreamTable

/-!
# Handlers

A handler takes the requests of one family and declines all others. Declining is having no
reaction, so a handler that declines changes nothing.

## Main definitions

* `Handler` — the families, with what each keeps between calls
* `Handler.react?` — the reaction to a request, if the handler takes it
* `Handler.start` — what a handler does before the guest starts
* `Handler.finish` — what a handler prints when the session ends
-/

namespace Semihosting

/-- A handler, over streams of type `ς`. -/
inductive Handler (ς : Type) where
  /-- Stdio streams on the host's files. -/
  | streams (t : StreamTable ς)
  /-- The input of the session. -/
  | input (f : InputFeed)
  | saver
  | entropy
  | console (c : Console)
  | clock
  /-- A stand-in that takes one number and always answers alike, with a word or with a fault, and
  that may object to the start of a guest. If nothing else is said, a stand-in that fails names the
  word in its fault, and objects with its number. -/
  | stub (number answer : Word) (fails : Bool) (fault : Fault := .unknownCall answer)
    (objection : Option Fault := if fails then some (.unknownCall number) else none)

namespace Handler

variable {σ ς : Type} [FileHost σ ς]

/-- Saves `count` bytes of guest memory as a whole file. The result is zero, or minus one if the
host refuses. -/
def saveFile (path address count : Word) : Reaction (Handler ς) σ :=
  fun memory host =>
    match memory.loadString path, memory.load address count with
    | .error fault, _ | .ok _, .error fault =>
      { outcome := .error fault, handler := saver, memory, host }
    | .ok path, .ok data =>
      let name := Utf8.decode path
      match FileHost.save host.files name data with
      | .ok files =>
        { outcome := .ok 0, handler := saver, memory, host := { host with files }
          events := [.fileSaved data.size name] }
      | .error reason =>
        { outcome := .ok (-1), handler := saver, memory, host
          events := [.saveFailed name reason] }

@[simp] theorem saveFile_handler (path address count : Word) (memory : Memory) (host : Host σ) :
    (saveFile (ς := ς) path address count memory host).handler = saver := by
  unfold saveFile
  split
  · rfl
  · rfl
  · dsimp only
    split <;> rfl

/-- The reaction to a request, if the handler takes it. -/
def react? (h : Handler ς) (r : Request) : Option (Reaction (Handler ς) σ) :=
  match h with
  | streams t => (t.react? r).map (·.map streams)
  | input f => (f.react? r).map (·.map input)
  | saver =>
    if r.service? = some .fileWrite then
      some (saveFile (r.arg 0) (r.arg 1) (r.arg 2))
    else none
  | entropy =>
    if r.service? = some .random then
      some fun memory host =>
        let (word, host) := host.draw
        { outcome := .ok word, handler := entropy, memory, host }
    else none
  | console c => (c.react? r).map (·.map console)
  | clock =>
    if r.service? = some .timestamp then
      some fun memory host =>
        let (time, host) := host.now
        { outcome := .ok time, handler := clock, memory, host }
    else none
  | stub number answer fails fault objection =>
    if r.number = number then
      some fun memory host =>
        { outcome := if fails then .error fault else .ok answer
          handler := stub number answer fails fault objection, memory, host }
    else none

/-- What happens before the guest starts: only a stub can object. -/
def start : Handler ς → Except Fault Unit
  | stub _ _ _ _ (some fault) => .error fault
  | _ => .ok ()

/-- The lines printed when the session ends. -/
def finish : Handler ς → Array String
  | console c => c.flush
  | _ => #[]

/-- How many pieces of input the handler can still deliver at most. -/
def supply : Handler ς → Nat
  | input f => f.left
  | _ => 0

end Handler

end Semihosting
