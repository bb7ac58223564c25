import Semihosting.Handler.Answer
import Semihosting.Text.Utf8

/-!
# The console

What the guest writes to standard output or standard error is collected into lines, and each line
is printed by the host when its newline arrives. Standard input is always at its end.

## Main definitions

* `Console` — the bytes of the line that has not ended
* `Console.feed` — the lines that new bytes complete
* `Console.flush` — ending the last line
* `Console.react?` — the reaction to a request for a console service
-/

namespace Semihosting

/-- A console, with the bytes written since the last newline. -/
structure Console where
  /-- The line that has not ended. -/
  pending : ByteArray := .empty
deriving DecidableEq

namespace Console

variable {σ : Type}

/-- The byte that ends a line. -/
def newline : UInt8 := 0x0a

/-- Takes one byte behind the lines already ended: it ends the pending line or joins it. -/
def take (state : Array String × Console) (b : UInt8) : Array String × Console :=
  if b = newline then (state.1.push (Utf8.decode state.2.pending), {})
  else (state.1, { pending := state.2.pending.push b })

/-- The lines that `data` ends, and the console behind them. -/
def feed (c : Console) (data : ByteArray) : Array String × Console :=
  data.data.toList.foldl take (#[], c)

/-- The lines still to be printed when the console goes away: the pending one, unless it is
empty. -/
def flush (c : Console) : Array String :=
  if c.pending.isEmpty then #[] else #[Utf8.decode c.pending]

/-- The result of a call on a descriptor that does not serve it: minus nine, a bad descriptor. -/
def refused : Word := -9

/-- Writes to standard output (1) or standard error (2). The result is the number of bytes. -/
def write (c : Console) (descriptor address count : Word) : Reaction Console σ :=
  fun memory host =>
    if descriptor = 1 ∨ descriptor = 2 then
      match memory.load address count with
      | .error fault => { outcome := .error fault, handler := c, memory, host }
      | .ok data =>
        let (lines, console) := c.feed data
        { outcome := .ok count, handler := console, memory, host := host.print lines }
    else { outcome := .ok refused, handler := c, memory, host }

/-- The reaction to a request for a console service. Reading standard input (0) finds nothing, and
closing one of the three descriptors succeeds without effect. -/
def react? (c : Console) (r : Request) : Option (Reaction Console σ) :=
  match r.service? with
  | some .write => some (c.write (r.arg 0) (r.arg 1) (r.arg 2))
  | some .read => some fun memory host =>
    { outcome := .ok (if r.arg 0 = 0 then 0 else refused), handler := c, memory, host }
  | some .close => some fun memory host =>
    { outcome := .ok (if r.arg 0 ≤ 2 then 0 else refused), handler := c, memory, host }
  | _ => none

end Console

end Semihosting
