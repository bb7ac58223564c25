import Semihosting.Handler.Answer

/-!
# The input feed

A debugging session may be started with an input file, which the guest takes piece by piece into a
buffer of its own, stating the buffer's size in a word that comes back with the size of the piece.

## Main definitions

* `InputFeed` — the input and how much of it was delivered
* `InputFeed.deliver` — the service
-/

namespace Semihosting

/-- The input of a session, delivered up to an offset. -/
structure InputFeed where
  /-- The input, if the session has one. -/
  content : Option ByteArray := none
  /-- How many bytes were delivered. -/
  offset : Nat := 0
deriving DecidableEq

namespace InputFeed

variable {σ : Type}

/-- How many bytes are left to deliver. -/
def left (f : InputFeed) : Nat :=
  match f.content with
  | some content => content.size - f.offset
  | none => 0

/-- Delivers the next piece to `buffer`, as long as the word at `length` allows, and leaves the
length of the piece there. The result is zero; it is one when nothing is left, which leaves length
zero, and minus one without an input. -/
def deliver (f : InputFeed) (buffer length : Word) : Reaction InputFeed σ :=
  fun memory host =>
    match f.content with
    | none => { outcome := .ok (-1), handler := f, memory, host, events := [.inputMissing] }
    | some content =>
      match memory.loadWord length with
      | .error fault => { outcome := .error fault, handler := f, memory, host }
      | .ok capacity =>
        if content.size ≤ f.offset then
          match memory.storeWord length 0 with
          | .ok memory => { outcome := .ok 1, handler := f, memory, host }
          | .error fault => { outcome := .error fault, handler := f, memory, host }
        else
          let count := min (content.size - f.offset) capacity.toNat
          match memory.store buffer (Bytes.window content f.offset count) with
          | .error fault => { outcome := .error fault, handler := f, memory, host }
          | .ok filled =>
            -- The word was read from here, so there is room for it.
            match filled.storeWord length (UInt64.ofNat count) with
            | .error fault => { outcome := .error fault, handler := f, memory := filled, host }
            | .ok memory =>
              { outcome := .ok 0
                handler := { f with offset := f.offset + count }
                memory
                host
                events := [.inputDelivered count (content.size - (f.offset + count))] }

/-- The reaction to a request for input. -/
def react? (f : InputFeed) (r : Request) : Option (Reaction InputFeed σ) :=
  match r.service? with
  | some .readStream => some (f.deliver (r.arg 0) (r.arg 1))
  | _ => none

end InputFeed

end Semihosting
