import Semihosting.Program.Run
import Semihosting.Proofs.ConsoleOutput

/-!
# The calls of a guest

What a guest does is a sequence of work on its own memory and of host calls. The calls it makes are
a transcript, from the session as it finds it to the session as it leaves it. What a call does to
a guest of a debugging session follows from what the handlers make of it.

## Main definitions

* `Turn.stdout` — the bytes that a call writes to standard output
* `Guest.turn` — the call that a request of a guest becomes
* `Guest.Performs` — an action with the calls it makes and the guest it leaves
* `Guest.View`, `Guest.Has` — what a program can notice of a guest in a debugging session

## Main results

* `Guest.Performs.eq`, `Guest.Performs.transcript`, `Guest.Performs.served` — an action that
  performs some calls leads where it says, its calls are a transcript, and all of them were serviced
  if it has a result
* `Guest.Has.call_streams`, `Guest.Has.call_write`, `Guest.Has.call_readStream` — what a call does
  to a guest
-/

namespace Semihosting

open Debugger (panel)

/-! ### Requests in registers -/

/-- Registers hold the request that was placed in them. -/
theorem Request.capture_load (r : Request) (rs : Registers) : Request.capture (r.load rs) = r := by
  obtain ⟨number, ⟨⟨arguments⟩, size⟩⟩ := r
  match arguments, size with
  | [a, b, c, d, e, f], _ =>
    simp [Request.capture, Request.load, Register.arguments, Registers.get_set, Register.a7]

@[simp] theorem Request.number_ofList (number : Word) (arguments : List Word) :
    (Request.ofList number arguments).number = number := rfl

theorem Request.service?_ofList (service : Service) (arguments : List Word) :
    (Request.ofList service.number arguments).service? = some service :=
  Service.ofNumber?_number service

theorem Request.getElem_ofList (number : Word) (arguments : List Word) (i : Nat) (h : i < 6) :
    (Request.ofList number arguments).arguments[i] = arguments.getD i 0 := by
  simp [Request.ofList]

/-- The handle that a request names. -/
theorem Request.handle?_ofList {service : Service} {arguments : List Word} :
    (Request.ofList service.number arguments).handle? =
      match service with
      | .freopen => some (arguments.getD 2 0)
      | .fread | .fwrite => some (arguments.getD 3 0)
      | .feof | .ferror | .fgetc | .fclose | .ftell | .fseek => some (arguments.getD 0 0)
      | _ => none := by
  simp only [handle?, service?_ofList, arg, getElem_ofList]
  cases service <;> rfl

/-! ### Standard output -/

/-- The bytes that a call writes to standard output. -/
def Turn.stdout {σ ς : Type} [FileHost σ ς] (x : Turn σ ς) : List UInt8 :=
  if x.arg 0 = 1 then x.output else []

namespace Guest

variable {σ ς : Type} {α β : Type}

/-! ### Actions step by step -/

section Steps

variable {act : Action σ ς α} {next : α → Action σ ς β} {g g' : Guest σ ς} {a : α} {fault : Fault}

theorem bind_of_ok (h : act g = (.ok a, g')) : (act >>= next : Action σ ς β) g = next a g' := by
  simp only [bind, ExceptT.bind, ExceptT.mk, StateT.bind]
  rw [h]
  rfl

theorem bind_of_error (h : act g = (.error fault, g')) :
    (act >>= next : Action σ ς β) g = (.error fault, g') := by
  simp only [bind, ExceptT.bind, ExceptT.mk, StateT.bind]
  rw [h]
  rfl

end Steps

/-- An action that gives back the memory it has taken from the heap. -/
def lending (act : Action σ ς α) : Action σ ς α := fun g =>
  ((act g).1, { (act g).2 with heap := g.heap })

/-- The session that a guest is in. -/
def stage (g : Guest σ ς) : Stage σ ς := ⟨g.debugger, g.host⟩

/-- The call that a request of a guest becomes. -/
def turn (g : Guest σ ς) (r : Request) : Turn σ ς :=
  { g.stage with machine := { g.machine with registers := r.load g.machine.registers } }

@[simp] theorem request_turn (g : Guest σ ς) (r : Request) : (g.turn r).request = r :=
  Request.capture_load r _

theorem service?_turn (g : Guest σ ς) (service : Service) (arguments : List Word) :
    (g.turn (.ofList service.number arguments)).service? = some service := by
  rw [Turn.service?, request_turn, Request.service?_ofList]

theorem arg_turn (g : Guest σ ς) (number : Word) (arguments : List Word) (i : Nat)
    (h : decide (i < 6) = true) :
    (g.turn (.ofList number arguments)).arg i h = arguments.getD i 0 := by
  simp only [Turn.arg, request_turn, Request.arg, Request.getElem_ofList]

variable [FileHost σ ς]

/-- A call for any other service than a write says nothing to standard output. -/
theorem stdout_turn (g : Guest σ ς) {service : Service} (other : service ≠ .write)
    (arguments : List Word) : (g.turn (.ofList service.number arguments)).stdout = [] := by
  have silent : (g.turn (.ofList service.number arguments)).output = [] :=
    Turn.output_of_ne (by rw [service?_turn]; exact fun same => other (Option.some.inj same))
  rw [Turn.stdout, silent, ite_self]

/-! ### Requests -/

section Requests

variable {g : Guest σ ς} {r : Request}

/-- A request that is serviced hands over the result of the call. -/
theorem request_of_ok {call : Call} (h : (g.turn r).serviced.outcome = .ok call) :
    ∃ journal, request r g = (.ok call.result,
      { machine := (g.turn r).serviced.machine, debugger := (g.turn r).serviced.debugger
        host := (g.turn r).serviced.host, heap := g.heap, journal }) := by
  have serviced : service { g with machine.registers := r.load g.machine.registers } =
      (.ok call, ({ machine := (g.turn r).serviced.machine
                    debugger := (g.turn r).serviced.debugger, host := (g.turn r).serviced.host
                    heap := g.heap, journal := g.journal } : Guest σ ς).note
        (g.turn r).serviced.events) := by
    rw [← h]
    rfl
  exact ⟨_, (bind_of_ok rfl).trans ((bind_of_ok serviced).trans rfl)⟩

/-- A request that faults ends the action. -/
theorem request_of_error {fault : Fault} (h : (g.turn r).serviced.outcome = .error fault) :
    ∃ journal, request r g = (.error fault,
      { machine := (g.turn r).serviced.machine, debugger := (g.turn r).serviced.debugger
        host := (g.turn r).serviced.host, heap := g.heap, journal }) := by
  have serviced : service { g with machine.registers := r.load g.machine.registers } =
      (.error fault, ({ machine := (g.turn r).serviced.machine
                        debugger := (g.turn r).serviced.debugger
                        host := (g.turn r).serviced.host
                        heap := g.heap, journal := g.journal } : Guest σ ς).note
        (g.turn r).serviced.events) := by
    rw [← h]
    rfl
  exact ⟨_, (bind_of_ok rfl).trans (bind_of_error serviced)⟩

/-- A request leads to the stage behind its call. -/
theorem stage_request (g : Guest σ ς) (r : Request) :
    (request r g).2.stage = (g.turn r).after := by
  cases h : (g.turn r).serviced.outcome with
  | ok call =>
    obtain ⟨journal, requested⟩ := request_of_ok h
    rw [requested]
    rfl
  | error fault =>
    obtain ⟨journal, requested⟩ := request_of_error h
    rw [requested]
    rfl

/-- A request that has a result leads to the stage behind a call that has it. -/
theorem result?_of_request {w : Word} {g' : Guest σ ς} (run : request r g = (.ok w, g')) :
    (g.turn r).result? = some w ∧ g'.stage = (g.turn r).after := by
  have stage := stage_request g r
  rw [run] at stage
  refine ⟨?_, stage⟩
  cases ended : (g.turn r).serviced.outcome with
  | error fault =>
    obtain ⟨journal, faulted⟩ := request_of_error ended
    rw [faulted] at run
    cases run
  | ok call =>
    obtain ⟨journal, requested⟩ := request_of_ok ended
    rw [requested] at run
    cases run
    rw [Turn.result?, ended]
    rfl

end Requests

/-! ### Actions and their calls -/

/-- An action makes calls, in order, and ends with an outcome and a guest. -/
inductive Performs : {α : Type} → Action σ ς α → Guest σ ς → List (Turn σ ς) → Except Fault α →
    Guest σ ς → Prop
  /-- Work on the guest itself is no call. -/
  | silent {α : Type} {act : Action σ ς α} {g g' : Guest σ ς} {outcome : Except Fault α}
      (run : act g = (outcome, g')) (stage : g'.stage = g.stage) : Performs act g [] outcome g'
  /-- A request is one call. -/
  | request (r : Request) (g : Guest σ ς) :
      Performs (request r) g [g.turn r] (request r g).1 (request r g).2
  /-- One action follows another. -/
  | bind {α β : Type} {act : Action σ ς α} {next : α → Action σ ς β} {g g' g'' : Guest σ ς}
      {xs ys : List (Turn σ ς)} {a : α} {outcome : Except Fault β}
      (first : Performs act g xs (.ok a) g') (rest : Performs (next a) g' ys outcome g'') :
      Performs (act >>= next) g (xs ++ ys) outcome g''
  /-- A fault ends the action. -/
  | stop {α β : Type} {act : Action σ ς α} {next : α → Action σ ς β} {g g' : Guest σ ς}
      {xs : List (Turn σ ς)} {fault : Fault} (first : Performs act g xs (.error fault) g') :
      Performs (act >>= next) g xs (.error fault) g'
  /-- Memory is given back. -/
  | lending {α : Type} {act : Action σ ς α} {g g' : Guest σ ς} {xs : List (Turn σ ς)}
      {outcome : Except Fault α} (inner : Performs act g xs outcome g') :
      Performs (lending act) g xs outcome { g' with heap := g.heap }

namespace Performs

variable {act : Action σ ς α} {g g' : Guest σ ς} {turns : List (Turn σ ς)}
variable {outcome : Except Fault α}

/-- The action leads where it is said to lead. -/
theorem eq (performs : Performs act g turns outcome g') : act g = (outcome, g') := by
  induction performs with
  | silent run _ => exact run
  | request r g => rfl
  | bind _ _ first rest => exact (bind_of_ok first).trans rest
  | stop _ first => exact bind_of_error first
  | lending _ inner => rw [Guest.lending, inner]

/-- The calls lead from the session before to the session behind. -/
theorem transcript (performs : Performs act g turns outcome g') :
    Transcript g.stage turns g'.stage := by
  induction performs with
  | silent _ stage =>
    rw [stage]
    exact .nil
  | request r g =>
    rw [stage_request]
    exact Transcript.nil.snoc _
  | bind _ _ first rest => exact Transcript.append_iff.mpr ⟨_, first, rest⟩
  | stop _ first => exact first
  | lending _ inner => exact inner

/-- An action that has a result has made as many calls as were serviced meanwhile. -/
theorem served {a : α} (performs : Performs act g turns (.ok a) g') :
    g'.debugger.served = g.debugger.served + turns.length := by
  generalize ok : Except.ok a = outcome at performs
  induction performs with
  | silent _ stage => exact congrArg (fun s => s.debugger.served) stage
  | request r g =>
    obtain ⟨result, stage⟩ := result?_of_request (Prod.ext ok.symm rfl)
    have counted := (g.turn r).served_after
    rw [← stage] at counted
    have isOk : (g.turn r).serviced.outcome.isOk = true := by
      rw [Turn.result?] at result
      cases ended : (g.turn r).serviced.outcome with
      | ok call => rfl
      | error fault =>
        rw [ended] at result
        cases result
    rw [isOk] at counted
    exact counted
  | bind _ _ first rest =>
    rw [rest ok, first rfl, List.length_append, Nat.add_assoc]
  | stop _ _ => cases ok
  | lending _ inner => exact inner ok

theorem pure (a : α) (g : Guest σ ς) : Performs (Pure.pure a : Action σ ς α) g [] (.ok a) g :=
  .silent rfl rfl

/-- The result of an action may be of no interest. -/
theorem discard {a : α} (performs : Performs act g turns (.ok a) g') :
    Performs (Functor.discard act) g turns (.ok PUnit.unit) g' := by
  have whole : Performs (act >>= fun _ => (Pure.pure PUnit.unit : Action σ ς PUnit)) g (turns ++ [])
      (.ok PUnit.unit) g' := performs.bind (.pure PUnit.unit g')
  rw [List.append_nil] at whole
  exact whole

end Performs

/-! ### Guests in a debugging session -/

/-- What a program can notice of a guest in a debugging session. -/
structure View (σ ς : Type) where
  memory : Memory
  /-- Memory from this address on is free. -/
  heap : Nat
  table : StreamTable ς
  feed : InputFeed
  console : Console
  host : Host σ
  /-- How many calls were serviced. -/
  served : Nat

/-- The guest is in a debugging session that looks like this. -/
structure Has (g : Guest σ ς) (v : View σ ς) : Prop where
  memory : g.machine.memory = v.memory
  heap : g.heap = v.heap
  /-- The session has its six handlers. -/
  handlers : g.debugger.handlers = panel v.table v.feed v.console
  host : g.host = v.host
  served : g.debugger.served = v.served

variable {g : Guest σ ς} {v : View σ ς} {service : Service} {arguments : List Word} {w : Word}

omit [FileHost σ ς] in
/-- A session about to begin is a fresh debugging session. -/
theorem has_of_start {machine : Machine} {input : Option ByteArray} {host : Host σ}
    (started : start machine (.standard input) host = .ok g) :
    g.Has { memory := machine.memory, heap := heapStart, table := {}, feed := { content := input }
            console := {}, host, served := 0 } := by
  cases started
  exact ⟨rfl, rfl, rfl, rfl, rfl⟩

omit [FileHost σ ς] in
/-- When a session ends, its host prints the line that has not ended. -/
theorem Has.finish_eq (has : g.Has v) : g.finish = v.host.print v.console.flush := by
  have flushed : g.debugger.finish = v.console.flush := by
    simp [Debugger.finish, has.handlers, panel, Handler.finish]
  rw [finish, flushed, has.host]

omit [FileHost σ ς] in
theorem Has.printed_finish (has : g.Has v) :
    g.finish.printed = v.host.printed ++ v.console.flush := by
  rw [has.finish_eq]
  rfl

/-- A call that is answered well hands its result over and is counted. -/
theorem Has.call_of_answer (has : g.Has v) {t : StreamTable ς} {f : InputFeed} {c : Console}
    {answer : Answer (List (Handler ς)) σ}
    (answered : (g.turn (.ofList service.number arguments)).answer? = some answer)
    (ok : answer.outcome = .ok w) (handlers : answer.handler = panel t f c) :
    ∃ g', Performs (call service arguments) g [g.turn (.ofList service.number arguments)] (.ok w)
        g' ∧
      g'.Has { memory := answer.memory, heap := v.heap, table := t, feed := f, console := c
               host := answer.host, served := v.served + 1 } := by
  have serviced := Turn.serviced_of_ok answered ok
  obtain ⟨journal, requested⟩ := request_of_ok (congrArg Serviced.outcome serviced)
  have performs := Performs.request (.ofList service.number arguments) g
  rw [requested, serviced] at performs
  refine ⟨_, performs, rfl, has.heap, handlers, rfl, ?_⟩
  exact congrArg (· + 1) has.served

/-- What a call for a stream service does. -/
theorem Has.call_streams (has : g.Has v) {answer : Answer (StreamTable ς) σ}
    (reacts : (v.table.react? (.ofList service.number arguments)).map
      (fun act => act v.memory v.host) = some answer)
    (ok : answer.outcome = .ok w) :
    ∃ g', Performs (call service arguments) g [g.turn (.ofList service.number arguments)] (.ok w)
        g' ∧
      g'.Has { v with
        memory := answer.memory, table := answer.handler, host := answer.host
        served := v.served + 1 } := by
  obtain ⟨act, hact, rfl⟩ := Option.map_eq_some_iff.mp reacts
  rw [← request_turn g (.ofList service.number arguments)] at hact
  have answered := Turn.answer?_streams has.handlers hact
  have memory : (g.turn (.ofList service.number arguments)).memory = v.memory := has.memory
  have host : (g.turn (.ofList service.number arguments)).host = v.host := has.host
  rw [memory, host] at answered
  exact has.call_of_answer answered ok rfl

/-- What a write to standard output does. -/
theorem Has.call_write (has : g.Has v) {address : Word} {data : ByteArray}
    (loaded : v.memory.load address (UInt64.ofNat data.size) = .ok data) :
    ∃ g' x, Performs (call .write [1, address, UInt64.ofNat data.size]) g [x]
        (.ok (UInt64.ofNat data.size)) g' ∧
      x.service? = some .write ∧ x.stdout = data.data.toList ∧
      g'.Has { v with
        console := (v.console.feed data).2, host := v.host.print (v.console.feed data).1
        served := v.served + 1 } := by
  have memory :
      (g.turn (.ofList Service.write.number [1, address, UInt64.ofNat data.size])).memory =
        v.memory := has.memory
  have host :
      (g.turn (.ofList Service.write.number [1, address, UInt64.ofNat data.size])).host =
        v.host := has.host
  have written : v.console.write (σ := σ) 1 address (UInt64.ofNat data.size) v.memory v.host =
      { outcome := .ok (UInt64.ofNat data.size), handler := (v.console.feed data).2
        memory := v.memory, host := v.host.print (v.console.feed data).1 } := by
    rw [Console.write, if_pos (Or.inl rfl), loaded]
  have answer := Turn.answer?_write
    (x := g.turn (.ofList Service.write.number [1, address, UInt64.ofNat data.size]))
    has.handlers (service?_turn ..)
  rw [arg_turn, arg_turn, arg_turn, memory, host] at answer
  change _ = some (Answer.map _
    (v.console.write 1 address (UInt64.ofNat data.size) v.memory v.host)) at answer
  rw [written] at answer
  obtain ⟨g', performs, has'⟩ := has.call_of_answer answer rfl rfl
  refine ⟨g', _, performs, service?_turn .., ?_, has'⟩
  -- What was written is what was found in memory.
  have found := (Memory.load_eq_ok_iff.mp loaded).2
  have result : (g.turn
      (.ofList Service.write.number [1, address, UInt64.ofNat data.size])).result?.isSome := by
    rw [Turn.result?_eq answer]
    rfl
  have descriptor : (g.turn
      (.ofList Service.write.number [1, address, UInt64.ofNat data.size])).arg 0 = 1 := arg_turn ..
  rw [Turn.stdout, if_pos descriptor, Turn.output,
    if_pos ⟨service?_turn .., Or.inl descriptor, result⟩, memory, arg_turn, arg_turn]
  exact congrArg (·.data.toList) found.symm

/-- What a call for input does that ends well. -/
theorem Has.call_readStream (has : g.Has v) {buffer length : Word} {answer : Answer InputFeed σ}
    (delivered : v.feed.deliver buffer length v.memory v.host = answer)
    (ok : answer.outcome = .ok w) :
    ∃ g' x, Performs (call .readStream [buffer, length]) g [x] (.ok w) g' ∧
      g'.Has { v with
        memory := answer.memory, feed := answer.handler, host := answer.host
        served := v.served + 1 } := by
  have answered := Turn.answer?_readStream
    (x := g.turn (.ofList Service.readStream.number [buffer, length])) has.handlers
    (service?_turn ..)
  have memory : (g.turn (.ofList Service.readStream.number [buffer, length])).memory = v.memory :=
    has.memory
  have host : (g.turn (.ofList Service.readStream.number [buffer, length])).host = v.host :=
    has.host
  rw [arg_turn, arg_turn, memory, host] at answered
  change _ = some (Answer.map _ (v.feed.deliver buffer length v.memory v.host)) at answered
  rw [delivered] at answered
  obtain ⟨g', performs, has'⟩ := has.call_of_answer answered ok rfl
  exact ⟨g', _, performs, has'⟩

/-- Closing a standard descriptor is counted, and nothing else happens. -/
theorem Has.call_close (has : g.Has v) {descriptor : Word} (standard : descriptor ≤ 2) :
    ∃ g' x, Performs (call .close [descriptor]) g [x] (.ok 0) g' ∧
      g'.Has { v with served := v.served + 1 } := by
  have answered := Turn.answer?_close
    (x := g.turn (.ofList Service.close.number [descriptor])) has.handlers (service?_turn ..)
  have memory : (g.turn (.ofList Service.close.number [descriptor])).memory = v.memory :=
    has.memory
  have host : (g.turn (.ofList Service.close.number [descriptor])).host = v.host := has.host
  rw [arg_turn, if_pos (show [descriptor].getD 0 0 ≤ 2 from standard), memory,
    host] at answered
  obtain ⟨g', performs, has'⟩ := has.call_of_answer answered rfl rfl
  exact ⟨g', _, performs, has'⟩

/-- The last calls of a program, one after another. -/
theorem exit_eq :
    (do
      discard (call .close [0])
      discard (call .close [1])
      discard (call .close [2])) = (exit : Action σ ς Unit) := by
  simp [Guest.exit]

/-- A program ends with three calls that change nothing. -/
theorem Has.exit (has : g.Has v) :
    ∃ g' turns, Performs exit g turns (.ok ()) g' ∧ turns.length = 3 ∧
      g'.Has { v with served := v.served + 3 } := by
  obtain ⟨g₁, x₁, first, has₁⟩ := has.call_close (show (0 : Word) ≤ 2 by decide)
  obtain ⟨g₂, x₂, second, has₂⟩ := has₁.call_close (show (1 : Word) ≤ 2 by decide)
  obtain ⟨g₃, x₃, third, has₃⟩ := has₂.call_close (show (2 : Word) ≤ 2 by decide)
  refine ⟨g₃, [x₁] ++ ([x₂] ++ [x₃]), ?_, rfl, has₃⟩
  rw [← exit_eq]
  exact first.discard.bind (second.discard.bind third.discard)

end Guest

end Semihosting
