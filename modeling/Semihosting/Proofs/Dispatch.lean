import Semihosting.Proofs.Servers

/-!
# How a call finds its handler

The handlers of a debugger can be any list: the usual ones, stand-ins, or several of one kind. A
call is decided by the first of them that takes it. The handlers behind it are not asked, so it
makes no difference what they are. The result replaces the first argument in its register, and still
the call is recorded with the argument, because the request is read before any handler is asked. A
debugger counts the calls that end well, and no others.

## Main definitions

* `Turn.Recorded` — what a call that ends well leaves in the registers, and in the count
* `Turn.DecidedBy` — one handler has decided a call
* `Turn.Dispatched` — a call was decided by the first handler that takes it, or by none
* `Debugger.Prepared` — which handlers were prepared, and what came of it

## Main results

* `Turn.decidedBy_of_takes` — the first handler that takes a call decides it
* `Transcript.served_eq` — how many calls of a run are counted
* `Transcript.decided_by_first_taker` — any run with any handlers
-/

namespace Semihosting

variable {σ ς : Type} [FileHost σ ς]

/-! ### One call -/

namespace Turn

/-- A call ended well. Its record has the number and the arguments that were in the registers
before, and the result that is in a register now. -/
structure Recorded (x : Turn σ ς) (result : Word) (call : Call) : Prop where
  outcome : x.serviced.outcome = .ok call
  number : call.number = x.machine.registers.get .a7
  arguments : call.arguments = Register.arguments.map x.machine.registers.get
  result_eq : call.result = result
  left : x.serviced.machine.registers = x.machine.registers.set .a0 result
  found : x.serviced.machine.registers.get .a0 = call.result
  counted : x.after.debugger.served = x.debugger.served + 1

/-- A call faulted. The registers stay, and the call is not counted. -/
structure Stopped (x : Turn σ ς) (fault : Fault) : Prop where
  outcome : x.serviced.outcome = .error fault
  left : x.serviced.machine.registers = x.machine.registers
  uncounted : x.after.debugger.served = x.debugger.served

/-- The call with other handlers in the debugger. -/
def withHandlers (x : Turn σ ς) (handlers : List (Handler ς)) : Turn σ ς :=
  { x with debugger := { x.debugger with handlers } }

/-- One handler has decided the call with its answer, and all others are as they were. -/
structure DecidedBy (x : Turn σ ς) (before behind : List (Handler ς))
    (answer : Answer (Handler ς) σ) : Prop where
  handlers : x.after.debugger.handlers = before ++ answer.handler :: behind
  host : x.after.host = answer.host
  memory : x.serviced.machine.memory = answer.memory
  ended {result : Word} : answer.outcome = .ok result → ∃ call, x.Recorded result call
  stopped {fault : Fault} : answer.outcome = .error fault → x.Stopped fault

/-- No handler has taken the call, and nothing has changed. -/
structure Declined (x : Turn σ ς) : Prop where
  outcome : x.serviced.outcome = .error (.unknownCall (x.machine.registers.get .a7))
  machine : x.serviced.machine = x.machine
  after : x.after = x.toStage

/-- The first handler that takes the call decides it, and the handlers behind are not asked: in
front of any others it decides just the same. A call that no handler takes faults. -/
inductive Dispatched (x : Turn σ ς) : Prop where
  | taken {before behind : List (Handler ς)} {handler : Handler ς} {act : Reaction (Handler ς) σ}
      (split : x.debugger.handlers = before ++ handler :: behind)
      (passed : ∀ other ∈ before, other.react? (σ := σ) x.request = none)
      (takes : handler.react? x.request = some act)
      (decided : x.DecidedBy before behind (act x.memory x.host))
      (unasked : ∀ behind', (x.withHandlers (before ++ handler :: behind')).serviced =
        { x.serviced with debugger.handlers := before ++ (act x.memory x.host).handler :: behind' })
  | declined (passed : ∀ handler ∈ x.debugger.handlers, handler.react? (σ := σ) x.request = none)
      (declined : x.Declined)

variable {x : Turn σ ς} {before behind : List (Handler ς)} {handler : Handler ς}
variable {act : Reaction (Handler ς) σ}

theorem recorded_of_ok {answer : Answer (List (Handler ς)) σ} {result : Word}
    (found : x.answer? = some answer) (ok : answer.outcome = .ok result) :
    x.Recorded result (x.request.answered result) := by
  have serviced := serviced_of_ok found ok
  have left : x.serviced.machine.registers = x.machine.registers.set .a0 result := by
    rw [serviced]
  refine ⟨by rw [serviced], rfl, rfl, rfl, left, ?_, by rw [after, serviced]⟩
  rw [left, Registers.get_set, if_pos ⟨rfl, by decide⟩]
  rfl

theorem stopped_of_error {answer : Answer (List (Handler ς)) σ} {fault : Fault}
    (found : x.answer? = some answer) (error : answer.outcome = .error fault) :
    x.Stopped fault := by
  have serviced := serviced_of_error found error
  exact ⟨by rw [serviced], by rw [serviced], by rw [after, serviced]⟩

theorem decidedBy_of_takes (split : x.debugger.handlers = before ++ handler :: behind)
    (passed : ∀ other ∈ before, other.react? (σ := σ) x.request = none)
    (takes : handler.react? x.request = some act) :
    x.DecidedBy before behind (act x.memory x.host) := by
  have found := answer?_of_takes split passed takes
  exact
    { handlers := handlers_after found
      host := host_after found
      memory := memory_serviced found
      ended := fun ok => ⟨_, recorded_of_ok found ok⟩
      stopped := fun error => stopped_of_error found error }

/-- The handlers behind the one that takes a call have no part in it. -/
theorem serviced_withHandlers (split : x.debugger.handlers = before ++ handler :: behind)
    (passed : ∀ other ∈ before, other.react? (σ := σ) x.request = none)
    (takes : handler.react? x.request = some act) (behind' : List (Handler ς)) :
    (x.withHandlers (before ++ handler :: behind')).serviced =
      { x.serviced with
        debugger.handlers := before ++ (act x.memory x.host).handler :: behind' } := by
  have found := answer?_of_takes split passed takes
  -- The answer does not mention the handlers behind, except that it keeps them.
  have found' : (x.withHandlers (before ++ handler :: behind')).answer? =
      some ((act x.memory x.host).map (before ++ · :: behind')) :=
    answer?_of_takes rfl passed takes
  cases ended : (act x.memory x.host).outcome with
  | ok result =>
    rw [serviced_of_ok found ended, serviced_of_ok found' ended]
    rfl
  | error fault =>
    rw [serviced_of_error found ended, serviced_of_error found' ended]
    rfl

theorem declined_of_none (none : x.answer? = none) : x.Declined := by
  have serviced := serviced_of_none none
  exact ⟨by rw [serviced]; rfl, by rw [serviced], after_of_none none⟩

theorem is_dispatched (x : Turn σ ς) : x.Dispatched := by
  cases taken : Debugger.react? (σ := σ) x.request x.debugger.handlers with
  | some act =>
    obtain ⟨before, handler, behind, act, split, passed, takes, -⟩ :=
      Debugger.react?_eq_some_iff.mp taken
    exact .taken split passed takes (decidedBy_of_takes split passed takes)
      (serviced_withHandlers split passed takes)
  | none =>
    exact .declined (Debugger.react?_eq_none_iff.mp taken)
      (declined_of_none (by rw [answer?, taken]; rfl))

end Turn

/-! ### Whole runs -/

/-- The count grows by the number of calls that end well. -/
theorem Transcript.served_eq {s₀ s : Stage σ ς} {turns : List (Turn σ ς)}
    (run : Transcript s₀ turns s) :
    s.debugger.served = s₀.debugger.served + turns.countP (·.serviced.outcome.isOk) := by
  induction run with
  | nil => rfl
  | snoc run machine ih =>
    rw [Turn.served_after, List.countP_append, List.countP_singleton, ih, Nat.add_assoc]

/-! ### Before the first call -/

namespace Debugger

/-- Handlers are prepared in order: all of them, or up to the first that objects. The list holds the
handlers that were asked. -/
inductive Prepared (handlers : List (Handler ς)) : List (Handler ς) → Except Fault Unit → Prop where
  | all (willing : ∀ handler ∈ handlers, handler.start = .ok ()) :
      Prepared handlers handlers (.ok ())
  | stopped {before behind : List (Handler ς)} {handler : Handler ς} {fault : Fault}
      (split : handlers = before ++ handler :: behind)
      (willing : ∀ other ∈ before, other.start = .ok ()) (objects : handler.start = .error fault) :
      Prepared handlers (before ++ [handler]) (.error fault)

theorem prepared_startAll (handlers : List (Handler ς)) :
    Prepared handlers (startAll handlers).1 (startAll handlers).2 := by
  induction handlers with
  | nil => exact .all nofun
  | cons first rest ih =>
    cases started : first.start with
    | error fault =>
      -- The first handler objects, so the rest is not asked.
      simp only [startAll, started]
      change Prepared ([] ++ first :: rest) ([] ++ [first]) (.error fault)
      exact .stopped rfl nofun started
    | ok =>
      simp only [startAll, started]
      generalize startAll rest = prepared at ih
      obtain ⟨asked, outcome⟩ := prepared
      cases ih with
      | all willing => exact .all (List.forall_mem_cons.mpr ⟨started, willing⟩)
      | @stopped before behind handler fault split willing objects =>
        subst split
        change Prepared (first :: before ++ handler :: behind) (first :: before ++ [handler]) _
        exact .stopped rfl (List.forall_mem_cons.mpr ⟨started, willing⟩) objects

end Debugger

/-- In a run with any handlers, each call is decided by the first handler that takes it, the
calls that end well are counted, and no others are. Before the run, the handlers are prepared in
order, up to the first that objects. -/
theorem Transcript.decided_by_first_taker {handlers : List (Handler ς)} {host : Host σ}
    {turns : List (Turn σ ς)} {s : Stage σ ς} (run : Transcript ⟨{ handlers }, host⟩ turns s) :
    Debugger.Prepared handlers (Debugger.startAll handlers).1
        (Debugger.start { handlers := handlers }) ∧
      (∀ x ∈ turns, x.Dispatched) ∧
      s.debugger.served = turns.countP (·.serviced.outcome.isOk) := by
  refine ⟨Debugger.prepared_startAll handlers, fun x _ => x.is_dispatched, ?_⟩
  rw [run.served_eq, Nat.zero_add]

/-! ### Stand-ins

Two stand-ins take the number seven, and the first of them answers. Another one takes the number
nine, and fails. -/

namespace StandIns

def handlers : List (Handler StoredStream) :=
  [.stub 7 8 false, .stub 9 1 true, .stub 7 0 true, .clock]

/-- A call by number, with a five in the register of the first argument. -/
def machine (number : Word) : Machine := ⟨(Request.ofList number [5]).load .blank, .blank 0⟩

def first : Turn FileStore StoredStream :=
  ⟨⟨{ handlers }, { files := {} }⟩, machine 7⟩

def second : Turn FileStore StoredStream := ⟨first.after, machine 9⟩

def third : Turn FileStore StoredStream := ⟨second.after, machine 5⟩

theorem run : Transcript first.toStage [first, second, third] third.after :=
  ((Transcript.nil.snoc _).snoc _).snoc _

end StandIns

/-- Of three calls one is counted. The other two fault, one by its handler and one without any. -/
theorem Transcript.decided_by_first_taker_standIns :
    StandIns.third.after.debugger.served = 1 ∧
      StandIns.first.serviced.outcome = .ok ((Request.ofList 7 [5]).answered 8) ∧
      StandIns.second.serviced.outcome = .error (.unknownCall 1) ∧
      StandIns.third.serviced.outcome = .error (.unknownCall 5) ∧
      Debugger.start { handlers := StandIns.handlers } = .error (.unknownCall 9) := by
  obtain ⟨-, -, served⟩ := Transcript.decided_by_first_taker StandIns.run
  refine ⟨served.trans ?_, ?_, ?_, ?_, ?_⟩ <;> decide +kernel

end Semihosting
