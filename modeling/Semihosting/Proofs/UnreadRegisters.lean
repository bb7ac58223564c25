import Semihosting.Proofs.Servers

/-!
# Registers that a call does not read

A service looks at its number and at the arguments it takes. What else is in the registers of a
guest has no influence on the call: not on its result or fault, not on memory, and not on anything
that the debugger or the host keeps. So two guests with different contents in registers that are not
read get the same from a whole session.

## Main definitions

* `Service.consulted` — how many arguments a service looks at
* `Request.Agrees` — two requests for one service with the same arguments, as far as it looks
* `Machine.Agrees` — two machines that differ in registers that are not read
* `Turn.Indistinct` — two calls with the same outcome

## Main results

* `Debugger.react?_congr` — no handler tells such requests apart
* `Stage.unread_registers` — a call does not depend on registers that are not read
* `Transcript.unread_registers_run` — neither does a whole run
-/

namespace Semihosting

/-! ### What a service looks at -/

/-- How many arguments a service looks at. A read takes three, but whatever it is asked for, only
its descriptor counts. -/
def Service.consulted : Service → Nat
  | read => 1
  | service => service.arity

/-- Two requests with one number that have the same arguments, as far as the service looks. -/
structure Request.Agrees (r r' : Request) : Prop where
  number : r'.number = r.number
  arguments {service : Service} : r.service? = some service →
    ∀ i (h : i < 6), i < service.consulted → r'.arguments[i] = r.arguments[i]

namespace Request.Agrees

variable {r r' : Request}

theorem service? (agrees : r.Agrees r') : r'.service? = r.service? := by
  rw [Request.service?, Request.service?, agrees.number]

end Request.Agrees

/-! ### Handlers -/

variable {σ ς : Type} [FileHost σ ς] {r r' : Request}

theorem StreamTable.react?_congr (t : StreamTable ς) (agrees : r.Agrees r') :
    t.react? (σ := σ) r' = t.react? r := by
  have same := agrees.service?
  cases hs : r.service? with
  | none => simp only [react?, same, hs]
  | some service =>
    have argument := agrees.arguments hs
    -- The reaction to a service is made from no other arguments than those it looks at.
    cases service <;>
      simp (disch := decide) only [react?, same, hs, argument, agrees.number]

theorem InputFeed.react?_congr (f : InputFeed) (agrees : r.Agrees r') :
    f.react? (σ := σ) r' = f.react? r := by
  have same := agrees.service?
  cases hs : r.service? with
  | none => simp only [react?, same, hs]
  | some service =>
    have argument := agrees.arguments hs
    cases service <;> simp (disch := decide) only [react?, same, hs, argument]

theorem Console.react?_congr (c : Console) (agrees : r.Agrees r') :
    c.react? (σ := σ) r' = c.react? r := by
  have same := agrees.service?
  cases hs : r.service? with
  | none => simp only [react?, same, hs]
  | some service =>
    have argument := agrees.arguments hs
    cases service <;> simp (disch := decide) only [react?, same, hs, argument]

/-- A handler reacts to both requests alike. -/
theorem Handler.react?_congr (h : Handler ς) (agrees : r.Agrees r') :
    h.react? (σ := σ) r' = h.react? r := by
  have same := agrees.service?
  cases h with
  | streams t => simp only [react?, t.react?_congr agrees]
  | input f => simp only [react?, f.react?_congr agrees]
  | console c => simp only [react?, c.react?_congr agrees]
  | saver =>
    by_cases saving : r.service? = some .fileWrite
    · have argument := agrees.arguments saving
      simp (disch := decide) only [react?, same, saving, argument]
    · simp only [react?, same, saving, if_false]
  | entropy | clock => simp only [react?, same]
  | stub => simp only [react?, agrees.number]

theorem Debugger.react?_congr (handlers : List (Handler ς)) (agrees : r.Agrees r') :
    react? (σ := σ) r' handlers = react? r handlers := by
  induction handlers with
  | nil => rfl
  | cons handler rest ih => simp only [react?, handler.react?_congr agrees, ih]

/-! ### Calls -/

/-- Two machines with the same memory that ask for the same, as far as the service looks. -/
structure Machine.Agrees (machine machine' : Machine) : Prop where
  memory : machine'.memory = machine.memory
  request : (Request.capture machine.registers).Agrees (Request.capture machine'.registers)

namespace Turn

/-- Two calls with the same outcome: the result or the fault, memory, and the stage behind. -/
structure Indistinct (x x' : Turn σ ς) : Prop where
  outcome : x'.serviced.outcome.map Call.result = x.serviced.outcome.map Call.result
  memory : x'.serviced.machine.memory = x.serviced.machine.memory
  /-- The register of the result, after a call that ends well. -/
  left {call : Call} : x.serviced.outcome = .ok call →
    x'.serviced.machine.registers.get .a0 = x.serviced.machine.registers.get .a0
  /-- The debugger with its handlers, and the host. -/
  after : x'.after = x.after

variable {x x' : Turn σ ς}

theorem answer?_congr (stage : x'.toStage = x.toStage) (machines : x.machine.Agrees x'.machine) :
    x'.answer? = x.answer? := by
  have memory : x'.memory = x.memory := machines.memory
  have host : x'.host = x.host := congrArg Stage.host stage
  have handlers : x'.debugger.handlers = x.debugger.handlers :=
    congrArg (·.debugger.handlers) stage
  have reacts : Debugger.react? (σ := σ) x'.request x.debugger.handlers =
      Debugger.react? x.request x.debugger.handlers := Debugger.react?_congr _ machines.request
  rw [answer?, answer?, handlers, reacts, memory, host]

theorem indistinct_of_agrees (stage : x'.toStage = x.toStage)
    (machines : x.machine.Agrees x'.machine) : x.Indistinct x' := by
  have same := answer?_congr stage machines
  have number : x'.request.number = x.request.number := machines.request.number
  have served : x'.debugger.served = x.debugger.served := congrArg (·.debugger.served) stage
  cases found : x.answer? with
  | none =>
    rw [found] at same
    have serviced := serviced_of_none found
    have serviced' := serviced_of_none same
    refine ⟨?_, ?_, ?_, ?_⟩
    · rw [serviced, serviced', number]
    · rw [serviced, serviced', machines.memory]
    · intro call well
      rw [serviced] at well
      cases well
    · rw [after_of_none found, after_of_none same, stage]
  | some answer =>
    rw [found] at same
    cases ended : answer.outcome with
    | ok result =>
      have serviced := serviced_of_ok found ended
      have serviced' := serviced_of_ok same ended
      refine ⟨by rw [serviced, serviced']; rfl, by rw [serviced, serviced'], fun _ => ?_, ?_⟩
      · -- The result has replaced whatever was in its register before.
        rw [serviced, serviced', Registers.get_set, Registers.get_set, if_pos ⟨rfl, by decide⟩,
          if_pos ⟨rfl, by decide⟩]
      · rw [after, after, serviced, serviced', served]
    | error fault =>
      have serviced := serviced_of_error found ended
      have serviced' := serviced_of_error same ended
      refine ⟨by rw [serviced, serviced'], by rw [serviced, serviced'], ?_, ?_⟩
      · intro call well
        rw [serviced] at well
        cases well
      · rw [after, after, serviced, serviced', served]

end Turn

/-- Two machines with the same memory, the same number of a call and the same arguments that the
service takes make calls with the same outcome, whatever else is in their registers. -/
theorem Stage.unread_registers (s : Stage σ ς) {machine machine' : Machine}
    (memory : machine'.memory = machine.memory)
    (number : machine'.registers.get .a7 = machine.registers.get .a7)
    (arguments : ∀ service, Service.ofNumber? (machine.registers.get .a7) = some service →
      ∀ i (h : i < 6), i < service.consulted →
        machine'.registers.get Register.arguments[i] =
          machine.registers.get Register.arguments[i]) :
    (Turn.mk s machine).Indistinct (Turn.mk s machine') := by
  refine Turn.indistinct_of_agrees rfl ⟨memory, number, fun {service} hs i h lt => ?_⟩
  simp only [Request.capture, Vector.getElem_map]
  exact arguments service hs i h lt

/-- Two guests whose calls differ in registers that are not read get the same from a whole session,
and leave it the same. -/
theorem Transcript.unread_registers_run {s₀ s s' : Stage σ ς} {turns turns' : List (Turn σ ς)}
    (run : Transcript s₀ turns s) (run' : Transcript s₀ turns' s')
    (callers : List.Forall₂ (fun x x' => x.machine.Agrees x'.machine) turns turns') :
    List.Forall₂ Turn.Indistinct turns turns' ∧ s' = s := by
  refine side_by_side (R := fun (s s' : Stage σ ς) => s' = s) ?_ run run' callers rfl
  intro s s' same machine machine' machines
  subst same
  have indistinct : (Turn.mk s' machine).Indistinct (Turn.mk s' machine') :=
    Turn.indistinct_of_agrees rfl machines
  exact ⟨indistinct, indistinct.after⟩

/-! ### Saving a file with other registers

A byte is saved to the file `f`. One guest has nothing in the other registers, and the other guest
has something in all argument registers behind the third, and in the stack pointer. -/

namespace Littered

/-- The path `f` and the byte to save. -/
def memory : Memory := ⟨⟨#[0x66, 0, 0x2a]⟩, by decide⟩

def tidy : Machine := .asking .fileWrite [0, 2, 1] memory

def littered : Machine :=
  ⟨((Request.ofList Service.fileWrite.number [0, 2, 1, 5, 6, 7]).load .blank).set .sp 8, memory⟩

def stage : Stage FileStore StoredStream := .initial none { files := {} }

theorem number : littered.registers.get .a7 = tidy.registers.get .a7 := by decide +kernel

theorem first_three : ∀ i : Fin 3, littered.registers.get Register.arguments[i.val] =
    tidy.registers.get Register.arguments[i.val] := by decide +kernel

theorem arguments (service : Service)
    (hs : Service.ofNumber? (tidy.registers.get .a7) = some service) (i : Nat) (h : i < 6)
    (lt : i < service.consulted) :
    littered.registers.get Register.arguments[i] = tidy.registers.get Register.arguments[i] := by
  have saving : Service.ofNumber? (tidy.registers.get .a7) = some .fileWrite := by decide +kernel
  obtain rfl : Service.fileWrite = service := Option.some.inj (saving.symm.trans hs)
  exact first_three ⟨i, lt⟩

end Littered

/-- The file is saved from either machine. -/
theorem Stage.unread_registers_littered :
    (Turn.mk Littered.stage Littered.littered).serviced.outcome.map Call.result = .ok 0 ∧
      (Turn.mk Littered.stage Littered.littered).after.host.files.content "f" = ⟨#[0x2a]⟩ := by
  have indistinct : (Turn.mk Littered.stage Littered.tidy).Indistinct
      (Turn.mk Littered.stage Littered.littered) :=
    Stage.unread_registers Littered.stage rfl Littered.number Littered.arguments
  rw [indistinct.outcome, indistinct.after]
  decide +kernel

end Semihosting
