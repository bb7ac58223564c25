import Mathlib.Data.List.Forall2
import Semihosting.Debugger

/-!
# Transcripts of host calls

Between two host calls a session is a debugger and a host; the guest may do to its registers and
memory what it likes. A call is made at such a stage by a machine in any state, and a transcript
lists the calls of a run in order. All statements about runs are made over transcripts.

## Main definitions

* `Debugger.table`, `Debugger.feed` — the stream table and the input feed of a debugger
* `Stage` — a session between two calls
* `Turn` — a call: a stage, and the machine that makes the call
* `Turn.answer?` — what the handlers make of the call
* `Since` — something has happened, and nothing has put an end to it
* `Transcript` — the calls that lead from one stage to another
* `Turn.Matches` — two calls that a guest cannot tell apart
* `Stage.Reachable` — the stages of a debugging session

## Main results

* `Turn.serviced_of_ok`, `Turn.serviced_of_error`, `Turn.serviced_of_none` — the whole effect of a
  call, from what the handlers make of it
* `Transcript.side_by_side`, `Transcript.lockstep` — what every call keeps between two sessions,
  whole runs keep
* `Stage.Reachable.exists_panel` — a debugging session keeps its six handlers
-/

namespace Semihosting

open Debugger (panel)

namespace Debugger

variable {ς : Type}

/-- The stream table at the head of the handlers. -/
def table (d : Debugger ς) : StreamTable ς :=
  match d.handlers with
  | .streams t :: _ => t
  | _ => {}

/-- The input feed behind the stream table. -/
def feed (d : Debugger ς) : InputFeed :=
  match d.handlers with
  | _ :: .input f :: _ => f
  | _ => {}

theorem table_eq {d : Debugger ς} {t : StreamTable ς} {rest : List (Handler ς)}
    (h : d.handlers = .streams t :: rest) : d.table = t := by
  rw [table, h]

theorem feed_eq {d : Debugger ς} {t : StreamTable ς} {f : InputFeed} {c : Console}
    (h : d.handlers = panel t f c) : d.feed = f := by
  rw [feed, h]
  rfl

end Debugger

/-- The machine of a guest that asks for a service and has nothing else in its registers. -/
def Machine.asking (service : Service) (arguments : List Word) (memory : Memory) : Machine :=
  ⟨(Request.ofList service.number arguments).load .blank, memory⟩

/-- A session between two host calls. -/
structure Stage (σ ς : Type) where
  debugger : Debugger ς
  host : Host σ

/-- A host call, as the debugger finds it. -/
structure Turn (σ ς : Type) extends Stage σ ς where
  /-- The machine of the guest that makes the call. -/
  machine : Machine

namespace Turn

variable {σ ς : Type}

/-- The request in the registers. -/
def request (x : Turn σ ς) : Request := Request.capture x.machine.registers

/-- The service asked for. -/
def service? (x : Turn σ ς) : Option Service := x.request.service?

/-- An argument of the call. -/
abbrev arg (x : Turn σ ς) (i : Nat) (h : decide (i < 6) = true := by exact Eq.refl true) : Word :=
  x.request.arg i h

/-- The memory of the guest that makes the call. -/
abbrev memory (x : Turn σ ς) : Memory := x.machine.memory

variable [FileHost σ ς] {x : Turn σ ς}

/-- What servicing the call leaves behind. -/
def serviced (x : Turn σ ς) : Serviced σ ς := x.debugger.service x.machine x.host

/-- The stage after the call. -/
def after (x : Turn σ ς) : Stage σ ς := ⟨x.serviced.debugger, x.serviced.host⟩

/-- The result of the call, if it did not fault. -/
def result? (x : Turn σ ς) : Option Word := x.serviced.outcome.toOption.map Call.result

/-- What the handlers make of the call, if one of them takes it. -/
def answer? (x : Turn σ ς) : Option (Answer (List (Handler ς)) σ) :=
  (Debugger.react? x.request x.debugger.handlers).map fun act => act x.memory x.host

/-! ### The effect of a call -/

/-- A call that no handler takes faults and changes nothing. -/
theorem serviced_of_none (h : x.answer? = none) :
    x.serviced =
      { outcome := .error (.unknownCall x.request.number), machine := x.machine
        debugger := x.debugger, host := x.host, events := [.callUnknown x.request] } := by
  rw [answer?, Option.map_eq_none_iff] at h
  have hreact : Debugger.react? (σ := σ) (Request.capture x.machine.registers)
    x.debugger.handlers = none := h
  simp only [serviced, Debugger.service, hreact]
  rfl

/-- A call that ends well leaves its result in one register, and is counted. -/
theorem serviced_of_ok {answer : Answer (List (Handler ς)) σ} {result : Word}
    (h : x.answer? = some answer) (ok : answer.outcome = .ok result) :
    x.serviced =
      { outcome := .ok (x.request.answered result)
        machine :=
          { registers := x.machine.registers.set .a0 result, memory := answer.memory }
        debugger := { handlers := answer.handler, served := x.debugger.served + 1 }
        host := answer.host
        events := answer.events ++ [.callServed (x.request.answered result)] } := by
  obtain ⟨act, hact, rfl⟩ := Option.map_eq_some_iff.mp h
  -- The debugger asks the handlers the same question.
  have hreact : Debugger.react? (Request.capture x.machine.registers) x.debugger.handlers =
    some act := hact
  have hok : (act x.machine.memory x.host).outcome = .ok result := ok
  simp only [serviced, Debugger.service, hreact, hok]
  rfl

/-- A call that faults leaves the registers as they are, and is not counted. -/
theorem serviced_of_error {answer : Answer (List (Handler ς)) σ} {fault : Fault}
    (h : x.answer? = some answer) (error : answer.outcome = .error fault) :
    x.serviced =
      { outcome := .error fault
        machine := { registers := x.machine.registers, memory := answer.memory }
        debugger := { handlers := answer.handler, served := x.debugger.served }
        host := answer.host
        events := answer.events } := by
  obtain ⟨act, hact, rfl⟩ := Option.map_eq_some_iff.mp h
  have hreact : Debugger.react? (Request.capture x.machine.registers) x.debugger.handlers =
    some act := hact
  have herror : (act x.machine.memory x.host).outcome = .error fault := error
  simp only [serviced, Debugger.service, hreact, herror]

section Answered

variable {answer : Answer (List (Handler ς)) σ}

theorem handlers_after (h : x.answer? = some answer) :
    x.after.debugger.handlers = answer.handler := by
  -- What the handlers keep is kept on both paths of the debugger.
  cases ho : answer.outcome with
  | ok result => rw [after, serviced_of_ok h ho]
  | error fault => rw [after, serviced_of_error h ho]

theorem host_after (h : x.answer? = some answer) : x.after.host = answer.host := by
  cases ho : answer.outcome with
  | ok result => rw [after, serviced_of_ok h ho]
  | error fault => rw [after, serviced_of_error h ho]

theorem memory_serviced (h : x.answer? = some answer) :
    x.serviced.machine.memory = answer.memory := by
  cases ho : answer.outcome with
  | ok result => rw [serviced_of_ok h ho]
  | error fault => rw [serviced_of_error h ho]

/-- The outcome of a call is that of its answer. -/
theorem outcome_map_result (h : x.answer? = some answer) :
    x.serviced.outcome.map Call.result = answer.outcome := by
  cases ho : answer.outcome with
  | ok result =>
    rw [serviced_of_ok h ho]
    rfl
  | error fault =>
    rw [serviced_of_error h ho]
    rfl

theorem result?_eq (h : x.answer? = some answer) : x.result? = answer.outcome.toOption := by
  cases ho : answer.outcome with
  | ok result =>
    rw [result?, serviced_of_ok h ho]
    rfl
  | error fault =>
    rw [result?, serviced_of_error h ho]
    rfl

theorem result?_eq_some_iff {r : Word} (h : x.answer? = some answer) :
    x.result? = some r ↔ answer.outcome = .ok r := by
  rw [result?_eq h]
  cases answer.outcome <;> simp [Except.toOption]

theorem outcome_eq_error_iff {fault : Fault} (h : x.answer? = some answer) :
    x.serviced.outcome = .error fault ↔ answer.outcome = .error fault := by
  cases ho : answer.outcome with
  | ok result => simp [serviced_of_ok h ho]
  | error fault' => simp [serviced_of_error h ho]

end Answered

/-- A call that no handler takes leads nowhere. -/
theorem after_of_none (h : x.answer? = none) : x.after = x.toStage := by
  rw [after, serviced_of_none h]

/-- A call is counted if it ends well. -/
theorem served_after (x : Turn σ ς) :
    x.after.debugger.served = x.debugger.served + if x.serviced.outcome.isOk then 1 else 0 := by
  cases found : x.answer? with
  | none =>
    rw [after_of_none found, serviced_of_none found]
    rfl
  | some answer =>
    cases ended : answer.outcome with
    | ok result =>
      rw [after, serviced_of_ok found ended]
      rfl
    | error fault =>
      rw [after, serviced_of_error found ended]
      rfl

/-! ### Who answers -/

section Streams

variable {t : StreamTable ς} {rest : List (Handler ς)}

/-- The reaction of a stream table to each service. -/
theorem react?_of_service : ∀ {service : Service}, x.service? = some service →
    t.react? (σ := σ) x.request =
      match service with
      | .fopen => some (t.fopen (x.arg 0) (x.arg 1))
      | .freopen => some (t.freopen (x.arg 0) (x.arg 1) (x.arg 2))
      | .fread => some (t.fread x.request.number (x.arg 0) (x.arg 1) (x.arg 2) (x.arg 3))
      | .feof => some (t.flag (x.arg 0) OpenFile.eof)
      | .ferror => some (t.flag (x.arg 0) OpenFile.error)
      | .fgetc => some (t.fgetc (x.arg 0))
      | .fclose => some (t.fclose (x.arg 0))
      | .ftell => some (t.ftell (x.arg 0))
      | .fseek => some (t.fseek (x.arg 0) (x.arg 1) (x.arg 2))
      | .fwrite => some (t.fwrite x.request.number (x.arg 0) (x.arg 1) (x.arg 2) (x.arg 3))
      | _ => none := by
  intro service hs
  have hr : x.request.service? = some service := hs
  simp only [StreamTable.react?, hr]
  cases service <;> rfl

/-- A stream service is answered by the stream table at the head of the handlers. -/
theorem answer?_of_streams {act : Reaction (StreamTable ς) σ}
    (h : x.debugger.handlers = .streams t :: rest) (hact : t.react? x.request = some act) :
    x.answer? = some ((act x.memory x.host).map (.streams · :: rest)) := by
  simp only [answer?, h, Debugger.react?, Handler.react?, hact, Option.map_some]
  rfl

/-- Every other request passes by the stream table at the head of the handlers. -/
theorem answer?_of_rest (h : x.debugger.handlers = .streams t :: rest)
    (hnone : t.react? (σ := σ) x.request = none) :
    x.answer? = (Debugger.react? x.request rest).map fun act =>
      (act x.memory x.host).map (.streams t :: ·) := by
  simp only [answer?, h, Debugger.react?, Handler.react?, hnone, Option.map_none, Option.map_map]
  rfl

end Streams

section Panel

variable {t : StreamTable ς} {f : InputFeed} {c : Console}

theorem answer?_unknown (h : x.debugger.handlers = panel t f c) (hs : x.service? = none) :
    x.answer? = none := by
  have hr : x.request.service? = none := hs
  simp [answer?, h, panel, Debugger.react?, Handler.react?, StreamTable.react?, InputFeed.react?,
    Console.react?, hr]

theorem answer?_streams {act : Reaction (StreamTable ς) σ}
    (h : x.debugger.handlers = panel t f c) (hact : t.react? x.request = some act) :
    x.answer? = some ((act x.memory x.host).map (panel · f c)) :=
  answer?_of_streams h hact

theorem answer?_readStream (h : x.debugger.handlers = panel t f c)
    (hs : x.service? = some .readStream) :
    x.answer? = some ((f.deliver (x.arg 0) (x.arg 1) x.memory x.host).map (panel t · c)) := by
  have hr : x.request.service? = some .readStream := hs
  simp only [answer?, h, panel, Debugger.react?, Handler.react?, StreamTable.react?,
    InputFeed.react?, hr, Option.map_some, Option.map_none]
  rfl

theorem answer?_fileWrite (h : x.debugger.handlers = panel t f c)
    (hs : x.service? = some .fileWrite) :
    x.answer? = some ((Handler.saveFile (x.arg 0) (x.arg 1) (x.arg 2) x.memory x.host).map
      fun handler => [.streams t, .input f, handler, .entropy, .console c, .clock]) := by
  have hr : x.request.service? = some .fileWrite := hs
  simp only [answer?, h, panel, Debugger.react?, Handler.react?, StreamTable.react?,
    InputFeed.react?, hr, Option.map_some, Option.map_none, if_pos]
  rfl

theorem answer?_console {act : Reaction Console σ} (h : x.debugger.handlers = panel t f c)
    (hact : c.react? x.request = some act) :
    x.answer? = some ((act x.memory x.host).map (panel t f ·)) := by
  have hr : x.request.service? = some .write ∨ x.request.service? = some .read ∨
      x.request.service? = some .close := by
    unfold Console.react? at hact
    split at hact <;> simp_all
  -- No handler in front of the console takes any of its services.
  rcases hr with hr | hr | hr <;>
    simp [answer?, h, panel, Debugger.react?, Handler.react?, StreamTable.react?,
      InputFeed.react?, hr, hact] <;> rfl

theorem answer?_write (h : x.debugger.handlers = panel t f c) (hs : x.service? = some .write) :
    x.answer? = some
      ((c.write (x.arg 0) (x.arg 1) (x.arg 2) x.memory x.host).map (panel t f ·)) := by
  have hr : x.request.service? = some .write := hs
  exact answer?_console h (by simp only [Console.react?, hr])

theorem answer?_read (h : x.debugger.handlers = panel t f c) (hs : x.service? = some .read) :
    x.answer? = some
      { outcome := .ok (if x.arg 0 = 0 then 0 else Console.refused), handler := panel t f c
        memory := x.memory, host := x.host } := by
  have hr : x.request.service? = some .read := hs
  have hact : c.react? (σ := σ) x.request = some fun memory host =>
      { outcome := .ok (if x.arg 0 = 0 then 0 else Console.refused), handler := c, memory
        host } := by
    simp only [Console.react?, hr]
  exact answer?_console h hact

theorem answer?_close (h : x.debugger.handlers = panel t f c) (hs : x.service? = some .close) :
    x.answer? = some
      { outcome := .ok (if x.arg 0 ≤ 2 then 0 else Console.refused), handler := panel t f c
        memory := x.memory, host := x.host } := by
  have hr : x.request.service? = some .close := hs
  have hact : c.react? (σ := σ) x.request = some fun memory host =>
      { outcome := .ok (if x.arg 0 ≤ 2 then 0 else Console.refused), handler := c, memory
        host } := by
    simp only [Console.react?, hr]
  exact answer?_console h hact

theorem answer?_random (h : x.debugger.handlers = panel t f c)
    (hs : x.service? = some .random) :
    x.answer? = some
      { outcome := .ok x.host.draw.1, handler := panel t f c, memory := x.memory
        host := x.host.draw.2 } := by
  have hr : x.request.service? = some .random := hs
  simp only [answer?, h, panel, Debugger.react?, Handler.react?, StreamTable.react?,
    InputFeed.react?, hr, Option.map_none]
  rfl

theorem answer?_timestamp (h : x.debugger.handlers = panel t f c)
    (hs : x.service? = some .timestamp) :
    x.answer? = some
      { outcome := .ok x.host.now.1, handler := panel t f c, memory := x.memory
        host := x.host.now.2 } := by
  have hr : x.request.service? = some .timestamp := hs
  simp only [answer?, h, panel, Debugger.react?, Handler.react?, StreamTable.react?,
    InputFeed.react?, Console.react?, hr, Option.map_none]
  rfl

/-- The six handlers of a debugging session stay, whatever they keep. -/
theorem exists_panel_after (h : x.debugger.handlers = panel t f c) :
    ∃ t' f' c', x.after.debugger.handlers = panel t' f' c' := by
  -- A call changes at most the first handler that takes it, which stays of its kind.
  cases ht : t.react? (σ := σ) x.request with
  | some act => exact ⟨_, f, c, handlers_after (answer?_streams h ht)⟩
  | none =>
    cases hc : c.react? (σ := σ) x.request with
    | some act => exact ⟨t, f, _, handlers_after (answer?_console h hc)⟩
    | none =>
      cases hs : x.service? with
      | none => exact ⟨t, f, c, by rw [after_of_none (answer?_unknown h hs), h]⟩
      | some service =>
        have hr : x.request.service? = some service := hs
        cases service with
        | readStream => exact ⟨t, _, c, handlers_after (answer?_readStream h hs)⟩
        | fileWrite =>
          refine ⟨t, f, c, (handlers_after (answer?_fileWrite h hs)).trans ?_⟩
          rw [Answer.map, Handler.saveFile_handler]
          rfl
        | random => exact ⟨t, f, c, handlers_after (answer?_random h hs)⟩
        | timestamp => exact ⟨t, f, c, handlers_after (answer?_timestamp h hs)⟩
        -- The console and the stream table would have taken all others.
        | close | read | write => simp [Console.react?, hr] at hc
        | fopen | freopen | fread | feof | ferror | fgetc | fclose | ftell | fseek | fwrite =>
          simp [StreamTable.react?, hr] at ht

end Panel

end Turn

/-! ### Histories -/

/-- Something has happened in a history, and nothing has put an end to it since. -/
def Since {α : Type} (history : List α) (happens ends : α → Prop) : Prop :=
  ∃ before a since, history = before ++ a :: since ∧ happens a ∧ ∀ b ∈ since, ¬ ends b

section Since

variable {α : Type} {history : List α} {a : α} {happens ends : α → Prop}

theorem not_since_nil : ¬ Since [] happens ends := by
  rintro ⟨before, a, since, h, -⟩
  simp at h

/-- Either the last event is what has happened, or it has not put an end to it. -/
theorem since_snoc_iff :
    Since (history ++ [a]) happens ends ↔ happens a ∨ Since history happens ends ∧ ¬ ends a := by
  constructor
  · rintro ⟨before, b, since, h, happened, stays⟩
    rcases List.eq_nil_or_concat since with rfl | ⟨since', c, rfl⟩
    · obtain ⟨-, same⟩ := List.append_inj' h rfl
      obtain rfl : a = b := by simpa using same
      exact Or.inl happened
    · have h' : history ++ [a] = (before ++ b :: since') ++ [c] := by simpa using h
      obtain ⟨rfl, same⟩ := List.append_inj' h' rfl
      obtain rfl : a = c := by simpa using same
      refine Or.inr ⟨⟨before, b, since', rfl, happened, fun d hd => stays d (by simp [hd])⟩, ?_⟩
      exact stays a (by simp)
  · rintro (happened | ⟨⟨before, b, since, rfl, happened, stays⟩, stay⟩)
    · exact ⟨history, a, [], rfl, happened, by simp⟩
    · refine ⟨before, b, since ++ [a], by simp, happened, fun c hc => ?_⟩
      rcases List.mem_append.mp hc with hc | hc
      · exact stays c hc
      · rw [List.mem_singleton.mp hc]
        exact stay

end Since

/-! ### Runs -/

variable {σ ς : Type} [FileHost σ ς]

/-- The turns of a run, oldest first, and the stages it leads from and to. -/
inductive Transcript (start : Stage σ ς) : List (Turn σ ς) → Stage σ ς → Prop
  /-- No call was made yet. -/
  | nil : Transcript start [] start
  /-- One more call is made, by a machine in any state. -/
  | snoc {turns : List (Turn σ ς)} {s : Stage σ ς} (run : Transcript start turns s)
      (machine : Machine) :
      Transcript start (turns ++ [⟨s, machine⟩]) (Turn.mk s machine).after

/-- Runs that follow each other are one run, and a run can be parted anywhere. -/
theorem Transcript.append_iff {s₀ s₂ : Stage σ ς} {xs ys : List (Turn σ ς)} :
    Transcript s₀ (xs ++ ys) s₂ ↔ ∃ s₁, Transcript s₀ xs s₁ ∧ Transcript s₁ ys s₂ := by
  constructor
  · intro run
    generalize whole : xs ++ ys = turns at run
    induction run generalizing ys with
    | nil =>
      obtain ⟨rfl, rfl⟩ := List.append_eq_nil_iff.mp whole
      exact ⟨s₀, .nil, .nil⟩
    | @snoc turns s run machine ih =>
      -- The last call is the last one of the second part, unless that is empty.
      rcases List.eq_nil_or_concat ys with rfl | ⟨ys, y, rfl⟩
      · rw [List.append_nil] at whole
        rw [whole]
        exact ⟨_, run.snoc machine, .nil⟩
      · rw [List.concat_eq_append, ← List.append_assoc] at whole
        obtain ⟨same, last⟩ := List.append_inj' whole rfl
        obtain rfl : y = ⟨s, machine⟩ := by simpa using last
        obtain ⟨s₁, first, second⟩ := ih same
        rw [List.concat_eq_append]
        exact ⟨s₁, first, second.snoc machine⟩
  · rintro ⟨s₁, first, second⟩
    induction second with
    | nil =>
      rw [List.append_nil]
      exact first
    | snoc run machine ih =>
      rw [← List.append_assoc]
      exact ih.snoc machine

/-- A run without calls leads nowhere. -/
theorem Transcript.eq_of_nil {s₀ s₁ : Stage σ ς} (run : Transcript s₀ [] s₁) : s₁ = s₀ := by
  generalize none : ([] : List (Turn σ ς)) = turns at run
  cases run with
  | nil => rfl
  | snoc run machine => simp at none

/-- The first call of a run is made at its first stage. -/
theorem Transcript.toStage_eq {s₀ s₁ : Stage σ ς} {x : Turn σ ς} {ys : List (Turn σ ς)}
    (run : Transcript s₀ (x :: ys) s₁) : x.toStage = s₀ := by
  have parted : Transcript s₀ ([x] ++ ys) s₁ := run
  obtain ⟨s, first, -⟩ := Transcript.append_iff.mp parted
  generalize only : [x] = turns at first
  cases first with
  | nil => cases only
  | @snoc turns s before machine =>
    cases turns with
    | nil =>
      obtain rfl : x = ⟨s, machine⟩ := by simpa using only
      exact before.eq_of_nil
    | cons y turns => simp at only

section Lockstep

variable {σ' ς' : Type} [FileHost σ' ς']

/-- The same machine makes two calls, perhaps on different hosts, and what comes of them is the same
for the guest: the result or the fault, the registers and the memory. -/
structure Turn.Matches (x : Turn σ ς) (x' : Turn σ' ς') : Prop where
  machine : x'.machine = x.machine
  outcome : x'.serviced.outcome = x.serviced.outcome
  left : x'.serviced.machine = x.serviced.machine

/-- If every two calls of related machines keep two sessions related, so do two runs in which
related machines make the calls, and what holds of any two calls side by side holds of all of
them. -/
theorem Transcript.side_by_side {R : Stage σ ς → Stage σ' ς' → Prop}
    {M : Machine → Machine → Prop} {P : Turn σ ς → Turn σ' ς' → Prop}
    (step : ∀ {s s'}, R s s' → ∀ {machine machine'}, M machine machine' →
      P ⟨s, machine⟩ ⟨s', machine'⟩ ∧ R (Turn.mk s machine).after (Turn.mk s' machine').after)
    {s₀ s : Stage σ ς} {s₀' s' : Stage σ' ς'} {turns : List (Turn σ ς)}
    {turns' : List (Turn σ' ς')} (run : Transcript s₀ turns s) (run' : Transcript s₀' turns' s')
    (callers : List.Forall₂ (fun x x' => M x.machine x'.machine) turns turns')
    (start : R s₀ s₀') : List.Forall₂ P turns turns' ∧ R s s' := by
  induction run generalizing turns' s' with
  | nil =>
    obtain rfl : turns' = [] := List.forall₂_nil_left_iff.mp callers
    rw [run'.eq_of_nil]
    exact ⟨.nil, start⟩
  | @snoc turns s run machine ih =>
    cases run' with
    | nil => simpa using callers.length_eq
    | @snoc turns' s' run' machine' =>
      -- Seen from behind, the last calls come first.
      have reversed := List.forall₂_reverse_iff.mpr callers
      rw [List.reverse_append, List.reverse_append] at reversed
      obtain ⟨last, before⟩ := List.forall₂_cons.mp reversed
      obtain ⟨matching, related⟩ := ih run' (List.forall₂_reverse_iff.mp before)
      obtain ⟨both, next⟩ := step related last
      exact ⟨List.rel_append matching (.cons both .nil), next⟩

/-- If every call keeps two sessions related, so do two runs in which the same machines make the
calls, and what holds of any two calls side by side holds of all of them. -/
theorem Transcript.lockstep {R : Stage σ ς → Stage σ' ς' → Prop}
    {P : Turn σ ς → Turn σ' ς' → Prop}
    (step : ∀ {s s'}, R s s' → ∀ machine, P ⟨s, machine⟩ ⟨s', machine⟩ ∧
      R (Turn.mk s machine).after (Turn.mk s' machine).after)
    {s₀ s : Stage σ ς} {s₀' s' : Stage σ' ς'} {turns : List (Turn σ ς)}
    {turns' : List (Turn σ' ς')} (run : Transcript s₀ turns s) (run' : Transcript s₀' turns' s')
    (same : turns'.map (·.machine) = turns.map (·.machine)) (start : R s₀ s₀') :
    List.Forall₂ P turns turns' ∧ R s s' := by
  have callers : List.Forall₂ (· = ·) (turns.map (·.machine)) (turns'.map (·.machine)) := by
    rw [List.forall₂_eq_eq_eq]
    exact same.symm
  rw [List.forall₂_map_left_iff, List.forall₂_map_right_iff] at callers
  refine side_by_side (fun related machine machine' one => ?_) run run' callers start
  subst one
  exact step related machine

end Lockstep

namespace Stage

/-- The stage of a debugging session before its first call. -/
def initial (content : Option ByteArray) (host : Host σ) : Stage σ ς :=
  ⟨.standard content, host⟩

/-- A stage that some debugging session comes to. -/
def Reachable (s : Stage σ ς) : Prop :=
  ∃ content host turns, Transcript (initial content host) turns s

/-- A debugging session keeps its six handlers. -/
theorem Reachable.exists_panel {s : Stage σ ς} (reachable : s.Reachable) :
    ∃ t f c, s.debugger.handlers = panel t f c := by
  obtain ⟨content, host, turns, run⟩ := reachable
  induction run with
  | nil => exact ⟨{}, { content }, {}, rfl⟩
  | snoc run machine ih =>
    obtain ⟨t, f, c, h⟩ := ih
    exact Turn.exists_panel_after (x := ⟨_, machine⟩) h

end Stage

end Semihosting
