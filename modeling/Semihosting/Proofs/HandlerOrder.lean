import Semihosting.Proofs.Servers

/-!
# The order of the handlers

Of the six handlers of a debugging session, each takes the services of its own family, and the
families neither overlap nor leave a service out. So every call for a known service is taken by one
handler, whoever is asked first, and a call with any other number is taken by none. A session with
the handlers in another order cannot be told from the usual one.

## Main definitions

* `Stage.Rearranged` — two stages that differ in the order of the handlers at most
* `Turn.TakenBy` — one handler takes a call, and all others decline it
* `Turn.Settled` — a call goes to one handler if its number is known, and to none otherwise
* `Turn.Alike` — two calls with the same outcome for the guest, the debugger and the host

## Main results

* `Debugger.countP_serves_panel` — each service has one handler
* `Turn.takenBy_of_perm`, `Turn.answer?_unknown_of_perm` — who takes a call in any order of the
  handlers
* `Turn.alike_of_rearranged` — a call in any order of the handlers
* `Transcript.order_immaterial` — whole runs in any order of the handlers
-/

namespace Semihosting

open Debugger (panel)

/-- A permutation of a list has the elements on both sides of an element in another order, too. -/
theorem exists_split_of_perm {α : Type} {xs before behind : List α} {a : α}
    (order : xs.Perm (before ++ a :: behind)) :
    ∃ before' behind', xs = before' ++ a :: behind' ∧
      (before' ++ behind').Perm (before ++ behind) := by
  obtain ⟨before', behind', rfl⟩ := List.append_of_mem (order.mem_iff.mpr (by simp : a ∈ _))
  have front : (a :: (before' ++ behind')).Perm (a :: (before ++ behind)) :=
    List.perm_middle.symm.trans (order.trans List.perm_middle)
  exact ⟨before', behind', rfl, front.cons_inv⟩

/-- If one element of a list has a property, there is a place where it stands. -/
theorem exists_split_of_countP {α : Type} {xs : List α} {p : α → Bool} (one : xs.countP p = 1) :
    ∃ before a behind, xs = before ++ a :: behind ∧ p a = true ∧
      ∀ b ∈ before ++ behind, p b = false := by
  obtain ⟨a, there, has⟩ := List.countP_pos_iff.mp (by omega : 0 < xs.countP p)
  obtain ⟨before, behind, rfl⟩ := List.append_of_mem there
  refine ⟨before, a, behind, rfl, has, fun b among => ?_⟩
  have others : (before ++ behind).countP p = 0 := by
    rw [List.perm_middle.countP_eq, List.countP_cons_of_pos has] at one
    omega
  simpa using List.countP_eq_zero.mp others b among

variable {σ ς : Type} [FileHost σ ς]

/-! ### Families of services -/

namespace Debugger

variable {t : StreamTable ς} {f : InputFeed} {c : Console}

/-- Each service has one handler. -/
theorem countP_serves_panel (service : Service) :
    (panel t f c).countP (·.serves service) = 1 := by
  cases service <;> rfl

/-- No handler knows a number that is no service's. -/
theorem react?_of_mem_panel {r : Request} {handler : Handler ς} (unknown : r.service? = none)
    (there : handler ∈ panel t f c) : handler.react? (σ := σ) r = none := by
  simp only [panel, List.mem_cons, List.not_mem_nil, or_false] at there
  rcases there with rfl | rfl | rfl | rfl | rfl | rfl <;>
    simp [Handler.react?, StreamTable.react?, InputFeed.react?, Console.react?, unknown]

/-- Only the console prints something when the session ends, wherever it stands. -/
theorem finish_of_perm {d : Debugger ς} (order : d.handlers.Perm (panel t f c)) :
    d.finish = c.flush := by
  -- The console stands between others, and they are the same others in any order.
  have parted : d.handlers.Perm
      ([.streams t, .input f, .saver, .entropy] ++ .console c :: [.clock]) := order
  obtain ⟨before, behind, split, others⟩ := exists_split_of_perm parted
  -- Every other handler leaves the lines as they are.
  have quiet {handlers : List (Handler ς)} (among : handlers ⊆ before ++ behind)
      (lines : Array String) :
      handlers.foldl (fun lines handler => lines ++ handler.finish) lines = lines := by
    induction handlers generalizing lines with
    | nil => rfl
    | cons handler rest ih =>
      obtain ⟨there, rest_among⟩ := List.cons_subset.mp among
      have nothing : handler.finish = #[] := by
        have kind := others.mem_iff.mp there
        simp only [List.cons_append, List.nil_append, List.mem_cons, List.not_mem_nil,
          or_false] at kind
        rcases kind with rfl | rfl | rfl | rfl | rfl <;> rfl
      rw [List.foldl_cons, nothing, Array.append_empty, ih rest_among]
  rw [finish, split, List.foldl_append, quiet (List.subset_append_left _ _), List.foldl_cons,
    quiet (List.subset_append_right _ _), Array.empty_append]
  rfl

end Debugger

/-! ### One call -/

/-- The same handlers in perhaps another order, the same number of serviced calls and the same
host. -/
structure Stage.Rearranged (s s' : Stage σ ς) : Prop where
  handlers : s'.debugger.handlers.Perm s.debugger.handlers
  served : s'.debugger.served = s.debugger.served
  host : s'.host = s.host

namespace Turn

/-- One handler takes a call and answers it. All others decline it and stay where and as they
are. -/
structure TakenBy (x : Turn σ ς) (before : List (Handler ς)) (handler : Handler ς)
    (behind : List (Handler ς)) (act : Reaction (Handler ς) σ) : Prop where
  split : x.debugger.handlers = before ++ handler :: behind
  takes : handler.react? x.request = some act
  declined : ∀ other ∈ before ++ behind, other.react? (σ := σ) x.request = none
  answer : x.answer? = some ((act x.memory x.host).map (before ++ · :: behind))

/-- Two calls with the same outcome for the guest, the debugger and the host. -/
structure Alike (x x' : Turn σ ς) : Prop extends x.Matches x' where
  served : x'.after.debugger.served = x.after.debugger.served
  /-- The files, the lines that are printed, and what is still to come of random words and times. -/
  host : x'.after.host = x.after.host
  events : x'.serviced.events = x.serviced.events

/-- A call for a known service changes the one handler that serves it, and a call with any other
number changes nothing. -/
structure Settled (x : Turn σ ς) : Prop where
  known : ∀ service, x.service? = some service → ∃ before handler behind act,
    x.TakenBy before handler behind act ∧ handler.serves service = true ∧
      x.after.debugger.handlers = before ++ (act x.memory x.host).handler :: behind
  unknown : x.service? = none →
    (∀ handler ∈ x.debugger.handlers, handler.react? (σ := σ) x.request = none) ∧
      x.serviced.outcome = .error (.unknownCall x.request.number) ∧
      x.serviced.machine = x.machine ∧ x.after = x.toStage

variable {x x' : Turn σ ς} {t : StreamTable ς} {f : InputFeed} {c : Console}

/-- A request that all handlers but one decline goes to that one. -/
theorem TakenBy.of_split {before behind : List (Handler ς)} {handler : Handler ς}
    {act : Reaction (Handler ς) σ} (split : x.debugger.handlers = before ++ handler :: behind)
    (takes : handler.react? x.request = some act)
    (declined : ∀ other ∈ before ++ behind, other.react? (σ := σ) x.request = none) :
    x.TakenBy before handler behind act := by
  refine ⟨split, takes, declined, ?_⟩
  exact answer?_of_takes split (fun other there => declined other (List.mem_append_left _ there))
    takes

/-- In any order of the handlers, a call for a known service is taken by the one that serves it. -/
theorem takenBy_of_perm {service : Service} (order : x.debugger.handlers.Perm (panel t f c))
    (hs : x.service? = some service) :
    ∃ before handler behind act, x.TakenBy before handler behind act ∧
      handler.serves service = true := by
  have hr : x.request.service? = some service := hs
  -- The number of handlers that serve a service does not depend on their order.
  have one : x.debugger.handlers.countP (·.serves service) = 1 := by
    rw [order.countP_eq, Debugger.countP_serves_panel]
  obtain ⟨before, handler, behind, split, served, others⟩ := exists_split_of_countP one
  obtain ⟨act, takes⟩ : ∃ act, handler.react? (σ := σ) x.request = some act := by
    rw [← Option.isSome_iff_exists, Handler.isSome_react? hr]
    exact served
  refine ⟨before, handler, behind, act, .of_split split takes fun other among => ?_, served⟩
  rw [← Option.not_isSome_iff_eq_none, Handler.isSome_react? hr, others other among]
  exact Bool.false_ne_true

/-- In any order of the handlers, a call with an unknown number is taken by none. -/
theorem answer?_unknown_of_perm (order : x.debugger.handlers.Perm (panel t f c))
    (hs : x.service? = none) :
    (∀ handler ∈ x.debugger.handlers, handler.react? (σ := σ) x.request = none) ∧
      x.answer? = none := by
  have declined : ∀ handler ∈ x.debugger.handlers, handler.react? (σ := σ) x.request = none :=
    fun handler there => Debugger.react?_of_mem_panel hs (order.mem_iff.mp there)
  refine ⟨declined, ?_⟩
  rw [answer?, Option.map_eq_none_iff]
  exact Debugger.react?_eq_none_iff.mpr declined

theorem settled_of_perm (order : x.debugger.handlers.Perm (panel t f c)) : x.Settled where
  known service hs := by
    obtain ⟨before, handler, behind, act, taken, served⟩ := takenBy_of_perm order hs
    exact ⟨before, handler, behind, act, taken, served, handlers_after taken.answer⟩
  unknown hs := by
    obtain ⟨declined, none⟩ := answer?_unknown_of_perm order hs
    rw [after_of_none none, serviced_of_none none]
    exact ⟨declined, rfl, rfl, rfl⟩

/-- The handler that takes a call takes it in any order of the handlers, and what it makes of the
call is the same. -/
theorem TakenBy.of_rearranged {before behind : List (Handler ς)} {handler : Handler ς}
    {act : Reaction (Handler ς) σ} (taken : x.TakenBy before handler behind act)
    (same : x.toStage.Rearranged x'.toStage) (machine : x'.machine = x.machine) :
    ∃ before' behind', x'.TakenBy before' handler behind' act ∧
      (before' ++ behind').Perm (before ++ behind) := by
  have request : x'.request = x.request := by rw [Turn.request, machine, Turn.request]
  have order := same.handlers
  rw [taken.split] at order
  obtain ⟨before', behind', split, others⟩ := exists_split_of_perm order
  refine ⟨before', behind', .of_split split ?_ fun other among => ?_, others⟩
  · rw [request]
    exact taken.takes
  · rw [request]
    exact taken.declined other (others.mem_iff.mp among)

/-- What a call leaves behind in another order of the handlers: the same, but for their order. -/
theorem serviced_of_rearranged (panelled : x.debugger.handlers = panel t f c)
    (same : x.toStage.Rearranged x'.toStage) (machine : x'.machine = x.machine) :
    ∃ handlers, handlers.Perm x.serviced.debugger.handlers ∧
      x'.serviced =
        { x.serviced with debugger := { handlers, served := x.serviced.debugger.served } } := by
  have usual : x.debugger.handlers.Perm (panel t f c) := .of_eq panelled
  have order : x'.debugger.handlers.Perm (panel t f c) := same.handlers.trans usual
  have request : x'.request = x.request := by rw [Turn.request, machine, Turn.request]
  cases hs : x.service? with
  | none =>
    have hs' : x'.service? = none := by rw [Turn.service?, request, ← hs, Turn.service?]
    refine ⟨x'.debugger.handlers, ?_, ?_⟩
    · rw [serviced_of_none (answer?_unknown_of_perm usual hs).2]
      exact same.handlers
    · rw [serviced_of_none (answer?_unknown_of_perm usual hs).2,
        serviced_of_none (answer?_unknown_of_perm order hs').2, request, machine, same.host,
        ← same.served]
  | some service =>
    obtain ⟨before, handler, behind, act, taken, -⟩ := takenBy_of_perm usual hs
    obtain ⟨before', behind', taken', others⟩ := taken.of_rearranged same machine
    have answer' := taken'.answer
    rw [memory, machine, same.host] at answer'
    have order' (handler : Handler ς) :
        (before' ++ handler :: behind').Perm (before ++ handler :: behind) :=
      List.perm_middle.trans ((others.cons handler).trans List.perm_middle.symm)
    refine ⟨before' ++ (act x.memory x.host).handler :: behind', ?_, ?_⟩
    · have handlers : x.serviced.debugger.handlers = _ := handlers_after taken.answer
      rw [handlers]
      exact order' _
    -- The handler sees the same memory and the same host, so it answers alike.
    · cases ended : (act x.memory x.host).outcome with
      | ok result =>
        rw [serviced_of_ok taken.answer ended, serviced_of_ok answer' ended, request, machine,
          same.served]
        rfl
      | error fault =>
        rw [serviced_of_error taken.answer ended, serviced_of_error answer' ended, machine,
          same.served]
        rfl

/-- A call in another order of the handlers has the same outcome, and leaves the handlers in another
order again. -/
theorem alike_of_rearranged (panelled : x.debugger.handlers = panel t f c)
    (same : x.toStage.Rearranged x'.toStage) (machine : x'.machine = x.machine) :
    x.Alike x' ∧ x.after.Rearranged x'.after := by
  obtain ⟨handlers, order, serviced⟩ := serviced_of_rearranged panelled same machine
  constructor
  · exact ⟨⟨machine, by rw [serviced], by rw [serviced]⟩, by rw [after, serviced, after],
      by rw [after, serviced, after], by rw [serviced]⟩
  · refine ⟨?_, ?_, ?_⟩ <;> simp only [after, serviced]
    exact order

end Turn

/-! ### Whole runs -/

/-- The order of the handlers does not matter. Let the six handlers be pushed in any order, and let
the guest make the same calls as in a usual session. Then every call has the same outcome, and so
has the end of the session. Each call for a known service is taken by the one handler that serves
it, and a call with any other number changes nothing. -/
theorem Transcript.order_immaterial {content : Option ByteArray} {host : Host σ}
    {handlers : List (Handler ς)} {turns turns' : List (Turn σ ς)} {s s' : Stage σ ς}
    (order : handlers.Perm (panel {} { content } {}))
    (run : Transcript (.initial content host) turns s)
    (run' : Transcript ⟨{ handlers }, host⟩ turns' s')
    (same : turns'.map (·.machine) = turns.map (·.machine)) :
    List.Forall₂ (fun x x' => x.Alike x' ∧ x'.Settled) turns turns' ∧ s.Rearranged s' ∧
      s'.host.print s'.debugger.finish = s.host.print s.debugger.finish := by
  -- Both runs are taken step by step. That the first one keeps the usual order is what tells who
  -- takes a call in the second.
  obtain ⟨alike, ⟨t, f, c, panelled⟩, rearranged⟩ := Transcript.lockstep
    (R := fun s s' => (∃ t f c, s.debugger.handlers = panel t f c) ∧ s.Rearranged s')
    (P := fun x x' => x.Alike x' ∧ x'.Settled)
    (fun {s s'} ⟨⟨t, f, c, panelled⟩, rearranged⟩ machine => by
      obtain ⟨alike, next⟩ : (Turn.mk s machine).Alike (Turn.mk s' machine) ∧ _ :=
        Turn.alike_of_rearranged panelled rearranged rfl
      have settled : (Turn.mk s' machine).Settled :=
        Turn.settled_of_perm (rearranged.handlers.trans (.of_eq panelled))
      exact ⟨⟨alike, settled⟩, Turn.exists_panel_after (x := ⟨s, machine⟩) panelled, next⟩)
    run run' same ⟨⟨_, _, _, rfl⟩, order, rfl, rfl⟩
  refine ⟨alike, rearranged, ?_⟩
  rw [rearranged.host, Debugger.finish_of_perm (.of_eq panelled),
    Debugger.finish_of_perm (rearranged.handlers.trans (.of_eq panelled))]

/-! ### From the last to the first

The handlers are pushed from the last to the first. The guest writes two letters without a newline,
and asks for a service that there is none of. The letters are printed when the session ends. -/

namespace Backwards

def handlers : List (Handler StoredStream) :=
  [.clock, .console {}, .entropy, .saver, .input {}, .streams {}]

/-- The letters `hi`. -/
def memory : Memory := ⟨⟨#[0x68, 0x69]⟩, by decide⟩

def printing : Machine := .asking .write [1, 0, 2] memory

def lost : Machine := ⟨(Request.ofList 58 []).load .blank, memory⟩

/-- Both calls, and the stage behind them. -/
def turns (s : Stage FileStore StoredStream) : List (Turn FileStore StoredStream) :=
  [⟨s, printing⟩, ⟨(Turn.mk s printing).after, lost⟩]

def last (s : Stage FileStore StoredStream) : Stage FileStore StoredStream :=
  (Turn.mk (Turn.mk s printing).after lost).after

theorem run (s : Stage FileStore StoredStream) : Transcript s (turns s) (last s) :=
  (Transcript.nil.snoc printing).snoc lost

theorem order : handlers.Perm (panel {} {} {}) := List.reverse_perm (panel {} {} {})

theorem printed :
    ((last (.initial none { files := {} })).host.print
      (last (.initial none { files := {} })).debugger.finish).printed = #["hi"] := by decide +kernel

end Backwards

/-- The letters are printed in either order of the handlers. -/
theorem Transcript.order_immaterial_backwards :
    ((Backwards.last ⟨{ handlers := Backwards.handlers }, { files := {} }⟩).host.print
      (Backwards.last ⟨{ handlers := Backwards.handlers },
        { files := {} }⟩).debugger.finish).printed = #["hi"] := by
  obtain ⟨-, -, ended⟩ := Transcript.order_immaterial Backwards.order (Backwards.run _)
    (Backwards.run ⟨{ handlers := Backwards.handlers }, { files := {} }⟩) rfl
  rw [ended]
  exact Backwards.printed

end Semihosting
