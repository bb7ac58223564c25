import Semihosting.Proofs.HostFiles

/-!
# Which handler serves a call

The handlers of a debugger are asked in order, so the calls for a service go to the first handler
that takes them. That handler keeps its place: a call can change what the handlers keep, but not
what they serve. So what one handler does over a whole run can be followed in any list of handlers.

## Main definitions

* `Handler.serves` — the services that a handler takes
* `Debugger.server?` — the handler to which the calls for a service go

## Main results

* `Turn.answer?_of_server` — the server of a service answers the calls for it
* `Turn.server?_after` — any call leaves the server of a service in its place
* `Turn.printed_after` — only calls to write print lines
-/

namespace Semihosting

variable {σ ς : Type} [FileHost σ ς]

/-! ### Services of a handler -/

namespace Handler

/-- The handler takes the calls for a service. -/
def serves : Handler ς → Service → Bool
  | streams _, service => service ∈ [.fopen, .freopen, .fread, .feof, .ferror, .fgetc, .fclose,
      .ftell, .fseek, .fwrite]
  | input _, service => service = .readStream
  | saver, service => service = .fileWrite
  | entropy, service => service = .random
  | console _, service => service ∈ [.write, .read, .close]
  | clock, service => service = .timestamp
  | stub number .., service => service.number = number

variable {h : Handler ς} {r : Request} {act : Reaction (Handler ς) σ} {service : Service}

/-- A handler has a reaction exactly to the requests for its services. -/
theorem isSome_react? (hs : r.service? = some service) :
    (h.react? (σ := σ) r).isSome = h.serves service := by
  have number : r.number = service.number := (Service.ofNumber?_eq_some_iff.mp hs).symm
  cases h with
  | streams t => cases service <;> simp [react?, StreamTable.react?, serves, hs]
  | input f => cases service <;> simp [react?, InputFeed.react?, serves, hs]
  | console c => cases service <;> simp [react?, Console.react?, serves, hs]
  | saver | entropy | clock => cases service <;> simp [react?, serves, hs]
  | stub n answer fails fault objection =>
    simp only [react?, serves, number]
    split <;> simp_all

/-- A handler stays of its kind, and serves what it has served. -/
theorem serves_react? (hact : h.react? r = some act) (memory : Memory) (host : Host σ) :
    (act memory host).handler.serves = h.serves := by
  cases h with
  | streams t =>
    obtain ⟨act, -, rfl⟩ := Option.map_eq_some_iff.mp hact
    rfl
  | input f =>
    obtain ⟨act, -, rfl⟩ := Option.map_eq_some_iff.mp hact
    rfl
  | console c =>
    obtain ⟨act, -, rfl⟩ := Option.map_eq_some_iff.mp hact
    rfl
  | saver =>
    obtain ⟨-, ⟨⟩⟩ := Option.ite_none_right_eq_some.mp hact
    rw [saveFile_handler]
  | entropy | clock | stub =>
    obtain ⟨-, ⟨⟩⟩ := Option.ite_none_right_eq_some.mp hact
    rfl

end Handler

/-! ### The first handler that takes a call -/

namespace Debugger

variable {r : Request} {handlers : List (Handler ς)} {service : Service} {handler : Handler ς}

/-- The handler to which the calls for a service go: the first that serves it. -/
def server? (d : Debugger ς) (service : Service) : Option (Handler ς) :=
  d.handlers.find? (·.serves service)

/-- The first handler that has a reaction to a request reacts, and the others stay as they are. -/
theorem react?_eq_some_iff {act : Reaction (List (Handler ς)) σ} :
    react? r handlers = some act ↔
      ∃ before handler behind reaction, handlers = before ++ handler :: behind ∧
        (∀ other ∈ before, other.react? (σ := σ) r = none) ∧
        handler.react? r = some reaction ∧ act = reaction.map (before ++ · :: behind) := by
  induction handlers generalizing act with
  | nil => simp [react?]
  | cons first rest ih =>
    cases taken : first.react? (σ := σ) r with
    | some reaction =>
      constructor
      · intro h
        simp only [react?, taken, Option.some.injEq] at h
        exact ⟨[], first, rest, reaction, rfl, by simp, taken, h.symm⟩
      · rintro ⟨before, handler, behind, reaction', split, declined, reacts, rfl⟩
        cases before with
        | nil =>
          obtain ⟨rfl, rfl⟩ := List.cons.inj split
          rw [taken] at reacts
          obtain rfl := Option.some.inj reacts
          simp only [react?, taken]
          rfl
        | cons other before =>
          obtain ⟨rfl, -⟩ := List.cons.inj split
          rw [declined first (by simp)] at taken
          cases taken
    | none =>
      have step : react? (σ := σ) r (first :: rest) = (react? r rest).map (·.map (first :: ·)) := by
        simp only [react?, taken]
      rw [step, Option.map_eq_some_iff]
      constructor
      · rintro ⟨inner, found, rfl⟩
        obtain ⟨before, handler, behind, reaction, rfl, declined, reacts, rfl⟩ := ih.mp found
        refine ⟨first :: before, handler, behind, reaction, rfl, ?_, reacts, rfl⟩
        rintro other (_ | ⟨_, there⟩)
        · exact taken
        · exact declined other there
      · rintro ⟨before, handler, behind, reaction, split, declined, reacts, rfl⟩
        cases before with
        | nil =>
          obtain ⟨rfl, -⟩ := List.cons.inj split
          rw [taken] at reacts
          cases reacts
        | cons other before =>
          obtain ⟨rfl, rfl⟩ := List.cons.inj split
          refine ⟨_, ih.mpr ⟨before, handler, behind, reaction, rfl, ?_, reacts, rfl⟩, rfl⟩
          exact fun other there => declined other (List.mem_cons_of_mem _ there)

/-- There is no reaction to a request if no handler has one. -/
theorem react?_eq_none_iff :
    react? (σ := σ) r handlers = none ↔ ∀ handler ∈ handlers, handler.react? (σ := σ) r = none := by
  constructor
  · intro none handler there
    induction handlers with
    | nil => cases there
    | cons first rest ih =>
      cases taken : first.react? (σ := σ) r with
      | some act => simp [react?, taken] at none
      | none =>
        simp only [react?, taken, Option.map_eq_none_iff] at none
        rcases List.mem_cons.mp there with rfl | later
        · exact taken
        · exact ih none later
  · intro declined
    rw [Option.eq_none_iff_forall_ne_some]
    intro act found
    obtain ⟨before, handler, behind, act, rfl, -, takes, -⟩ := react?_eq_some_iff.mp found
    rw [declined handler (by simp)] at takes
    cases takes

/-- A handler in the place of another one with the same services. -/
theorem find?_serves_replace {before behind : List (Handler ς)} {handler' : Handler ς}
    (same : handler'.serves = handler.serves) :
    (before ++ handler' :: behind).find? (·.serves service) =
        (before ++ handler :: behind).find? (·.serves service) ∨
      (before ++ handler :: behind).find? (·.serves service) = some handler ∧
        (before ++ handler' :: behind).find? (·.serves service) = some handler' := by
  simp only [List.find?_append, List.find?_cons, same]
  cases before.find? (·.serves service) with
  | some first => exact Or.inl rfl
  | none =>
    cases served : handler.serves service with
    | true => exact Or.inr ⟨rfl, rfl⟩
    | false => exact Or.inl rfl

end Debugger

namespace Turn

variable {x : Turn σ ς} {service : Service} {handler : Handler ς}

/-- What a call leaves behind if a handler has answered it. -/
structure AnsweredBy (x : Turn σ ς) (service : Service) (handler : Handler ς)
    (answer : Answer (Handler ς) σ) : Prop where
  /-- The handler has its place in the debugger still. -/
  server : x.after.debugger.server? service = some answer.handler
  host : x.after.host = answer.host
  memory : x.serviced.machine.memory = answer.memory
  result : x.result? = answer.outcome.toOption

/-- The first handler that takes a call answers it. -/
theorem answer?_of_takes {before behind : List (Handler ς)} {act : Reaction (Handler ς) σ}
    (split : x.debugger.handlers = before ++ handler :: behind)
    (passed : ∀ other ∈ before, other.react? (σ := σ) x.request = none)
    (takes : handler.react? x.request = some act) :
    x.answer? = some ((act x.memory x.host).map (before ++ · :: behind)) := by
  rw [answer?, split, Debugger.react?_eq_some_iff.mpr
    ⟨before, handler, behind, act, rfl, passed, takes, rfl⟩]
  rfl

/-- The server of a service answers the calls for it. -/
theorem answer?_of_server (hs : x.service? = some service)
    (h : x.debugger.server? service = some handler) :
    ∃ act, handler.react? x.request = some act ∧
      x.AnsweredBy service handler (act x.memory x.host) := by
  have hr : x.request.service? = some service := hs
  obtain ⟨served, before, behind, split, declined⟩ := List.find?_eq_some_iff_append.mp h
  -- The handlers in front decline the call, and this one takes it.
  obtain ⟨act, hact⟩ : ∃ act, handler.react? (σ := σ) x.request = some act := by
    rw [← Option.isSome_iff_exists, Handler.isSome_react? hr]
    exact served
  have passed : ∀ other ∈ before, other.react? (σ := σ) x.request = none := by
    intro other there
    rw [← Option.not_isSome_iff_eq_none, Handler.isSome_react? hr]
    simpa using declined other there
  have answer := answer?_of_takes split passed hact
  refine ⟨act, hact, ?_, host_after answer, memory_serviced answer, result?_eq answer⟩
  have same := Handler.serves_react? hact x.memory x.host
  rw [Debugger.server?, handlers_after answer]
  refine List.find?_eq_some_iff_append.mpr
    ⟨by rw [same]; exact served, before, behind, rfl, declined⟩

/-- What the first handler that takes the call makes of it. -/
theorem answer?_cases (x : Turn σ ς) :
    x.answer? = none ∨ ∃ before handler behind act,
      x.debugger.handlers = before ++ handler :: behind ∧ handler.react? x.request = some act ∧
        x.answer? = some ((act x.memory x.host).map (before ++ · :: behind)) := by
  cases taken : Debugger.react? (σ := σ) x.request x.debugger.handlers with
  | none => exact Or.inl (by rw [answer?, taken]; rfl)
  | some act =>
    obtain ⟨before, handler, behind, reaction, split, -, reacts, rfl⟩ :=
      Debugger.react?_eq_some_iff.mp taken
    exact Or.inr ⟨before, handler, behind, reaction, split, reacts, by rw [answer?, taken]; rfl⟩

/-- Any call leaves the server of a service in its place, and changes at most what it keeps. -/
theorem server?_after (h : x.debugger.server? service = some handler) :
    x.after.debugger.server? service = some handler ∨
      ∃ act, handler.react? x.request = some act ∧
        x.after.debugger.server? service = some (act x.memory x.host).handler := by
  rcases x.answer?_cases with none | ⟨before, taker, behind, act, split, hact, answer⟩
  · rw [after_of_none none]
    exact Or.inl h
  · have same := Handler.serves_react? hact x.memory x.host
    have replaced : (before ++ (act x.memory x.host).handler :: behind).find? (·.serves service) =
        (before ++ taker :: behind).find? (·.serves service) ∨ _ :=
      Debugger.find?_serves_replace same
    rw [Debugger.server?, split] at h
    rw [Debugger.server?, handlers_after answer]
    rcases replaced with unmoved | ⟨moved, there⟩
    · exact Or.inl (unmoved.trans h)
    · rw [h] at moved
      obtain rfl := Option.some.inj moved
      exact Or.inr ⟨act, hact, there⟩

end Turn

/-! ### Printing -/

theorem StreamTable.printed_react? {t : StreamTable ς} {r : Request}
    {act : Reaction (StreamTable ς) σ} (hact : t.react? r = some act) (memory : Memory)
    (host : Host σ) : (act memory host).host.printed = host.printed := by
  unfold react? at hact
  split at hact <;> cases hact
  · unfold fopen
    split
    · rfl
    · rfl
    · split <;> rfl
  · unfold freopen
    split
    · rfl
    · rfl
    · split
      · rfl
      · split <;> rfl
  · rw [host_fread]
  · rfl
  · rfl
  · rw [host_fgetc]
  · rfl
  · rw [host_ftell]
  · rw [host_fseek]
  · unfold fwrite
    split
    · rfl
    · rfl
    · rfl
    · split <;> rfl

/-- Only the console prints, and only when it is written to. -/
theorem Handler.printed_react? {h : Handler ς} {r : Request} {act : Reaction (Handler ς) σ}
    (hact : h.react? r = some act) (hs : r.service? ≠ some .write) (memory : Memory)
    (host : Host σ) : (act memory host).host.printed = host.printed := by
  cases h with
  | streams t =>
    obtain ⟨act, reacts, rfl⟩ := Option.map_eq_some_iff.mp hact
    exact StreamTable.printed_react? reacts memory host
  | input f =>
    obtain ⟨act, reacts, rfl⟩ := Option.map_eq_some_iff.mp hact
    unfold InputFeed.react? at reacts
    split at reacts <;> cases reacts
    rw [Reaction.map, Answer.map, InputFeed.host_deliver]
  | console c =>
    obtain ⟨act, reacts, rfl⟩ := Option.map_eq_some_iff.mp hact
    unfold Console.react? at reacts
    split at reacts
    · next written => exact absurd written hs
    · cases reacts
      rfl
    · cases reacts
      rfl
    · cases reacts
  | saver =>
    obtain ⟨-, ⟨⟩⟩ := Option.ite_none_right_eq_some.mp hact
    unfold saveFile
    split
    · rfl
    · rfl
    · dsimp only
      split <;> rfl
  | entropy | clock | stub =>
    obtain ⟨-, ⟨⟩⟩ := Option.ite_none_right_eq_some.mp hact
    rfl

/-- Only calls to write print lines. -/
theorem Turn.printed_after {x : Turn σ ς} (hs : x.service? ≠ some .write) :
    x.after.host.printed = x.host.printed := by
  rcases x.answer?_cases with none | ⟨before, taker, behind, act, split, hact, answer⟩
  · rw [after_of_none none]
  · rw [host_after answer]
    exact Handler.printed_react? hact hs x.memory x.host

end Semihosting
