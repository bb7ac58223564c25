import Mathlib.Logic.Equiv.Basic
import Semihosting.Proofs.StreamServices
import Semihosting.Proofs.UnreadRegisters

/-!
# Sessions under other handles

A handle is a name and nothing else. If two sessions have the same streams under different handles,
and every call names in the second session what it names in the first one by its handle there, then
the two sessions go on side by side: the results are the same, but for the handle that a reopened
stream answers with, and so are memory, the files and everything else. Opening a stream is left out,
since the sessions need not agree in the next handle.

## Main definitions

* `Service.handlePlace?` — where a request for a service has its handle
* `StreamTable.Renamed` — two tables with the same streams, under handles that a permutation takes
  to each other
* `Request.Renamed`, `Machine.Renamed`, `Stage.Renamed` — two requests, machines and stages that
  differ in the names of the handles
* `Turn.Counterpart` — two calls with the same outcome, but for the names of the handles

## Main results

* `StreamTable.renamed_freopen`, …, `StreamTable.renamed_fclose` — each service on streams
* `Turn.counterpart_of_renamed` — one call
* `Transcript.counterparts` — whole runs
-/

namespace Semihosting

/-! ### Requests -/

/-- The place of the handle among the arguments, if the service is about a stream that is open. -/
def Service.handlePlace? : Service → Option Nat
  | freopen => some 2
  | fread | fwrite => some 3
  | feof | ferror | fgetc | fclose | ftell | fseek => some 0
  | _ => none

namespace Request

variable {π : Equiv.Perm Word} {r r' : Request}

/-- Two requests for one service with the same arguments, as far as the service looks, except that
the second request names another handle. -/
structure Renamed (π : Equiv.Perm Word) (r r' : Request) : Prop where
  number : r'.number = r.number
  arguments {service : Service} : r.service? = some service →
    ∀ i (h : i < 6), i < service.consulted → r'.arguments[i] =
      if service.handlePlace? = some i then π r.arguments[i] else r.arguments[i]

/-- The result under the other handles. Only a stream that is reopened answers with a handle. -/
def renameResult (π : Equiv.Perm Word) (r : Request) (result : Word) : Word :=
  if r.service? = some .freopen then π result else result

theorem Renamed.service?_eq (renamed : r.Renamed π r') : r'.service? = r.service? := by
  rw [service?, service?, renamed.number]

section Arguments

variable {service : Service} {i : Nat}

theorem Renamed.kept (renamed : r.Renamed π r') (hs : r.service? = some service) (h : i < 6)
    (read : i < service.consulted) (other : service.handlePlace? ≠ some i) :
    r'.arguments[i] = r.arguments[i] := by
  rw [renamed.arguments hs i h read, if_neg other]

theorem Renamed.moved (renamed : r.Renamed π r') (hs : r.service? = some service) (h : i < 6)
    (read : i < service.consulted) (place : service.handlePlace? = some i) :
    r'.arguments[i] = π r.arguments[i] := by
  rw [renamed.arguments hs i h read, if_pos place]

end Arguments

theorem renameResult_of_freopen (hs : r.service? = some .freopen) : r.renameResult π = π :=
  funext fun _ => if_pos hs

theorem renameResult_of_ne (other : r.service? ≠ some .freopen) : r.renameResult π = id :=
  funext fun _ => if_neg other

/-- Where there is no handle, nothing is renamed. -/
theorem Renamed.agrees (renamed : r.Renamed π r')
    (unnamed : ∀ service, r.service? = some service → service.handlePlace? = none) :
    r.Agrees r' := by
  refine ⟨renamed.number, fun {service} hs i h read => ?_⟩
  exact renamed.kept hs h read (by rw [unnamed service hs]; nofun)

end Request

/-! ### Tables -/

variable {σ ς : Type} [FileHost σ ς] {π : Equiv.Perm Word} {r r' : Request}

/-- The second table has the streams of the first one under other handles. -/
def StreamTable.Renamed (π : Equiv.Perm Word) (t t' : StreamTable ς) : Prop :=
  ∀ w, t'.get? (π w) = t.get? w

/-- The second answer is the first one under other handles; its result is translated. -/
structure Answer.Renamed (π : Equiv.Perm Word) (translate : Word → Word)
    (a a' : Answer (StreamTable ς) σ) : Prop where
  outcome : a'.outcome = a.outcome.map translate
  memory : a'.memory = a.memory
  host : a'.host = a.host
  handler : a.handler.Renamed π a'.handler

/-- The second reaction answers with what the first one answers, under other handles. -/
def Reaction.Renamed (π : Equiv.Perm Word) (translate : Word → Word)
    (act act' : Reaction (StreamTable ς) σ) : Prop :=
  ∀ memory host, (act memory host).Renamed π translate (act' memory host)

namespace StreamTable

variable {t t' : StreamTable ς} {memory : Memory} {host : Host σ} {translate : Word → Word}
variable {number path mode address size count handle offset origin : Word}

theorem Renamed.put (tables : t.Renamed π t') (handle : Word) (file : OpenFile ς) :
    (t.put handle file).Renamed π (t'.put (π handle) file) := by
  intro w
  rw [get?_put, get?_put, tables w]
  simp only [π.injective.eq_iff]

theorem Renamed.close (tables : t.Renamed π t') (handle : Word) :
    (t.close handle).Renamed π (t'.close (π handle)) := by
  intro w
  rw [get?_close, get?_close, tables w]
  simp only [π.injective.eq_iff]

omit [FileHost σ ς] in
theorem Renamed.refusal (tables : t.Renamed π t') (fault : Fault) :
    Answer.Renamed π translate (.refusal fault t memory host) (.refusal fault t' memory host) :=
  ⟨rfl, rfl, rfl, tables⟩

omit [FileHost σ ς] in
theorem Renamed.idle (tables : t.Renamed π t') {result : Word} (same : translate result = result) :
    Answer.Renamed π translate (.idle result t memory host) (.idle result t' memory host) :=
  ⟨congrArg Except.ok same.symm, rfl, rfl, tables⟩

/-! ### Services on streams -/

theorem renamed_freopen (tables : t.Renamed π t') (zero : π 0 = 0) :
    Reaction.Renamed π π (t.freopen (σ := σ) path mode handle)
      (t'.freopen path mode (π handle)) := by
  intro memory host
  rcases grant_cases memory host path mode with
    ⟨fault, lacks⟩ | ⟨strings, denied⟩ | ⟨files, stream, grant⟩
  · rw [freopen_of_lacks lacks, freopen_of_lacks lacks]
    exact tables.refusal fault
  · cases live : t.get? handle with
    | none =>
      rw [freopen_of_dead strings live, freopen_of_dead strings ((tables handle).trans live)]
      exact tables.idle zero
    | some file =>
      obtain ⟨event, answer⟩ := freopen_of_denied strings live denied
      obtain ⟨event', answer'⟩ := freopen_of_denied strings ((tables handle).trans live) denied
      rw [answer, answer']
      exact ⟨congrArg Except.ok zero.symm, rfl, rfl, tables.close handle⟩
  · cases live : t.get? handle with
    | none =>
      have strings := holdsStrings_of_grant grant
      rw [freopen_of_dead strings live, freopen_of_dead strings ((tables handle).trans live)]
      exact tables.idle zero
    | some file =>
      rw [freopen_of_grant live grant, freopen_of_grant ((tables handle).trans live) grant]
      exact ⟨rfl, rfl, rfl, tables.put handle _⟩

theorem renamed_fread (tables : t.Renamed π t') :
    Reaction.Renamed π id (t.fread (σ := σ) number address size count handle)
      (t'.fread number address size count (π handle)) := by
  intro memory host
  rcases t.transfer_cases size count handle with
    large | ⟨small, idle⟩ | ⟨file, live, pos, small⟩
  · rw [fread_of_large large, fread_of_large large]
    exact tables.refusal _
  · rw [fread_of_idle small idle, fread_of_idle small (by rw [tables handle]; exact idle)]
    exact tables.idle rfl
  · rw [fread_of_live pos small live, fread_of_live pos small ((tables handle).trans live)]
    dsimp only
    split
    · exact ⟨rfl, rfl, rfl, tables.put handle _⟩
    · exact ⟨rfl, rfl, rfl, tables.put handle _⟩

theorem renamed_fwrite (tables : t.Renamed π t') :
    Reaction.Renamed π id (t.fwrite (σ := σ) number address size count handle)
      (t'.fwrite number address size count (π handle)) := by
  intro memory host
  rcases t.transfer_cases size count handle with
    large | ⟨small, idle⟩ | ⟨file, live, pos, small⟩
  · rw [fwrite_of_large large, fwrite_of_large large]
    exact tables.refusal _
  · rw [fwrite_of_idle small idle, fwrite_of_idle small (by rw [tables handle]; exact idle)]
    exact tables.idle rfl
  · rw [fwrite_of_live pos small live, fwrite_of_live pos small ((tables handle).trans live)]
    split
    · exact tables.refusal _
    · exact ⟨rfl, rfl, rfl, tables.put handle _⟩

theorem renamed_fgetc (tables : t.Renamed π t') :
    Reaction.Renamed π id (t.fgetc (σ := σ) handle) (t'.fgetc (π handle)) := by
  intro memory host
  cases live : t.get? handle with
  | none =>
    rw [fgetc_of_dead live, fgetc_of_dead ((tables handle).trans live)]
    exact tables.idle rfl
  | some file =>
    rw [fgetc_of_live live, fgetc_of_live ((tables handle).trans live)]
    exact ⟨rfl, rfl, rfl, tables.put handle _⟩

theorem renamed_fclose (tables : t.Renamed π t') :
    Reaction.Renamed π id (t.fclose (σ := σ) handle) (t'.fclose (π handle)) := by
  intro memory host
  simp only [fclose, tables handle]
  exact ⟨rfl, rfl, rfl, tables.close handle⟩

theorem renamed_ftell (tables : t.Renamed π t') :
    Reaction.Renamed π id (t.ftell (σ := σ) handle) (t'.ftell (π handle)) := by
  intro memory host
  cases live : t.get? handle with
  | none =>
    rw [ftell_of_dead live, ftell_of_dead ((tables handle).trans live)]
    exact tables.idle rfl
  | some file =>
    rw [ftell_of_live live, ftell_of_live ((tables handle).trans live)]
    exact ⟨rfl, rfl, rfl, tables.put handle _⟩

theorem renamed_fseek (tables : t.Renamed π t') :
    Reaction.Renamed π id (t.fseek (σ := σ) handle offset origin)
      (t'.fseek (π handle) offset origin) := by
  intro memory host
  cases asked : seek? offset origin with
  | none =>
    rw [fseek_of_misput asked, fseek_of_misput asked]
    exact tables.idle rfl
  | some seek =>
    cases live : t.get? handle with
    | none =>
      rw [fseek_of_dead live, fseek_of_dead ((tables handle).trans live)]
      exact tables.idle rfl
    | some file =>
      rw [fseek_of_live live asked, fseek_of_live ((tables handle).trans live) asked]
      split
      · exact ⟨rfl, rfl, rfl, tables.put handle _⟩
      · exact ⟨rfl, rfl, rfl, tables.put handle _⟩

omit [FileHost σ ς] in
theorem renamed_flag (tables : t.Renamed π t') (of : OpenFile ς → Bool) :
    Reaction.Renamed π id (t.flag (σ := σ) handle of) (t'.flag (π handle) of) := by
  intro memory host
  simp only [flag, tables handle]
  exact ⟨rfl, rfl, rfl, tables⟩

/-- No service on an open stream passes by a stream table. -/
theorem handlePlace?_of_declined {service : Service} (declined : t.react? (σ := σ) r = none)
    (hs : r.service? = some service) : service.handlePlace? = none := by
  unfold react? at declined
  rw [hs] at declined
  cases service <;> first | rfl | cases declined

/-- A table takes what another one takes, and whatever is asked of a stream, the answers are the
same under both names. -/
theorem rel_react? (tables : t.Renamed π t') (zero : π 0 = 0) (renamed : r.Renamed π r')
    (other : r.service? ≠ some .fopen) :
    Option.Rel (Reaction.Renamed π (r.renameResult π)) (t.react? (σ := σ) r) (t'.react? r') := by
  have same := renamed.service?_eq
  cases hs : r.service? with
  | none =>
    simp only [react?, same, hs]
    exact .none
  | some service =>
    simp only [react?, same, hs]
    cases service
    case fopen => exact absurd hs other
    case freopen =>
      simp (disch := decide) only [renamed.kept hs, renamed.moved hs]
      rw [Request.renameResult_of_freopen hs]
      exact .some (renamed_freopen tables zero)
    all_goals rw [Request.renameResult_of_ne (by rw [hs]; decide)]
    case fread =>
      simp (disch := decide) only [renamed.kept hs, renamed.moved hs, renamed.number]
      exact .some (renamed_fread tables)
    case fwrite =>
      simp (disch := decide) only [renamed.kept hs, renamed.moved hs, renamed.number]
      exact .some (renamed_fwrite tables)
    case fseek =>
      simp (disch := decide) only [renamed.kept hs, renamed.moved hs]
      exact .some (renamed_fseek tables)
    -- The other services on streams take nothing but the handle.
    case feof | ferror =>
      simp (disch := decide) only [renamed.moved hs]
      exact .some (renamed_flag tables _)
    case fgetc =>
      simp (disch := decide) only [renamed.moved hs]
      exact .some (renamed_fgetc tables)
    case fclose =>
      simp (disch := decide) only [renamed.moved hs]
      exact .some (renamed_fclose tables)
    case ftell =>
      simp (disch := decide) only [renamed.moved hs]
      exact .some (renamed_ftell tables)
    all_goals exact .none

end StreamTable

/-! ### Calls -/

/-- Two machines with the same memory that ask for the same under other handles, and do not open a
stream. -/
structure Machine.Renamed (π : Equiv.Perm Word) (machine machine' : Machine) : Prop where
  memory : machine'.memory = machine.memory
  request : (Request.capture machine.registers).Renamed π (Request.capture machine'.registers)
  unopened : (Request.capture machine.registers).service? ≠ some .fopen

/-- Two lists of handlers with the same streams under other handles, and the same handlers behind
the streams. -/
def Debugger.Renamed (π : Equiv.Perm Word) (handlers handlers' : List (Handler ς)) : Prop :=
  ∃ t t' rest, handlers = .streams t :: rest ∧ handlers' = .streams t' :: rest ∧ t.Renamed π t'

/-- Two stages with the same streams under other handles, and the same host. -/
structure Stage.Renamed (π : Equiv.Perm Word) (s s' : Stage σ ς) : Prop where
  handlers : Debugger.Renamed π s.debugger.handlers s'.debugger.handlers
  host : s'.host = s.host

omit [FileHost σ ς] in
theorem Stage.Renamed.tables {s s' : Stage σ ς} (renamed : s.Renamed π s') :
    s.debugger.table.Renamed π s'.debugger.table := by
  obtain ⟨t, t', rest, handlers, handlers', tables⟩ := renamed.handlers
  rw [Debugger.table_eq handlers, Debugger.table_eq handlers']
  exact tables

namespace Turn

/-- Two calls with the same outcome, but for the names of the handles: the result or the fault,
memory, and the stage behind. -/
structure Counterpart (π : Equiv.Perm Word) (x x' : Turn σ ς) : Prop where
  outcome : x'.serviced.outcome.map Call.result =
    (x.serviced.outcome.map Call.result).map (x.request.renameResult π)
  memory : x'.serviced.machine.memory = x.serviced.machine.memory
  after : x.after.Renamed π x'.after

variable {x x' : Turn σ ς}

theorem counterpart_of_answers {answer answer' : Answer (List (Handler ς)) σ}
    (found : x.answer? = some answer) (found' : x'.answer? = some answer')
    (outcome : answer'.outcome = answer.outcome.map (x.request.renameResult π))
    (memory : answer'.memory = answer.memory) (host : answer'.host = answer.host)
    (handlers : Debugger.Renamed π answer.handler answer'.handler) : x.Counterpart π x' := by
  refine ⟨?_, ?_, ?_, ?_⟩
  · rw [outcome_map_result found, outcome_map_result found', outcome]
  · rw [memory_serviced found, memory_serviced found', memory]
  · rw [handlers_after found, handlers_after found']
    exact handlers
  · rw [host_after found, host_after found', host]

theorem counterpart_of_none (found : x.answer? = none) (found' : x'.answer? = none)
    (number : x'.request.number = x.request.number) (memory : x'.memory = x.memory)
    (stages : x.toStage.Renamed π x'.toStage) : x.Counterpart π x' := by
  refine ⟨?_, ?_, ?_⟩
  · rw [serviced_of_none found, serviced_of_none found', number]
    rfl
  · rw [serviced_of_none found, serviced_of_none found']
    exact memory
  · rw [after_of_none found, after_of_none found']
    exact stages

/-- A call at a stage with other handles, made under these handles, has the same outcome. -/
theorem counterpart_of_renamed (zero : π 0 = 0) (stages : x.toStage.Renamed π x'.toStage)
    (machines : x.machine.Renamed π x'.machine) : x.Counterpart π x' := by
  obtain ⟨t, t', rest, handlers, handlers', tables⟩ := stages.handlers
  have memory : x'.memory = x.memory := machines.memory
  have host : x'.host = x.host := stages.host
  have related : Option.Rel (Reaction.Renamed π (x.request.renameResult π))
      (t.react? (σ := σ) x.request) (t'.react? x'.request) :=
    StreamTable.rel_react? tables zero machines.request machines.unopened
  generalize reacts : t.react? (σ := σ) x.request = taken at related
  generalize reacts' : t'.react? (σ := σ) x'.request = taken' at related
  cases related with
  | some answers =>
    have found := answer?_of_streams handlers reacts
    have found' := answer?_of_streams handlers' reacts'
    rw [memory, host] at found'
    have alike := answers x.memory x.host
    exact counterpart_of_answers found found' alike.outcome alike.memory alike.host
      ⟨_, _, rest, rfl, rfl, alike.handler⟩
  | none =>
    -- The call is not about a stream, so it is the same call for the handlers behind.
    have unnamed : ∀ service, x.request.service? = some service → service.handlePlace? = none :=
      fun service hs => StreamTable.handlePlace?_of_declined reacts hs
    have agrees : x.request.Agrees x'.request := machines.request.agrees unnamed
    have found := answer?_of_rest handlers reacts
    have found' := answer?_of_rest handlers' reacts'
    rw [Debugger.react?_congr rest agrees, memory, host] at found'
    cases taken : Debugger.react? (σ := σ) x.request rest with
    | none =>
      rw [taken] at found found'
      exact counterpart_of_none found found' agrees.number memory stages
    | some act =>
      rw [taken] at found found'
      have other : x.request.service? ≠ some .freopen := fun hs => nomatch unnamed _ hs
      refine counterpart_of_answers found found' ?_ rfl rfl ⟨t, t', _, rfl, rfl, tables⟩
      rw [Request.renameResult_of_ne other, Except.map_id]
      rfl

end Turn

/-- Two runs under different handles go on side by side. -/
theorem Transcript.counterparts (zero : π 0 = 0) {s₀ s s₀' s' : Stage σ ς}
    {turns turns' : List (Turn σ ς)} (run : Transcript s₀ turns s) (run' : Transcript s₀' turns' s')
    (callers : List.Forall₂ (fun x x' => x.machine.Renamed π x'.machine) turns turns')
    (start : s₀.Renamed π s₀') :
    List.Forall₂ (Turn.Counterpart π) turns turns' ∧ s.Renamed π s' := by
  refine side_by_side ?_ run run' callers start
  intro s s' stages machine machine' machines
  have counterpart : (Turn.mk s machine).Counterpart π (Turn.mk s' machine') :=
    Turn.counterpart_of_renamed zero stages machines
  exact ⟨counterpart, counterpart.after⟩

end Semihosting
