import Semihosting.Proofs.Faults

/-!
# What a call does to stream handles

The stream table stands at the head of the handlers and sees every call first. A call opens a
stream under a new handle, replaces or closes the stream of the handle that it names, or leaves the
table alone.

## Main definitions

* `Request.handle?` — the handle that a request names
* `Turn.opened?` — the handle that a successful open hands out
* `Turn.Ends` — the call ends the life of a handle
* `Turn.TableStep` — all that a call can do to the stream table
* `Turn.Idle` — the call has a result and does nothing else

## Main results

* `Turn.exists_tableStep` — every call takes such a step
* `Turn.idle_of_dead` — what a call makes of a handle without a stream
-/

namespace Semihosting

/-- The handle of the stream that a request is about. -/
def Request.handle? (r : Request) : Option Word :=
  match r.service? with
  | some .freopen => some (r.arg 2)
  | some .fread | some .fwrite => some (r.arg 3)
  | some .feof | some .ferror | some .fgetc | some .fclose | some .ftell | some .fseek =>
    some (r.arg 0)
  | _ => none

/-- The result of a service on a handle without a stream. -/
def Service.deadResult : Service → Word
  | .fgetc | .fclose | .ftell | .fseek => StreamTable.failure
  | _ => 0

namespace StreamTable

variable {σ ς : Type} [FileHost σ ς] {t : StreamTable ς} {memory : Memory} {host : Host σ}
variable {number address size count handle : Word}

/-- Nothing has changed but perhaps the open file of one handle that has one. -/
def Moves (t : StreamTable ς) (handle : Word) (t' : StreamTable ς) : Prop :=
  t' = t ∨ ∃ file moved, t.get? handle = some file ∧ t' = t.put handle moved

theorem moves_fread :
    t.Moves handle (t.fread number address size count handle memory host).handler := by
  rcases t.transfer_cases size count handle with
    large | ⟨small, idle⟩ | ⟨file, live, pos, small⟩
  · rw [fread_of_large large]
    exact Or.inl rfl
  · rw [fread_of_idle small idle]
    exact Or.inl rfl
  · rw [fread_of_live pos small live]
    refine Or.inr ⟨file, (file.fill host.files (size.toNat * count.toNat)).file, live, ?_⟩
    dsimp only
    -- The stream has moved on whether or not its items could be stored.
    split
    · rfl
    · rfl

theorem moves_fwrite :
    t.Moves handle (t.fwrite number address size count handle memory host).handler := by
  rcases t.transfer_cases size count handle with
    large | ⟨small, idle⟩ | ⟨file, live, pos, small⟩
  · rw [fwrite_of_large large]
    exact Or.inl rfl
  · rw [fwrite_of_idle small idle]
    exact Or.inl rfl
  · rw [fwrite_of_live pos small live]
    split
    · exact Or.inl rfl
    · exact Or.inr ⟨file, _, live, rfl⟩

theorem moves_fgetc : t.Moves handle (t.fgetc handle memory host).handler := by
  cases live : t.get? handle with
  | none =>
    rw [fgetc_of_dead live]
    exact Or.inl rfl
  | some file =>
    rw [fgetc_of_live live]
    exact Or.inr ⟨file, _, live, rfl⟩

theorem moves_ftell : t.Moves handle (t.ftell handle memory host).handler := by
  unfold ftell
  split
  · exact Or.inl rfl
  · next file live => exact Or.inr ⟨file, _, live, rfl⟩

theorem moves_fseek {offset origin : Word} :
    t.Moves handle (t.fseek handle offset origin memory host).handler := by
  unfold fseek
  split
  · exact Or.inl rfl
  · exact Or.inl rfl
  · next file seek live _ =>
    split
    · exact Or.inr ⟨file, _, live, rfl⟩
    · exact Or.inr ⟨file, _, live, rfl⟩

end StreamTable

namespace Turn

variable {σ ς : Type} [FileHost σ ς] {x : Turn σ ς} {t : StreamTable ς}
variable {rest : List (Handler ς)} {service : Service} {w : Word} {fault : Fault}

/-- What the host opens for the path and the mode of the call. -/
def granted? (x : Turn σ ς) : Option (σ × ς) :=
  StreamTable.grant? x.memory x.host (x.arg 0) (x.arg 1)

/-- The handle that a successful open hands out. -/
def opened? (x : Turn σ ς) : Option Word :=
  if x.service? = some .fopen ∧ x.granted?.isSome then x.result? else none

/-- The call ends the life of a handle: it closes the handle, or fails to open another stream under
it. -/
def Ends (x : Turn σ ς) (w : Word) : Prop :=
  (x.service? = some .fclose ∧ x.arg 0 = w) ∨
    (x.service? = some .freopen ∧ x.arg 2 = w ∧ x.result? = some 0)

/-- The call has a result and is counted, but does nothing else. Its only event is the report of
the call itself, so no open has failed either. -/
def Idle (x : Turn σ ς) (result : Word) : Prop :=
  x.serviced =
    { outcome := .ok (x.request.answered result)
      machine := { x.machine with registers := x.machine.registers.set .a0 result }
      debugger := { x.debugger with served := x.debugger.served + 1 }
      host := x.host
      events := [.callServed (x.request.answered result)] }

/-- The call is at fault whatever its handle: its transfer is too large, or its path or mode is no
string. -/
def Misput (x : Turn σ ς) (fault : Fault) : Prop :=
  ((x.service? = some .fread ∨ x.service? = some .fwrite) ∧
      StreamTable.transferLimit < x.length ∧
      fault = .transferTooLarge x.request.number (UInt64.ofNat (min x.length (2 ^ 64 - 1)))) ∨
    (x.service? = some .freopen ∧ x.memory.LacksStrings (x.arg 0) (x.arg 1) fault)

/-! ### Steps of the stream table -/

/-- All that a call can do to the stream table. -/
inductive TableStep (x : Turn σ ς) (t : StreamTable ς) : StreamTable ς → Prop
  /-- Nothing, and no stream is left to end. -/
  | same (unopened : x.opened? = none) (idle : ∀ w, x.Ends w → t.get? w = none) : TableStep x t t
  /-- A stream is opened under the next handle. -/
  | opened {files : σ} {stream : ς} (handed : x.opened? = some t.next)
      (grant : x.granted? = some (files, stream)) :
      TableStep x t { t.put t.next { stream } with next := t.next + 1 }
  /-- The stream of the named handle has moved, or another one has taken its place. -/
  | replaced {w : Word} {file file' : OpenFile ς} (named : x.request.handle? = some w)
      (live : t.get? w = some file) (stays : w ≠ 0 → ¬ x.Ends w) : TableStep x t (t.put w file')
  /-- The stream of the named handle is closed. -/
  | closed {w : Word} {file : OpenFile ς} (live : t.get? w = some file) (ends : x.Ends w) :
      TableStep x t (t.close w)

omit [FileHost σ ς] in
theorem handle?_eq : ∀ {service : Service}, x.service? = some service →
    x.request.handle? =
      match service with
      | .freopen => some (x.arg 2)
      | .fread | .fwrite => some (x.arg 3)
      | .feof | .ferror | .fgetc | .fclose | .ftell | .fseek => some (x.arg 0)
      | _ => none := by
  intro service hs
  have hr : x.request.service? = some service := hs
  simp only [Request.handle?, hr]
  cases service <;> rfl

/-- Only the handle that a call names can end. -/
theorem Ends.named (h : x.Ends w) : x.request.handle? = some w := by
  rcases h with ⟨hs, rfl⟩ | ⟨hs, rfl, -⟩
  · exact handle?_eq hs
  · exact handle?_eq hs

theorem opened?_of_ne (h : x.service? ≠ some .fopen) : x.opened? = none := by
  rw [opened?, if_neg]
  exact fun both => h both.1

/-- A call that names a handle opens no new one. -/
theorem opened?_of_named (h : x.request.handle? = some w) : x.opened? = none := by
  apply opened?_of_ne
  intro hs
  rw [handle?_eq hs] at h
  cases h

theorem not_ends (close : x.service? ≠ some .fclose) (reopen : x.service? ≠ some .freopen) :
    ¬ x.Ends w := by
  rintro (⟨hs, -⟩ | ⟨hs, -, -⟩)
  · exact close hs
  · exact reopen hs

/-- The counter goes up by one for each handle that is handed out. -/
theorem TableStep.next_eq {t' : StreamTable ς} (step : x.TableStep t t') :
    t'.next = t.next + UInt64.ofNat x.opened?.toList.length := by
  cases step with
  | same unopened idle => simp [unopened]
  | opened handed grant => simp [handed]
  | replaced named live stays => simp [opened?_of_named named, StreamTable.put]
  | closed live ends => simp [opened?_of_named ends.named, StreamTable.close]

/-- A handle that is neither named nor handed out keeps its stream. -/
theorem TableStep.get?_eq {t' : StreamTable ς} (step : x.TableStep t t')
    (unnamed : x.request.handle? ≠ some w) (other : x.opened? ≠ some w) :
    t'.get? w = t.get? w := by
  cases step with
  | same unopened idle => rfl
  | @opened files stream handed grant =>
    have found : ({ t.put t.next { stream } with next := t.next + 1 } : StreamTable ς).get? w =
        (t.put t.next { stream }).get? w := rfl
    rw [found, StreamTable.get?_put, if_neg]
    rintro rfl
    exact other handed
  | replaced named live stays =>
    rw [StreamTable.get?_put, if_neg]
    rintro rfl
    exact unnamed named
  | closed live ends =>
    rw [StreamTable.get?_close, if_neg]
    rintro rfl
    exact unnamed ends.named

/-- A handle that is handed out is the one that the counter stands at. -/
theorem TableStep.eq_next {t' : StreamTable ς} (step : x.TableStep t t')
    (handed : x.opened? = some w) : w = t.next := by
  cases step with
  | same unopened idle =>
    rw [unopened] at handed
    cases handed
  | opened next grant => exact Option.some.inj (handed.symm.trans next)
  | replaced named live stays =>
    rw [opened?_of_named named] at handed
    cases handed
  | closed live ends =>
    rw [opened?_of_named ends.named] at handed
    cases handed

/-- A service that neither opens nor closes a stream steps the table. -/
theorem tableStep_of_moves {t' : StreamTable ς} (named : x.request.handle? = some w)
    (close : x.service? ≠ some .fclose) (reopen : x.service? ≠ some .freopen)
    (moves : t.Moves w t') : x.TableStep t t' := by
  rcases moves with rfl | ⟨file, moved, live, rfl⟩
  · exact .same (opened?_of_named named) fun key ends => absurd ends (not_ends close reopen)
  · exact .replaced named live fun _ => not_ends close reopen

section Streams

variable (h : x.debugger.handlers = .streams t :: rest)
include h

theorem tableStep_of_fopen (hs : x.service? = some .fopen) :
    x.TableStep t (t.fopen (x.arg 0) (x.arg 1) x.memory x.host).handler := by
  have result := result?_eq (answer?_of_streams h (react?_of_service hs))
  have idle : ∀ w, x.Ends w → t.get? w = none := by
    intro w ends
    exact absurd ends (not_ends (by simp [hs]) (by simp [hs]))
  rcases StreamTable.grant_cases x.memory x.host (x.arg 0) (x.arg 1) with
    ⟨fault, lacks⟩ | ⟨strings, denied⟩ | ⟨files, stream, grant⟩
  · have none : x.granted? = none := StreamTable.grant?_of_lacks lacks
    rw [StreamTable.fopen_of_lacks lacks]
    exact .same (by simp [opened?, none]) idle
  · have none : x.granted? = none := denied
    obtain ⟨event, answer⟩ := StreamTable.fopen_of_denied (t := t) strings denied
    rw [answer]
    exact .same (by simp [opened?, none]) idle
  · have some : x.granted? = some (files, stream) := grant
    rw [StreamTable.fopen_of_grant grant] at result ⊢
    refine .opened ?_ some
    rw [opened?, if_pos ⟨hs, by rw [some]; rfl⟩, result]
    rfl

theorem tableStep_of_freopen (hs : x.service? = some .freopen) :
    x.TableStep t (t.freopen (x.arg 0) (x.arg 1) (x.arg 2) x.memory x.host).handler := by
  have result := result?_eq (answer?_of_streams h (react?_of_service hs))
  have named : x.request.handle? = some (x.arg 2) := handle?_eq hs
  -- A reopened handle ends exactly if the result is zero.
  have ends : ∀ w, x.Ends w → w = x.arg 2 ∧ x.result? = some 0 := by
    rintro w (⟨close, -⟩ | ⟨-, rfl, zero⟩)
    · rw [hs] at close
      cases close
    · exact ⟨rfl, zero⟩
  rcases x.memory.holdsStrings_or_lacksStrings (x.arg 0) (x.arg 1) with strings | ⟨fault, lacks⟩
  · cases live : t.get? (x.arg 2) with
    | none =>
      rw [StreamTable.freopen_of_dead strings live]
      exact .same (opened?_of_named named) fun w h => (ends w h).1 ▸ live
    | some file =>
      cases grant : x.granted? with
      | none =>
        obtain ⟨event, denied⟩ := StreamTable.freopen_of_denied strings live grant
        rw [denied] at result ⊢
        exact .closed live (Or.inr ⟨hs, rfl, result⟩)
      | some opened =>
        obtain ⟨files, stream⟩ := opened
        rw [StreamTable.freopen_of_grant live grant] at result ⊢
        refine .replaced named live fun nonzero ended => nonzero ?_
        have zero := (ends _ ended).2
        rw [result] at zero
        exact Option.some.inj zero
  · rw [StreamTable.freopen_of_lacks lacks] at result ⊢
    refine .same (opened?_of_named named) fun w ended => ?_
    have zero := (ends w ended).2
    rw [result] at zero
    cases zero

omit h in
theorem tableStep_of_fclose (hs : x.service? = some .fclose) :
    x.TableStep t (t.fclose (x.arg 0) x.memory x.host).handler := by
  -- Closing ends the handle whatever comes of it.
  have ends : x.Ends (x.arg 0) := Or.inl ⟨hs, rfl⟩
  cases live : t.get? (x.arg 0) with
  | none =>
    rw [StreamTable.fclose_of_dead live]
    refine .same (opened?_of_named ends.named) fun w ended => ?_
    rw [Option.some.inj (ended.named.symm.trans ends.named)]
    exact live
  | some file => exact .closed live ends

/-- A stream service steps the table. -/
theorem tableStep_of_streams {act : Reaction (StreamTable ς) σ}
    (hact : t.react? x.request = some act) : x.TableStep t (act x.memory x.host).handler := by
  cases hs : x.service? with
  | none =>
    have hr : x.request.service? = none := hs
    simp [StreamTable.react?, hr] at hact
  | some service =>
    rw [react?_of_service hs] at hact
    cases service with
    | fopen =>
      cases hact
      exact tableStep_of_fopen h hs
    | freopen =>
      cases hact
      exact tableStep_of_freopen h hs
    | fclose =>
      cases hact
      exact tableStep_of_fclose hs
    | fread =>
      cases hact
      exact tableStep_of_moves (handle?_eq hs) (by simp [hs]) (by simp [hs]) StreamTable.moves_fread
    | fwrite =>
      cases hact
      exact tableStep_of_moves (handle?_eq hs) (by simp [hs]) (by simp [hs])
        StreamTable.moves_fwrite
    | fgetc =>
      cases hact
      exact tableStep_of_moves (handle?_eq hs) (by simp [hs]) (by simp [hs]) StreamTable.moves_fgetc
    | ftell =>
      cases hact
      exact tableStep_of_moves (handle?_eq hs) (by simp [hs]) (by simp [hs]) StreamTable.moves_ftell
    | fseek =>
      cases hact
      exact tableStep_of_moves (handle?_eq hs) (by simp [hs]) (by simp [hs]) StreamTable.moves_fseek
    | feof | ferror =>
      cases hact
      exact tableStep_of_moves (handle?_eq hs) (by simp [hs]) (by simp [hs]) (Or.inl rfl)
    | _ => cases hact

/-- Every call steps the table; a service of another handler, or of none, leaves it alone. -/
theorem exists_tableStep :
    ∃ t' rest', x.after.debugger.handlers = .streams t' :: rest' ∧ x.TableStep t t' := by
  cases hact : t.react? (σ := σ) x.request with
  | some act =>
    have handlers := handlers_after (answer?_of_streams h hact)
    exact ⟨_, rest, handlers, tableStep_of_streams h hact⟩
  | none =>
    -- A service of another handler neither opens nor ends a handle.
    have other : ∀ service, x.service? = some service → service ≠ .fopen ∧ service ≠ .freopen ∧
        service ≠ .fclose := by
      intro service hs
      rw [react?_of_service hs] at hact
      refine ⟨?_, ?_, ?_⟩ <;> rintro rfl <;> cases hact
    have same : x.TableStep t t := by
      refine .same (opened?_of_ne fun hs => (other _ hs).1 rfl) fun w ends => ?_
      refine absurd ends (not_ends (fun hs => (other _ hs).2.2 rfl) fun hs => (other _ hs).2.1 rfl)
    have answer := answer?_of_rest h hact
    cases hrest : Debugger.react? (σ := σ) x.request rest with
    | none =>
      rw [hrest] at answer
      exact ⟨t, rest, by rw [after_of_none answer, h], same⟩
    | some act =>
      rw [hrest] at answer
      exact ⟨t, _, handlers_after answer, same⟩

/-! ### Handles without a stream -/

theorem idle_of_streams {act : Reaction (StreamTable ς) σ} {result : Word}
    (hact : t.react? x.request = some act)
    (idle : act x.memory x.host = .idle result t x.memory x.host) : x.Idle result := by
  have answer := answer?_of_streams h hact
  rw [idle] at answer
  rw [Idle, serviced_of_ok answer rfl]
  simp only [Answer.map, Answer.idle, ← h]
  rfl

/-- A call that is not at fault whatever its handle has no effect on a handle without a stream. -/
theorem idle_of_dead (hs : x.service? = some service) (named : x.request.handle? = some w)
    (dead : t.get? w = none) (put : ∀ fault, ¬ x.Misput fault) : x.Idle service.deadResult := by
  -- A transfer that is not at fault is within the limit.
  have small (transfer : x.service? = some .fread ∨ x.service? = some .fwrite) :
      x.length ≤ StreamTable.transferLimit := by
    rw [← Nat.not_lt]
    exact fun large => put _ (Or.inl ⟨transfer, large, rfl⟩)
  rw [handle?_eq hs] at named
  cases service with
  | fread =>
    cases named
    exact idle_of_streams h (react?_of_service hs)
      (StreamTable.fread_of_idle (small (Or.inl hs)) (Or.inr dead))
  | fwrite =>
    cases named
    exact idle_of_streams h (react?_of_service hs)
      (StreamTable.fwrite_of_idle (small (Or.inr hs)) (Or.inr dead))
  | freopen =>
    cases named
    have strings : x.memory.HoldsStrings (x.arg 0) (x.arg 1) := by
      rcases x.memory.holdsStrings_or_lacksStrings (x.arg 0) (x.arg 1) with strings | ⟨fault, lacks⟩
      · exact strings
      · exact absurd (Or.inr ⟨hs, lacks⟩) (put fault)
    exact idle_of_streams h (react?_of_service hs) (StreamTable.freopen_of_dead strings dead)
  | feof | ferror =>
    cases named
    exact idle_of_streams h (react?_of_service hs) (StreamTable.flag_of_dead dead)
  | fgetc =>
    cases named
    exact idle_of_streams h (react?_of_service hs) (StreamTable.fgetc_of_dead dead)
  | fclose =>
    cases named
    exact idle_of_streams h (react?_of_service hs) (StreamTable.fclose_of_dead dead)
  | ftell =>
    cases named
    exact idle_of_streams h (react?_of_service hs) (StreamTable.ftell_of_dead dead)
  | fseek =>
    cases named
    exact idle_of_streams h (react?_of_service hs) (StreamTable.fseek_of_dead dead)
  | _ => cases named

/-- A call that is at fault whatever its handle changes nothing. -/
theorem unchanged_of_misput (misput : x.Misput fault) :
    x.serviced.outcome = .error fault ∧ x.Unchanged := by
  rcases misput with ⟨hs | hs, large, rfl⟩ | ⟨hs, lacks⟩
  · exact unchanged_of_streams h (react?_of_service hs) (StreamTable.fread_of_large large)
  · exact unchanged_of_streams h (react?_of_service hs) (StreamTable.fwrite_of_large large)
  · exact unchanged_of_streams h (react?_of_service hs) (StreamTable.freopen_of_lacks lacks)

end Streams

end Turn

end Semihosting
