import Mathlib.Data.Set.Card
import Semihosting.File.Store
import Semihosting.Proofs.Handles

/-!
# The life of a handle

A handle lives from the open that hands it out to the call that ends it. The stream table keeps
count of both without looking back: its counter has never been used before, and the handles that
have a stream are the live ones.

## Main definitions

* `handles` — the handles that a run has handed out
* `Live` — a handle that was handed out and has not ended since
* `Accounted` — what holds of the handles after a run

## Main results

* `Transcript.accounted_of_handles_lt` — it holds after every run that does not use the counter up
-/

namespace Semihosting

variable {σ ς : Type} [FileHost σ ς]

/-- The handles that the successful opens of a run have handed out, in order. -/
def handles (turns : List (Turn σ ς)) : List Word := turns.filterMap Turn.opened?

/-- Some open of the run has handed the handle out, and no call since has ended it. -/
def Live (turns : List (Turn σ ς)) (w : Word) : Prop :=
  ∃ before x since, turns = before ++ x :: since ∧ x.opened? = some w ∧ ∀ y ∈ since, ¬ y.Ends w

variable {turns : List (Turn σ ς)} {x : Turn σ ς} {w : Word} {t t' : StreamTable ς}

/-! ### One more call -/

theorem handles_append {xs ys : List (Turn σ ς)} : handles (xs ++ ys) = handles xs ++ handles ys :=
  List.filterMap_append

theorem handles_snoc : handles (turns ++ [x]) = handles turns ++ x.opened?.toList := by
  rw [handles_append]
  cases h : x.opened? <;> simp [handles, h]

theorem not_live_nil : ¬ Live ([] : List (Turn σ ς)) w :=
  not_since_nil

/-- After one more call the live handles are the one it has handed out and those it has not
ended. -/
theorem live_snoc_iff :
    Live (turns ++ [x]) w ↔ x.opened? = some w ∨ Live turns w ∧ ¬ x.Ends w :=
  since_snoc_iff

theorem Live.mem_handles (h : Live turns w) : w ∈ handles turns := by
  obtain ⟨before, x, since, rfl, opened, -⟩ := h
  exact List.mem_filterMap.mpr ⟨x, by simp, opened⟩

/-! ### The invariant -/

/-- The stream table is true to the run: the handles were handed out in order from one on, the
counter is behind them, and the handles with a stream are the live ones. -/
structure Tracks (turns : List (Turn σ ς)) (t : StreamTable ς) : Prop where
  /-- The handles are one, two and so on. -/
  numbered : (handles turns).map UInt64.toNat = List.range' 1 (handles turns).length
  next : t.next.toNat = (handles turns).length + 1
  /-- Streams are kept under the live handles. -/
  live_iff : ∀ w, (t.get? w).isSome ↔ Live turns w

theorem tracks_nil : Tracks ([] : List (Turn σ ς)) ({} : StreamTable ς) where
  numbered := rfl
  next := rfl
  live_iff w := by
    constructor
    · intro h
      cases h
    · intro h
      exact absurd h not_live_nil

theorem Tracks.nonzero (tracks : Tracks turns t) : 0 ∉ handles turns := by
  intro zero
  have mem : (0 : Word).toNat ∈ (handles turns).map UInt64.toNat := List.mem_map_of_mem zero
  rw [tracks.numbered, List.mem_range'] at mem
  obtain ⟨i, -, h⟩ := mem
  rw [UInt64.toNat_zero] at h
  omega

theorem Tracks.nodup (tracks : Tracks turns t) : (handles turns).Nodup := by
  -- The numbers of the handles follow each other, so they are distinct.
  apply List.Nodup.of_map UInt64.toNat
  rw [tracks.numbered]
  exact List.nodup_range'

/-- A handle handed out before is below the counter. -/
theorem Tracks.lt_next (tracks : Tracks turns t) (h : w ∈ handles turns) :
    w.toNat < t.next.toNat := by
  have mem : w.toNat ∈ (handles turns).map UInt64.toNat := List.mem_map_of_mem h
  rw [tracks.numbered, List.mem_range'] at mem
  obtain ⟨i, small, h⟩ := mem
  rw [tracks.next]
  omega

theorem Tracks.next_ne_zero (tracks : Tracks turns t) : t.next ≠ 0 := by
  intro zero
  have next := tracks.next
  rw [zero, UInt64.toNat_zero] at next
  omega

/-- There is no stream under a handle that is still to be handed out. -/
theorem Tracks.get?_of_next_le (tracks : Tracks turns t) (above : t.next.toNat ≤ w.toNat) :
    t.get? w = none := by
  rw [← Option.not_isSome_iff_eq_none, tracks.live_iff]
  intro live
  exact Nat.not_lt.mpr above (tracks.lt_next live.mem_handles)

/-- A call that opens no stream keeps the count; what it ends must have left the table. -/
theorem Tracks.snoc_of_unopened (tracks : Tracks turns t) (unopened : x.opened? = none)
    (next : t'.next = t.next)
    (live_iff : ∀ w, (t'.get? w).isSome ↔ (t.get? w).isSome ∧ ¬ x.Ends w) :
    Tracks (turns ++ [x]) t' := by
  have same : handles (turns ++ [x]) = handles turns := by simp [handles_snoc, unopened]
  refine ⟨?_, ?_, fun w => ?_⟩
  · rw [same]
    exact tracks.numbered
  · rw [same, next]
    exact tracks.next
  · rw [live_iff, tracks.live_iff, live_snoc_iff, unopened]
    simp

/-- A call that opens a stream takes the counter for its handle. -/
theorem Tracks.snoc_of_opened (tracks : Tracks turns t) (handed : x.opened? = some t.next)
    (few : (handles (turns ++ [x])).length < 2 ^ 64 - 1) (next : t'.next = t.next + 1)
    (live_iff : ∀ w, (t'.get? w).isSome ↔ w = t.next ∨ (t.get? w).isSome) :
    Tracks (turns ++ [x]) t' := by
  have more : handles (turns ++ [x]) = handles turns ++ [t.next] := by
    simp [handles_snoc, handed]
  have count := tracks.next
  rw [more, List.length_append, List.length_singleton] at few
  refine ⟨?_, ?_, fun w => ?_⟩
  · rw [more, List.map_append, tracks.numbered, List.length_append, List.length_singleton,
      List.range'_1_concat, List.map_singleton, count, Nat.add_comm 1]
  · rw [more, List.length_append, List.length_singleton, next, UInt64.toNat_add, count,
      UInt64.toNat_one, Nat.mod_eq_of_lt (by omega)]
  · -- A call that opens a stream names no handle, so it ends none.
    have unnamed : ¬ x.Ends w := by
      intro ends
      rw [Turn.opened?_of_named ends.named] at handed
      cases handed
    rw [live_iff, tracks.live_iff, live_snoc_iff, handed]
    simp [unnamed, eq_comm]

/-- Whatever a call does to the table, the table stays true to the run. -/
theorem Tracks.snoc (tracks : Tracks turns t) (step : x.TableStep t t')
    (few : (handles (turns ++ [x])).length < 2 ^ 64 - 1) : Tracks (turns ++ [x]) t' := by
  cases step with
  | same unopened idle =>
    refine tracks.snoc_of_unopened unopened rfl fun key => ?_
    constructor
    · intro live
      refine ⟨live, fun ends => ?_⟩
      rw [idle key ends] at live
      cases live
    · exact fun h => h.1
  | @opened files stream handed grant =>
    refine tracks.snoc_of_opened handed few rfl fun key => ?_
    have found : ({ t.put t.next { stream } with next := t.next + 1 } : StreamTable ς).get? key =
        (t.put t.next { stream }).get? key := rfl
    rw [found, StreamTable.get?_put]
    by_cases same : key = t.next <;> simp [same]
  | @replaced w file file' named live stays =>
    have alive : Live turns w := (tracks.live_iff w).mp (by rw [live]; rfl)
    -- Zero is never handed out, so a call that reopens `w` returns something else.
    have nonzero : w ≠ 0 := fun zero => tracks.nonzero (zero ▸ alive.mem_handles)
    refine tracks.snoc_of_unopened (Turn.opened?_of_named named) rfl fun key => ?_
    rw [StreamTable.get?_put]
    by_cases same : key = w
    · subst same
      simp [live, stays nonzero]
    · have unnamed : ¬ x.Ends key := by
        intro ends
        exact same (Option.some.inj (ends.named.symm.trans named))
      simp [same, unnamed]
  | @closed w file live ends =>
    refine tracks.snoc_of_unopened (Turn.opened?_of_named ends.named) rfl fun key => ?_
    rw [StreamTable.get?_close]
    by_cases same : key = w
    · subst same
      simp [ends]
    · have unnamed : ¬ x.Ends key := by
        intro ended
        exact same (Option.some.inj (ended.named.symm.trans ends.named))
      simp [same, unnamed]

/-- Along a whole run the stream table at the head of the handlers stays true to it. -/
theorem Transcript.exists_tracks {s₀ s : Stage σ ς} {rest : List (Handler ς)}
    (run : Transcript s₀ turns s) (start : s₀.debugger.handlers = .streams {} :: rest)
    (few : (handles turns).length < 2 ^ 64 - 1) :
    ∃ t rest', s.debugger.handlers = .streams t :: rest' ∧ Tracks turns t := by
  induction run with
  | nil => exact ⟨{}, rest, start, tracks_nil⟩
  | @snoc turns s run machine ih =>
    -- A beginning of the run has opened no more than the whole.
    have fewer : (handles turns).length < 2 ^ 64 - 1 := by
      rw [handles_snoc, List.length_append] at few
      omega
    obtain ⟨t, rest', handlers, tracks⟩ := ih fewer
    obtain ⟨t', rest'', handlers', step⟩ := Turn.exists_tableStep (x := ⟨s, machine⟩) handlers
    exact ⟨t', rest'', handlers', tracks.snoc step few⟩

/-! ### Opening and closing -/

/-- The open streams are counted by the live handles. -/
theorem Tracks.openStreams (tracks : Tracks turns t) :
    t.openStreams = {w | Live turns w}.ncard := by
  -- The live handles are the keys of the table, and no key has two streams.
  have keys : {w | Live turns w} = ↑t.streams.keys.toFinset := by
    ext w
    rw [Finset.mem_coe, List.mem_toFinset, ← Table.get?_isSome_iff]
    exact (tracks.live_iff w).symm
  have distinct : t.streams.keys.Nodup := t.streams.nodup
  rw [keys, Set.ncard_coe_finset, List.toFinset_card_of_nodup distinct]
  exact (List.length_map Prod.fst).symm

section Next

variable {rest : List (Handler ς)} {files : σ} {stream : ς}

theorem Turn.result?_of_fopen (h : x.debugger.handlers = .streams t :: rest)
    (hs : x.service? = some .fopen) (grant : x.granted? = some (files, stream)) :
    x.result? = some t.next ∧ x.after.debugger.table.get? t.next = some { stream } := by
  have answer := answer?_of_streams h (react?_of_service hs)
  rw [StreamTable.fopen_of_grant grant] at answer
  refine ⟨result?_eq answer, ?_⟩
  rw [Debugger.table_eq (handlers_after answer)]
  have found : ({ t.put t.next { stream } with next := t.next + 1 } : StreamTable ς).get? t.next =
      (t.put t.next { stream }).get? t.next := rfl
  exact found.trans (by rw [StreamTable.get?_put, if_pos rfl])

theorem Turn.result?_of_freopen {file : OpenFile ς} (h : x.debugger.handlers = .streams t :: rest)
    (hs : x.service? = some .freopen) (live : t.get? (x.arg 2) = some file)
    (grant : x.granted? = some (files, stream)) :
    x.result? = some (x.arg 2) ∧ x.after.debugger.table.get? (x.arg 2) = some { stream } ∧
      x.after.host = { x.host with files } := by
  have answer := answer?_of_streams h (react?_of_service hs)
  rw [StreamTable.freopen_of_grant live grant] at answer
  refine ⟨result?_eq answer, ?_, host_after answer⟩
  rw [Debugger.table_eq (handlers_after answer)]
  exact (StreamTable.get?_put ..).trans (if_pos rfl)

theorem Turn.result?_of_denied {r : Word} (h : x.debugger.handlers = .streams t :: rest)
    (hs : x.service? = some .fopen ∨ x.service? = some .freopen) (denied : x.granted? = none)
    (result : x.result? = some r) : r = 0 := by
  rcases hs with hs | hs
  · have answer := answer?_of_streams h (react?_of_service hs)
    exact StreamTable.eq_zero_of_fopen denied ((result?_eq_some_iff answer).mp result)
  · have answer := answer?_of_streams h (react?_of_service hs)
    exact StreamTable.eq_zero_of_freopen denied ((result?_eq_some_iff answer).mp result)

end Next

/-- The handles of a run are in order at a stage if every value was handed out once, the handles
with a stream are the live ones, and the next call does to each handle what it should. -/
structure Accounted (turns : List (Turn σ ς)) (s : Stage σ ς) : Prop where
  /-- Zero is not handed out. -/
  nonzero : 0 ∉ handles turns
  /-- No value is handed out twice. -/
  nodup : (handles turns).Nodup
  /-- The handles with a stream are the live ones. -/
  live_iff : ∀ w, (s.debugger.table.get? w).isSome ↔ Live turns w
  /-- There are as many open streams as live handles. -/
  openStreams : s.debugger.table.openStreams = {w | Live turns w}.ncard
  /-- An open that the host grants returns a value that is neither zero nor an earlier one. -/
  opened : ∀ {x : Turn σ ς} {files : σ} {stream : ς}, x.toStage = s → x.service? = some .fopen →
    x.granted? = some (files, stream) →
    ∃ w, x.result? = some w ∧ w ≠ 0 ∧ w ∉ handles turns ∧
      x.after.debugger.table.get? w = some { stream }
  /-- A live handle that is reopened returns itself, on the new stream with both flags clear. -/
  reopened : ∀ {x : Turn σ ς} {files : σ} {stream : ς}, x.toStage = s →
    x.service? = some .freopen → Live turns (x.arg 2) → x.granted? = some (files, stream) →
    x.result? = some (x.arg 2) ∧ x.after.debugger.table.get? (x.arg 2) = some { stream } ∧
      x.after.host = { s.host with files }
  /-- An open that the host does not grant returns zero. -/
  denied : ∀ {x : Turn σ ς} {r : Word}, x.toStage = s →
    x.service? = some .fopen ∨ x.service? = some .freopen → x.granted? = none →
    x.result? = some r → r = 0
  /-- A handle that is not live has no effect, unless the call faults whatever its handle. -/
  dead : ∀ {x : Turn σ ς} {service : Service} {w : Word}, x.toStage = s →
    x.service? = some service → x.request.handle? = some w → ¬ Live turns w →
    (∀ fault, ¬ x.Misput fault) → x.Idle service.deadResult
  /-- A call that faults whatever its handle has no effect either. -/
  misput : ∀ {x : Turn σ ς} {fault : Fault}, x.toStage = s → x.Misput fault →
    x.serviced.outcome = .error fault ∧ x.Unchanged

/-! ### A handle that is closed, and one that is reopened -/

namespace Reuse

/-- Eight bytes, with the path `f` and the mode `w` in front. -/
def memory : Memory := ⟨⟨#[0x66, 0, 0x77, 0, 0, 0, 0, 0]⟩, by decide⟩

/-- A file is opened. -/
def opening : Turn FileStore StoredStream :=
  ⟨.initial none { files := {} }, .asking .fopen [0, 2] memory⟩

/-- Its handle is closed. -/
def closing : Turn FileStore StoredStream := ⟨opening.after, .asking .fclose [1] memory⟩

/-- The file is opened again. -/
def second : Turn FileStore StoredStream := ⟨closing.after, .asking .fopen [0, 2] memory⟩

/-- Its new handle is reopened. -/
def reopening : Turn FileStore StoredStream := ⟨second.after, .asking .freopen [0, 2, 2] memory⟩

/-- The whole run. -/
def calls : List (Turn FileStore StoredStream) := [opening, closing, second, reopening]

theorem run : Transcript opening.toStage calls reopening.after :=
  (((Transcript.nil.snoc _).snoc _).snoc _).snoc _

theorem handles_calls : handles calls = [1, 2] := by
  decide +kernel

theorem result_reopening : reopening.result? = some 2 := by
  cbv

theorem openStreams_reopening : reopening.after.debugger.table.openStreams = 1 := by
  cbv

end Reuse

/-- After every run of fewer than `2 ^ 64 - 1` successful opens, whatever the host and whatever
handlers stand behind the streams, the handles are in order. -/
theorem Transcript.accounted_of_handles_lt {s₀ s : Stage σ ς} {rest : List (Handler ς)}
    (run : Transcript s₀ turns s) (start : s₀.debugger.handlers = .streams {} :: rest)
    (few : (handles turns).length < 2 ^ 64 - 1) : Accounted turns s := by
  -- The invariant speaks of the past; the rest is about the next call.
  obtain ⟨t, rest', handlers, tracks⟩ := run.exists_tracks start few
  have table : s.debugger.table = t := Debugger.table_eq handlers
  have at_turn {x : Turn σ ς} (hx : x.toStage = s) :
      x.debugger.handlers = .streams t :: rest' := by
    rw [hx, handlers]
  refine ⟨tracks.nonzero, tracks.nodup, ?_, ?_, ?_, ?_, ?_, ?_, ?_⟩
  · rw [table]
    exact tracks.live_iff
  · rw [table]
    exact tracks.openStreams
  · intro x files stream hx hs grant
    obtain ⟨result, found⟩ := Turn.result?_of_fopen (at_turn hx) hs grant
    refine ⟨t.next, result, fun zero => ?_, fun old => ?_, found⟩
    · have count := tracks.next
      rw [zero, UInt64.toNat_zero] at count
      omega
    · exact Nat.lt_irrefl _ (tracks.lt_next old)
  · intro x files stream hx hs live grant
    obtain ⟨file, found⟩ := Option.isSome_iff_exists.mp ((tracks.live_iff _).mpr live)
    rw [← hx]
    exact Turn.result?_of_freopen (at_turn hx) hs found grant
  · intro x r hx hs denied result
    exact Turn.result?_of_denied (at_turn hx) hs denied result
  · intro x service w hx hs named dead put
    have gone : t.get? w = none := by
      rw [← Option.not_isSome_iff_eq_none, tracks.live_iff]
      exact dead
    exact Turn.idle_of_dead (at_turn hx) hs named gone put
  · intro x fault hx misput
    exact Turn.unchanged_of_misput (at_turn hx) misput

/-- The closed handle is not handed out again, and the reopened one is the only one that has a
stream. -/
theorem accounted_reuse :
    Accounted Reuse.calls Reuse.reopening.after ∧ handles Reuse.calls = [1, 2] ∧
      Reuse.reopening.result? = some 2 ∧ {w | Live Reuse.calls w}.ncard = 1 := by
  have few : (handles Reuse.calls).length < 2 ^ 64 - 1 := by
    rw [Reuse.handles_calls]
    decide
  have accounted := Reuse.run.accounted_of_handles_lt rfl few
  refine ⟨accounted, Reuse.handles_calls, Reuse.result_reopening, ?_⟩
  rw [← accounted.openStreams]
  exact Reuse.openStreams_reopening

end Semihosting
