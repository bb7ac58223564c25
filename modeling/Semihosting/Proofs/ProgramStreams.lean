import Semihosting.Proofs.CopyStored
import Semihosting.Proofs.WholeFiles

/-!
# What a program leaves of the open streams

A program may be started while streams are open, and it does not know of them. Whatever the host
answers, a program that comes to its end has closed the streams that it has opened, and every other
handle has the stream that it had. Only a fault can leave a stream behind.

The handles that an action may touch are its own. The calls of the copy program between its opens
and its closes are about the two handles that it was given, and all other programs have none.

## Main definitions

* `StreamTable.AgreesBut` — two tables differ at some handles at most
* `Guest.KeepsBut` — an action opens no stream and touches its own handles only
* `Guest.Restores` — an action that ends leaves every handle with the stream that it had
* `Guest.Yields` — all results of an action have a property

## Main results

* `Guest.fopen_cases`, `Guest.table_of_fclose` — what opening and closing do to the table
* `Program.copyChunks_keeps` — the copying itself touches the two handles that it was given
* `Program.copyFile_restores` — every way out of the copy program closes what it has opened
* `Program.run_keeps_streams` — so every program leaves the streams of a session as they were
-/

namespace Semihosting

/-! ### Tables that differ at some handles -/

namespace StreamTable

variable {ς : Type} {t t' t'' : StreamTable ς} {own : List Word}

/-- Two tables have the same counter, and the same streams under all handles but some. -/
structure AgreesBut (own : List Word) (t t' : StreamTable ς) : Prop where
  next : t'.next = t.next
  get?_eq : ∀ w ∉ own, t'.get? w = t.get? w

theorem AgreesBut.refl (own : List Word) (t : StreamTable ς) : t.AgreesBut own t :=
  ⟨rfl, fun _ _ => rfl⟩

theorem AgreesBut.trans (first : t.AgreesBut own t') (second : t'.AgreesBut own t'') :
    t.AgreesBut own t'' :=
  ⟨second.next.trans first.next,
    fun w other => (second.get?_eq w other).trans (first.get?_eq w other)⟩

end StreamTable

/-- A call that opens nothing and names no handle but some leaves all others alone. -/
theorem Turn.TableStep.agreesBut {σ ς : Type} [FileHost σ ς] {x : Turn σ ς} {t t' : StreamTable ς}
    {own : List Word} (step : x.TableStep t t') (unopened : x.opened? = none)
    (named : ∀ w, x.request.handle? = some w → w ∈ own) : t.AgreesBut own t' where
  next := by
    rw [step.next_eq, unopened]
    exact UInt64.add_zero _
  get?_eq w other := step.get?_eq (fun is => other (named w is)) (by rw [unopened]; nofun)

namespace Guest

variable {σ ς : Type} {α β : Type}

/-! ### Actions with a result -/

section Results

variable {act : Action σ ς α} {next : α → Action σ ς β} {g g' g'' : Guest σ ς} {b : β}

/-- If one action after another has a result, so has the first one. -/
theorem exists_of_bind (h : (act >>= next : Action σ ς β) g = (.ok b, g'')) :
    ∃ a g', act g = (.ok a, g') ∧ next a g' = (.ok b, g'') := by
  rcases first : act g with ⟨fault | a, g'⟩
  · rw [bind_of_error first] at h
    cases h
  · rw [bind_of_ok first] at h
    exact ⟨a, g', rfl, h⟩

/-- So has the first one if its result is of no interest. -/
theorem exists_of_discard {rest : PUnit → Action σ ς β}
    (h : (Functor.discard act >>= rest : Action σ ς β) g = (.ok b, g'')) :
    ∃ a g', act g = (.ok a, g') ∧ rest PUnit.unit g' = (.ok b, g'') := by
  obtain ⟨_, g', run, run'⟩ := exists_of_bind h
  have whole : (act >>= fun _ => (pure PUnit.unit : Action σ ς PUnit)) g = _ := run
  obtain ⟨a, g₁, first, last⟩ := exists_of_bind whole
  cases last
  exact ⟨a, g', first, run'⟩

/-- All results of an action have a property. -/
def Yields (act : Action σ ς α) (P : α → Prop) : Prop := ∀ g a g', act g = (.ok a, g') → P a

variable {P : α → Prop} {Q : β → Prop}

theorem Yields.pure {a : α} (h : P a) : Yields (Pure.pure a : Action σ ς α) P := by
  intro g b g' run
  cases run
  exact h

/-- The result of the second action, which may depend on that of the first, is that of both. -/
theorem Yields.bind (first : Yields act P) (second : ∀ a, P a → Yields (next a) Q) :
    Yields (act >>= next : Action σ ς β) Q := by
  intro g b g'' run
  obtain ⟨a, g', run, run'⟩ := exists_of_bind run
  exact second a (first g a g' run) g' b g'' run'

/-- Nothing need be known of the first result. -/
theorem Yields.after (second : ∀ a, Yields (next a) Q) :
    Yields (act >>= next : Action σ ς β) Q :=
  .bind (P := fun _ => True) (fun _ _ _ _ => trivial) fun a _ => second a

end Results

/-! ### Actions that keep to their own handles -/

/-- Whatever comes of the action, it opens no stream and touches no handle but its own. -/
def KeepsBut (own : List Word) (act : Action σ ς α) : Prop :=
  ∀ (g : Guest σ ς) (t : StreamTable ς) (rest : List (Handler ς)),
    g.debugger.handlers = .streams t :: rest →
      ∃ t' rest', (act g).2.debugger.handlers = .streams t' :: rest' ∧ t.AgreesBut own t'

namespace KeepsBut

variable {own : List Word} {act : Action σ ς α} {next : α → Action σ ς β}

theorem of_run {g g' : Guest σ ς} {t : StreamTable ς} {rest : List (Handler ς)}
    {outcome : Except Fault α} (keeps : KeepsBut own act)
    (h : g.debugger.handlers = .streams t :: rest) (run : act g = (outcome, g')) :
    ∃ t' rest', g'.debugger.handlers = .streams t' :: rest' ∧ t.AgreesBut own t' := by
  have after := keeps g t rest h
  rw [run] at after
  exact after

/-- An action that makes no call does not touch the streams. -/
theorem of_silent (silent : ∀ g, (act g).2.debugger = g.debugger) : KeepsBut own act := by
  intro g t rest h
  exact ⟨t, rest, by rw [silent, h], .refl own t⟩

theorem pure (a : α) : KeepsBut own (Pure.pure a : Action σ ς α) :=
  of_silent fun _ => rfl

theorem bind (first : KeepsBut own act) (second : ∀ a, KeepsBut own (next a)) :
    KeepsBut own (act >>= next : Action σ ς β) := by
  intro g t rest h
  rcases run : act g with ⟨fault | a, g'⟩
  · rw [bind_of_error run]
    exact first.of_run h run
  · rw [bind_of_ok run]
    obtain ⟨t', rest', h', agrees⟩ := first.of_run h run
    obtain ⟨t'', rest'', h'', agrees'⟩ := second a g' t' rest' h'
    exact ⟨t'', rest'', h'', agrees.trans agrees'⟩

theorem discard (keeps : KeepsBut own act) : KeepsBut own (Functor.discard act) :=
  keeps.bind fun _ => pure _

theorem lending (keeps : KeepsBut own act) : KeepsBut own (lending act) := by
  intro g t rest h
  exact keeps g t rest h

end KeepsBut

variable [FileHost σ ς] {g : Guest σ ς} {service : Service} {arguments : List Word}
variable {t : StreamTable ς} {rest : List (Handler ς)} {own : List Word}

/-- A call that opens nothing touches the stream of the handle that it names, at most. -/
theorem KeepsBut.call (other : service ≠ .fopen)
    (named : ∀ w, (Request.ofList service.number arguments).handle? = some w → w ∈ own) :
    KeepsBut own (call service arguments : Action σ ς Word) := by
  intro g t rest h
  have stage := stage_request g (.ofList service.number arguments)
  obtain ⟨t', rest', h', step⟩ :=
    Turn.exists_tableStep (x := g.turn (.ofList service.number arguments)) h
  refine ⟨t', rest', ?_, step.agreesBut (Turn.opened?_of_ne ?_) (by rw [request_turn]; exact named)⟩
  · rw [← h']
    exact congrArg (fun s => s.debugger.handlers) stage
  · rw [service?_turn]
    exact fun same => other (Option.some.inj same)

/-! ### Memory -/

section Memory

omit [FileHost σ ς]

/-- What an action is after it has looked at the guest. -/
theorem get_bind (next : Guest σ ς → Action σ ς α) (g : Guest σ ς) :
    ((get : Action σ ς (Guest σ ς)) >>= next) g = next g g := rfl

theorem debugger_allocate (length align : Word) (g : Guest σ ς) :
    (allocate length align g).2.debugger = g.debugger := by
  rw [allocate, get_bind]
  split <;> rfl

theorem debugger_store (address : Word) (data : ByteArray) (g : Guest σ ς) :
    (store address data g).2.debugger = g.debugger := by
  rw [store, get_bind]
  cases g.machine.memory.store address data <;> rfl

theorem debugger_loadWord (address : Word) (g : Guest σ ς) :
    (loadWord address g).2.debugger = g.debugger := by
  rw [loadWord, get_bind]
  cases g.machine.memory.loadWord address <;> rfl

end Memory

omit [FileHost σ ς] in
theorem KeepsBut.allocate (length align : Word) :
    KeepsBut own (allocate (σ := σ) (ς := ς) length align) :=
  .of_silent (debugger_allocate length align)

omit [FileHost σ ς] in
theorem KeepsBut.store (address : Word) (data : ByteArray) :
    KeepsBut own (store (σ := σ) (ς := ς) address data) :=
  .of_silent (debugger_store address data)

omit [FileHost σ ς] in
theorem KeepsBut.allocateBytes (data : ByteArray) :
    KeepsBut own (allocateBytes (σ := σ) (ς := ς) data) :=
  (KeepsBut.allocate _ _).bind fun _ => (KeepsBut.store _ _).bind fun _ => .pure _

omit [FileHost σ ς] in
theorem KeepsBut.allocateString (text : String) :
    KeepsBut own (allocateString (σ := σ) (ς := ς) text) :=
  (KeepsBut.allocate _ _).bind fun _ => (KeepsBut.store _ _).bind fun _ =>
    (KeepsBut.store _ _).bind fun _ => .pure _

/-- To print is to write to the console. -/
theorem KeepsBut.print (text : String) : KeepsBut own (print text : Action σ ς Word) :=
  ((KeepsBut.allocateBytes _).bind fun _ =>
    .call (by decide) (by rw [Request.handle?_ofList]; simp)).lending

end Guest

namespace Program

open Guest

variable {σ ς : Type} [FileHost σ ς] {own : List Word}

/-! ### Programs without streams -/

theorem runFileWrite_keeps : KeepsBut own (runFileWrite : Action σ ς Nat) :=
  (KeepsBut.allocateBytes _).bind fun _ => (KeepsBut.allocateString _).bind fun _ =>
    (KeepsBut.call (by decide) (by rw [Request.handle?_ofList]; simp)).discard.bind fun _ => .pure _

theorem runPrint_keeps {service : Service} (plain : service = .timestamp ∨ service = .random) :
    KeepsBut own (runPrint service : Action σ ς Nat) := by
  refine .bind (.call ?_ ?_) fun word => (KeepsBut.print _).discard.bind fun _ => .pure _
  · rcases plain with rfl | rfl <;> decide
  · rw [Request.handle?_ofList]
    rcases plain with rfl | rfl <;> simp

theorem catChunks_keeps (buffer length : Word) (rounds : Nat) :
    KeepsBut own (catChunks buffer length rounds : Action σ ς Nat) := by
  induction rounds with
  | zero => exact .pure 0
  | succ rounds ih =>
    refine (KeepsBut.store _ _).bind fun _ => .bind (.call (by decide) ?_) fun answer => ?_
    · rw [Request.handle?_ofList]
      simp
    · split
      · refine .bind (.of_silent (debugger_loadWord length)) fun count => ?_
        refine .bind (.discard (.call (by decide) ?_)) fun _ => ih
        rw [Request.handle?_ofList]
        simp
      · split
        · exact .pure 0
        · exact (KeepsBut.print _).discard.bind fun _ => .pure _

theorem copyChunks_keeps (source target : String) (buffer input output : Word) (rounds : Nat) :
    KeepsBut [input, output]
      (copyChunks source target buffer input output rounds : Action σ ς Nat) := by
  induction rounds with
  | zero => exact .pure 0
  | succ rounds ih =>
    refine .bind (.call (by decide) ?_) fun count => ?_
    · rw [Request.handle?_ofList]
      simp
    · split
      · refine .bind (.call (by decide) (by rw [Request.handle?_ofList]; simp)) fun flag => ?_
        split
        · exact (KeepsBut.print _).discard.bind fun _ => .pure 1
        · exact .pure 0
      · refine .bind (.call (by decide) (by rw [Request.handle?_ofList]; simp)) fun taken => ?_
        split
        · exact (KeepsBut.print _).discard.bind fun _ => .pure 1
        · exact ih

end Program

/-! ### Opening and closing -/

namespace StreamTable

theorem AgreesBut.unused {ς : Type} {t t' : StreamTable ς} (agrees : t.AgreesBut [] t')
    (unused : t.Unused) : t'.Unused where
  nonzero := by rw [agrees.next]; exact unused.nonzero
  nonzero' := by rw [agrees.next]; exact unused.nonzero'
  free := by rw [agrees.next, agrees.get?_eq _ List.not_mem_nil]; exact unused.free
  free' := by rw [agrees.next, agrees.get?_eq _ List.not_mem_nil]; exact unused.free'

/-- A stream that was added and closed has left no trace. -/
theorem Unused.get?_closed {ς : Type} {t : StreamTable ς} (unused : t.Unused) (file : OpenFile ς)
    (w : Word) : ((t.add file).close t.next).get? w = t.get? w := by
  rw [get?_close, get?_add]
  by_cases same : w = t.next
  · rw [if_pos same, same, unused.free]
  · rw [if_neg same, if_neg same]

/-- Nor have two streams that were added, used and closed. -/
theorem Unused.get?_closed_both {ς : Type} {t t' : StreamTable ς} {file file' : OpenFile ς}
    (unused : t.Unused)
    (agrees : ((t.add file).add file').AgreesBut [t.next, t.next + 1] t') (w : Word) :
    ((t'.close t.next).close (t.next + 1)).get? w = t.get? w := by
  rw [get?_close, get?_close]
  by_cases second : w = t.next + 1
  · rw [if_pos second, second, unused.free']
  · by_cases first : w = t.next
    · rw [if_neg second, if_pos first, first, unused.free]
    · rw [if_neg second, if_neg first, agrees.get?_eq w (by simp [first, second]), get?_add,
        next_add, if_neg second, get?_add, if_neg first]

end StreamTable

namespace Guest

variable {σ ς : Type} {α β : Type} [FileHost σ ς] {g g' : Guest σ ς} {t : StreamTable ς}
variable {rest : List (Handler ς)} {service : Service} {arguments : List Word}
variable {path mode w : Word} {outcome : Except Fault Word}

/-- An open that does not fault returns zero and changes no stream, or it returns the next handle,
which has a stream then. -/
theorem fopen_cases (h : g.debugger.handlers = .streams t :: rest)
    (run : call .fopen [path, mode] g = (.ok w, g')) :
    (w = 0 ∧ g'.debugger.handlers = .streams t :: rest) ∨
      ∃ file, w = t.next ∧ g'.debugger.handlers = .streams (t.add file) :: rest := by
  obtain ⟨result, stage⟩ := result?_of_request run
  have answer := Turn.answer?_of_streams
    (x := g.turn (.ofList Service.fopen.number [path, mode])) h
    (Turn.react?_of_service (service?_turn ..))
  have handlers : g'.debugger.handlers = _ :=
    (congrArg (fun s => s.debugger.handlers) stage).trans (Turn.handlers_after answer)
  rw [Turn.result?_eq_some_iff answer] at result
  -- The open lacks a string, is denied or is granted.
  generalize (g.turn (.ofList Service.fopen.number [path, mode])) = x at answer handlers result
  rcases StreamTable.grant_cases x.memory x.host (x.arg 0) (x.arg 1) with
    ⟨fault, lacks⟩ | ⟨strings, denied⟩ | ⟨files, stream, grant⟩
  · rw [StreamTable.fopen_of_lacks lacks] at result
    cases result
  · obtain ⟨event, refused⟩ := StreamTable.fopen_of_denied (t := t) strings denied
    rw [refused] at handlers result
    exact Or.inl ⟨(Except.ok.inj result).symm, handlers⟩
  · rw [StreamTable.fopen_of_grant grant] at handlers result
    exact Or.inr ⟨{ stream }, (Except.ok.inj result).symm, handlers⟩

/-- Closing a handle takes its stream from the table, whatever the host says to it. -/
theorem table_of_fclose (h : g.debugger.handlers = .streams t :: rest)
    (run : call .fclose [w] g = (outcome, g')) :
    g'.debugger.handlers = .streams (t.close w) :: rest := by
  have answer := Turn.answer?_of_streams (x := g.turn (.ofList Service.fclose.number [w])) h
    (Turn.react?_of_service (service?_turn ..))
  have stage := stage_request g (.ofList Service.fclose.number [w])
  have same : request (.ofList Service.fclose.number [w]) g = (outcome, g') := run
  rw [same] at stage
  refine (congrArg (fun s => s.debugger.handlers) stage).trans
    ((Turn.handlers_after answer).trans ?_)
  rw [arg_turn]
  rfl

/-! ### Programs that clean up -/

/-- Started where the next two handles are unused, the action leaves every handle with the stream
that it had, if it comes to an end. -/
def Restores (act : Action σ ς α) : Prop :=
  ∀ (g : Guest σ ς) (t : StreamTable ς) (rest : List (Handler ς)) (a : α) (g' : Guest σ ς),
    g.debugger.handlers = .streams t :: rest → t.Unused → act g = (.ok a, g') →
      ∃ t' rest', g'.debugger.handlers = .streams t' :: rest' ∧ ∀ w, t'.get? w = t.get? w

omit [FileHost σ ς] in
theorem KeepsBut.restores {act : Action σ ς α} (keeps : KeepsBut [] act) : Restores act := by
  intro g t rest a g' h unused run
  obtain ⟨t', rest', h', agrees⟩ := keeps.of_run h run
  exact ⟨t', rest', h', fun w => agrees.get?_eq w List.not_mem_nil⟩

omit [FileHost σ ς] in
/-- What is done before the first open is of no account. -/
theorem KeepsBut.bind_restores {act : Action σ ς α} {next : α → Action σ ς β}
    (keeps : KeepsBut [] act) (later : ∀ a, Restores (next a)) : Restores (act >>= next) := by
  intro g t rest b g'' h unused run
  obtain ⟨a, g', run, run'⟩ := exists_of_bind run
  obtain ⟨t', rest', h', agrees⟩ := keeps.of_run h run
  obtain ⟨t'', rest'', h'', same⟩ := later a g' t' rest' b g'' h' (agrees.unused unused) run'
  exact ⟨t'', rest'', h'', fun w => (same w).trans (agrees.get?_eq w List.not_mem_nil)⟩

end Guest

namespace Program

open Guest

variable {σ ς : Type} [FileHost σ ς]

/-- Copying a file closes what it has opened, on every way to an exit code. -/
theorem copyFile_restores (source target : String) :
    Restores (copyFile source target : Action σ ς Nat) := by
  refine (KeepsBut.allocateString source).bind_restores fun sourcePath =>
    (KeepsBut.allocateString target).bind_restores fun targetPath =>
    (KeepsBut.allocateString "rb").bind_restores fun readMode =>
    (KeepsBut.allocateString "wb").bind_restores fun writeMode =>
    (KeepsBut.allocate chunk 8).bind_restores fun buffer => ?_
  intro g t rest code g' h unused run
  have complains (text : String) :
      KeepsBut [] (do discard (print text); return 1 : Action σ ς Nat) :=
    (KeepsBut.print text).discard.bind fun _ => .pure 1
  obtain ⟨input, g₁, opened, run⟩ := exists_of_bind run
  rcases fopen_cases h opened with ⟨zero, h₁⟩ | ⟨file, rfl, h₁⟩
  · -- There is nothing to close.
    rw [if_pos zero] at run
    exact (complains _).restores g₁ t rest code g' h₁ unused run
  · rw [if_neg unused.nonzero] at run
    obtain ⟨output, g₂, opened', run⟩ := exists_of_bind run
    rcases fopen_cases h₁ opened' with ⟨zero, h₂⟩ | ⟨file', same, h₂⟩
    · -- The input is closed before the program complains.
      rw [if_pos zero] at run
      obtain ⟨_, g₃, closed, run⟩ := exists_of_discard run
      obtain ⟨t', rest', h', agrees⟩ :=
        (complains _).of_run (table_of_fclose h₂ closed) run
      refine ⟨t', rest', h', fun w => ?_⟩
      rw [agrees.get?_eq w List.not_mem_nil, unused.get?_closed]
    · -- Both are closed, whatever has come of the chunks.
      rw [StreamTable.next_add] at same
      subst same
      rw [if_neg unused.nonzero'] at run
      obtain ⟨_, _, ⟨⟩, run⟩ := exists_of_bind run
      obtain ⟨result, g₃, moved, run⟩ := exists_of_bind run
      obtain ⟨t₃, rest₃, h₃, agrees⟩ := (copyChunks_keeps _ _ _ _ _ _).of_run h₂ moved
      obtain ⟨_, g₄, closed, run⟩ := exists_of_discard run
      obtain ⟨answer, g₅, closed', run⟩ := exists_of_bind run
      have h₅ := table_of_fclose (table_of_fclose h₃ closed) closed'
      have ended : g' = g₅ := by
        split at run
        · exact (congrArg Prod.snd run).symm
        · exact (congrArg Prod.snd run).symm
      exact ⟨_, _, by rw [ended, h₅], unused.get?_closed_both agrees⟩

/-- Every program leaves every handle with the stream that it had. -/
theorem run_restores (p : Program) (arguments : List String) :
    Restores (run p arguments : Action σ ς Nat) := by
  cases p with
  | fileWrite => exact runFileWrite_keeps.restores
  | timestamp => exact (runPrint_keeps (Or.inl rfl)).restores
  | random => exact (runPrint_keeps (Or.inr rfl)).restores
  | copy =>
    match arguments with
    | [source, target] => exact copyFile_restores source target
    | [] | [_] | _ :: _ :: _ :: _ =>
      exact KeepsBut.restores ((KeepsBut.print _).discard.bind fun _ => .pure 2)
  | cat =>
    refine KeepsBut.restores ?_
    exact (KeepsBut.allocate chunk 8).bind fun buffer => (KeepsBut.allocate 8 8).bind fun length =>
      .bind (.of_silent fun _ => rfl) fun _ => catChunks_keeps _ _ _

/-! ### Exit codes -/

theorem copyChunks_yields (source target : String) (buffer input output : Word) (rounds : Nat) :
    Yields (copyChunks source target buffer input output rounds : Action σ ς Nat) (· ≤ 1) := by
  induction rounds with
  | zero => exact .pure (by decide)
  | succ rounds ih =>
    refine .after fun count => ?_
    split
    · refine .after fun flag => ?_
      split
      · exact .after fun _ => .pure (by decide)
      · exact .pure (by decide)
    · refine .after fun taken => ?_
      split
      · exact .after fun _ => .pure (by decide)
      · exact ih

theorem catChunks_yields (buffer length : Word) (rounds : Nat) :
    Yields (catChunks buffer length rounds : Action σ ς Nat) (· ≤ 1) := by
  induction rounds with
  | zero => exact .pure (by decide)
  | succ rounds ih =>
    refine .after fun _ => .after fun answer => ?_
    split
    · exact .after fun _ => .after fun _ => ih
    · split
      · exact .pure (by decide)
      · exact .after fun _ => .pure (by decide)

theorem copyFile_yields (source target : String) :
    Yields (copyFile source target : Action σ ς Nat) (· ≤ 1) := by
  refine .after fun sourcePath => .after fun targetPath => .after fun readMode =>
    .after fun writeMode => .after fun buffer => .after fun input => ?_
  split
  · exact .after fun _ => .pure (by decide)
  · refine .after fun output => ?_
    split
    · exact .after fun _ => .after fun _ => .pure (by decide)
    · refine .after fun _ => .bind (copyChunks_yields _ _ _ _ _ _) fun code small => .after fun _ =>
        .after fun answer => ?_
      split
      · exact .pure (by decide)
      · exact .pure small

/-- Exit codes are zero, one for a failure and two for a wrong usage. -/
theorem run_yields (p : Program) (arguments : List String) :
    Yields (run p arguments : Action σ ς Nat) (· ≤ 2) := by
  have weaken {act : Action σ ς Nat} (yields : Yields act (· ≤ 1)) : Yields act (· ≤ 2) :=
    fun g a g' run => Nat.le_succ_of_le (yields g a g' run)
  cases p with
  | fileWrite => exact .after fun _ => .after fun _ => .after fun _ => .pure (by decide)
  | timestamp | random => exact .after fun _ => .after fun _ => .pure (by decide)
  | copy =>
    match arguments with
    | [source, target] => exact weaken (copyFile_yields source target)
    | [] | [_] | _ :: _ :: _ :: _ => exact .after fun _ => .pure (by decide)
  | cat => exact weaken (.after fun _ => .after fun _ => .after fun _ => catChunks_yields _ _ _)

end Program

/-! ### A session with open streams -/

/-- After a run the next two handles are unused, if the counter has not come round. -/
theorem Transcript.exists_unused {σ ς : Type} [FileHost σ ς] {content : Option ByteArray}
    {host : Host σ} {turns : List (Turn σ ς)} {s : Stage σ ς}
    (run : Transcript (.initial content host) turns s)
    (few : (handles turns).length + 2 < 2 ^ 64) :
    ∃ t rest, s.debugger.handlers = .streams t :: rest ∧ t.Unused := by
  obtain ⟨t, rest, h, tracks⟩ := run.exists_tracks rfl (by omega)
  have next := tracks.next
  have next' : (t.next + 1).toNat = (handles turns).length + 2 := by
    rw [UInt64.toNat_add, next, UInt64.toNat_one, Nat.mod_eq_of_lt (by omega)]
  refine ⟨t, rest, h, tracks.next_ne_zero, fun zero => ?_,
    tracks.get?_of_next_le (Nat.le_refl _), tracks.get?_of_next_le (by omega)⟩
  rw [zero, UInt64.toNat_zero] at next'
  omega

namespace Guest

variable {σ ς : Type} [FileHost σ ς] {g : Guest σ ς} {v : View σ ς}

/-- A call to save a file has a result, whatever the host says to it. -/
theorem Has.call_fileWrite (has : g.Has v) {path address count : Word} {text : ByteArray}
    (named : v.memory.HoldsString path text) (held : v.memory.Holds address count.toNat) :
    ∃ w host g' x, Performs (call .fileWrite [path, address, count]) g [x] (.ok w) g' ∧
      g'.Has { v with host, served := v.served + 1 } := by
  have answered := Turn.answer?_fileWrite
    (x := g.turn (.ofList Service.fileWrite.number [path, address, count])) has.handlers
    (service?_turn ..)
  have memory : (g.turn (.ofList Service.fileWrite.number [path, address, count])).memory =
    v.memory := has.memory
  rw [arg_turn, arg_turn, arg_turn, memory] at answered
  change _ = some (Answer.map _ (Handler.saveFile path address count v.memory _)) at answered
  rw [Handler.saveFile_of_held named held] at answered
  dsimp only at answered
  split at answered
  · obtain ⟨g', performs, has'⟩ := has.call_of_answer answered rfl rfl
    exact ⟨_, _, g', _, performs, has'⟩
  · obtain ⟨g', performs, has'⟩ := has.call_of_answer answered rfl rfl
    exact ⟨_, _, g', _, performs, has'⟩

/-- The program that saves a text makes one call, and does not look at its result. -/
theorem Has.runFileWrite (has : g.Has v) (room : v.heap + 32 ≤ v.memory.size) :
    ∃ g' x, Performs Program.runFileWrite g [x] (.ok 0) g' := by
  have size : "Hello World!\n".toUTF8.size = 13 := by decide
  have size' : "file_write_foo.txt".toUTF8.size = 18 := by decide
  have enough : v.heap + "Hello World!\n".toUTF8.size ≤ v.memory.size := by
    rw [size]
    omega
  obtain ⟨g₁, m₁, first, stored, has₁⟩ := has.allocateBytes enough
  have same := Memory.size_of_store stored
  obtain ⟨g₂, m₂, second, named, kept, has₂⟩ := has₁.allocateString "file_write_foo.txt" (by
    dsimp only
    rw [same, size, size']
    omega)
  have place : (UInt64.ofNat v.heap).toNat = v.heap :=
    toNat_ofNat_of_le_size (m := v.memory) (by omega)
  have held : m₂.Holds (UInt64.ofNat v.heap) (13 : Word).toNat := by
    have thirteen : (13 : Word).toNat = 13 := rfl
    rw [Memory.Holds, kept.size_eq, same, place, thirteen]
    omega
  obtain ⟨w, host, g₃, x, third, -⟩ := has₂.call_fileWrite named held
  exact ⟨g₃, x, first.bind (second.bind (third.discard.bind (.pure 0 g₃)))⟩

end Guest

/-! ### Programs beside an open stream

The guest has opened `f` before a program is started, which copies the same file. -/

namespace Beside

/-- The path `f` and the mode `r`. -/
def memory : Memory := ⟨⟨#[0x66, 0, 0x72, 0]⟩, by decide⟩

def files : FileStore := { files := .ofList [("f", ⟨#[1]⟩)] }

def opening : Turn FileStore StoredStream :=
  ⟨.initial none { files }, .asking .fopen [0, 2] memory⟩

/-- The stream that it opens, under the first handle. -/
def stream : StoredStream := { name := "f", mode := { purpose := .read } }

/-- The program has a larger memory. -/
def guest : Guest FileStore StoredStream :=
  { machine := .blank 9000, debugger := opening.after.debugger, host := opening.after.host
    heap := Guest.heapStart }

theorem run : Transcript (.initial none { files }) [opening] guest.stage := Transcript.nil.snoc _

theorem size_memory : guest.machine.memory.size = 9000 := Bytes.size_zeros 9000

theorem room : Guest.copyBuffer Guest.heapStart "f" "b" + Program.chunk.toNat + 21 +
    max "f".toUTF8.size "b".toUTF8.size ≤ guest.machine.memory.size := by
  rw [size_memory]
  decide

theorem live : guest.debugger.table.get? 1 = some { stream } := by decide +kernel

/-- The program is given the handles two and three. -/
theorem next_table : guest.debugger.table.next = 2 := by decide +kernel

theorem unused : guest.debugger.table.Unused where
  nonzero := by decide +kernel
  nonzero' := by decide +kernel
  free := by decide +kernel
  free' := by decide +kernel

theorem stored : guest.host.files.get? "f" = some ⟨#[1]⟩ := by decide +kernel

theorem limit : (⟨#[1]⟩ : ByteArray).size ≤ guest.host.files.limit := by decide +kernel

end Beside

namespace Program

open Guest (Conversation Performs)

/-- A program that is started in any session and comes to an end has an exit code of at most two,
and every handle has the open file that it had, if any. A program that saves its text always ends
well, after one call. -/
theorem run_keeps_streams {σ ς : Type} [FileHost σ ς] {content : Option ByteArray} {host : Host σ}
    {turns : List (Turn σ ς)} {g : Guest σ ς}
    (session : Transcript (.initial content host) turns g.stage)
    (few : (handles turns).length + 2 < 2 ^ 64) :
    (∀ p arguments code g', run p arguments g = (.ok code, g') →
        code ≤ 2 ∧ ∀ w, g'.debugger.table.get? w = g.debugger.table.get? w) ∧
      ∀ arguments, g.heap = Guest.heapStart → 0x1020 ≤ g.machine.memory.size →
        ∃ g' x, Performs (run .fileWrite arguments) g [x] (.ok 0) g' ∧
          g'.debugger.served = g.debugger.served + 1 := by
  constructor
  · intro p arguments code g' ended
    obtain ⟨t, rest, h, unused⟩ := session.exists_unused few
    obtain ⟨t', rest', h', same⟩ := run_restores p arguments g t rest code g' h unused ended
    refine ⟨run_yields p arguments g code g' ended, fun w => ?_⟩
    have table : g.debugger.table = t := Debugger.table_eq h
    rw [Debugger.table_eq h', table, same]
  · intro arguments fresh room
    obtain ⟨t, f, c, h⟩ := Stage.Reachable.exists_panel ⟨content, host, turns, session⟩
    have has : g.Has
        { memory := g.machine.memory, heap := g.heap, table := t, feed := f, console := c
          host := g.host, served := g.debugger.served } := ⟨rfl, rfl, h, rfl, rfl⟩
    obtain ⟨g', x, performs⟩ := has.runFileWrite (by
      dsimp only
      rw [fresh, Guest.heapStart]
      omega)
    exact ⟨g', x, performs, performs.served⟩

/-- A copy opens and closes two streams, a text is saved, and the stream on `f` is as it was each
time. -/
theorem run_keeps_streams_beside :
    (∃ turns g' reads writes flushed,
        Performs (run .copy ["f", "b"]) Beside.guest turns (.ok 0) g' ∧
        Conversation turns "f" "b" 2 3 reads writes flushed ∧
        g'.host.files.get? "b" = some ⟨#[1]⟩ ∧
        g'.debugger.table.get? 1 = some { stream := Beside.stream } ∧
        g'.debugger.table.get? 2 = none ∧ g'.debugger.table.get? 3 = none) ∧
      ∃ x g', Performs (run .fileWrite []) Beside.guest [x] (.ok 0) g' ∧
        g'.debugger.table.get? 1 = some { stream := Beside.stream } := by
  obtain ⟨keeps, saves⟩ := run_keeps_streams Beside.run (by decide +kernel)
  constructor
  · obtain ⟨t, f, c, h⟩ := Stage.Reachable.exists_panel ⟨none, _, _, Beside.run⟩
    have table : Beside.guest.debugger.table = t := Debugger.table_eq h
    have has : Beside.guest.Has
        { memory := Beside.guest.machine.memory, heap := Guest.heapStart, table := t, feed := f
          console := c, host := Beside.guest.host, served := Beside.guest.debugger.served } :=
      ⟨rfl, rfl, h, rfl, rfl⟩
    obtain ⟨code, g', turns, reads, writes, flushed, performs, said, held, -, fine, -⟩ :=
      has.copyFile_of_stored (show t.Unused from table ▸ Beside.unused) (by decide) (by decide)
        (by decide) Beside.room Beside.stored
    obtain ⟨rfl, -⟩ := fine Beside.limit
    rw [Bytes.window_of_size_le Beside.limit] at held
    dsimp only at said
    rw [← table, Beside.next_table] at said
    have same := (keeps .copy ["f", "b"] 0 g' performs.eq).2
    refine ⟨turns, g', reads, writes, flushed, performs, said, held, (same 1).trans Beside.live,
      (same 2).trans ?_, (same 3).trans ?_⟩
    · rw [← Beside.next_table]
      exact Beside.unused.free
    · have free := Beside.unused.free'
      rw [Beside.next_table] at free
      exact free
  · obtain ⟨g', x, performs, -⟩ := saves [] rfl (by rw [Beside.size_memory]; decide)
    exact ⟨x, g', performs, ((keeps _ _ _ _ performs.eq).2 1).trans Beside.live⟩

end Program

end Semihosting
