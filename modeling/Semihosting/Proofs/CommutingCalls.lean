import Semihosting.Proofs.GuestCalls
import Semihosting.Proofs.StoredNames
import Semihosting.Proofs.StreamEffects

/-!
# Calls on different streams

Calls on the streams of two handles can be made in either order, as long as neither changes what the
other one sees: the streams are on different files, or neither call writes, and no read fills memory
where the other call reads or fills. Each call then has the same effect whether it comes first or
second, and effects on two handles commute.

## Main definitions

* `Stage.call`, `Turn.next` — a request, made in a session and made after another call
* `Request.Independent` — neither of two requests changes what the other one sees

## Main results

* `Effect.table_comm`, `Effect.files_comm`, `Effect.memory_comm` — effects on two handles commute
* `Stage.carriesOut_next` — a call has its effect after an independent one as well
* `Transcript.calls_commute` — after any run, independent calls can be made in either order
-/

namespace Semihosting

/-! ### Effects on two handles -/

namespace Effect

variable {e e' : Effect} {t : StreamTable StoredStream} {w w' : Word} {s : FileStore}
variable {name name' : String} {m : Memory}

/-- A call leaves the streams of other handles alone. -/
theorem get?_table (other : w' ≠ w) : (e.table t w).get? w' = t.get? w' := by
  unfold table
  split
  · exact (StreamTable.get?_put ..).trans (if_neg other)
  · exact (StreamTable.get?_close ..).trans (if_neg other)

/-- A handle with a stream has its place among the streams already. -/
theorem table_comm (apart : w ≠ w') (live : (t.get? w).isSome) :
    e'.table (e.table t w) w' = e.table (e'.table t w') w := by
  let revised (streams : Table Word (OpenFile StoredStream)) : StreamTable StoredStream :=
    { t with streams }
  unfold table
  split
  · split
    · exact congrArg revised (Table.insert_comm apart _ _ live)
    · exact congrArg revised (Table.erase_insert t.streams apart.symm _).symm
  · split
    · exact congrArg revised (Table.erase_insert t.streams apart _)
    · exact congrArg revised (Table.erase_comm t.streams w w')

theorem limit_files (e : Effect) (s : FileStore) (name : String) :
    (e.files s name).limit = s.limit := by
  unfold files
  split <;> rfl

/-- A call changes the content of one file at most, and only if it writes. -/
theorem content_files (other : name' ≠ name ∨ e.content? = none) :
    (e.files s name).content name' = s.content name' := by
  unfold files
  split
  · next some =>
    rcases other with apart | none
    · rw [FileStore.content_insert, if_neg apart]
    · rw [some] at none
      cases none
  · rfl

theorem files_comm (has : s.Has name)
    (apart : name ≠ name' ∨ e.content? = none ∧ e'.content? = none) :
    e'.files (e.files s name) name' = e.files (e'.files s name') name := by
  rcases apart with apart | ⟨none, none'⟩
  · unfold files
    split
    · split
      · exact congrArg (FileStore.mk · _) (Table.insert_comm apart _ _ has)
      · rfl
    · rfl
  · simp only [files, none, none']

theorem size_memory (e : Effect) (m : Memory) : (e.memory m).size = m.size := by
  unfold memory
  split
  · exact Memory.size_fill ..
  · rfl

theorem memory_comm
    (apart : ∀ {a b data data'}, e.filling? = some (a, data) → e'.filling? = some (b, data') →
      Memory.Disjoint a data.size b data'.size) :
    e'.memory (e.memory m) = e.memory (e'.memory m) := by
  unfold memory
  split
  · next filling' =>
    split
    · next filling => exact Memory.fill_comm (apart filling filling')
    · rfl
  · rfl

end Effect

/-! ### Independent requests -/

namespace Request

variable {r r' : Request} {name name' : String}

/-- The window of guest memory that a transfer reads or fills. -/
def window? (r : Request) : Option (Word × Nat) :=
  match r.service? with
  | some .fread | some .fwrite => some (r.arg 0, r.length)
  | _ => none

/-- A read does not fill memory where the other request reads or fills. -/
def Clears (r r' : Request) : Prop :=
  r.service? = some .fread → ∀ {address length}, r'.window? = some (address, length) →
    Memory.Disjoint (r.arg 0) r.length address length

/-- Neither of two requests changes what the other one sees. -/
structure Independent (r r' : Request) (name name' : String) : Prop where
  /-- The files are different, or there is no write. -/
  files : name ≠ name' ∨ r.service? ≠ some .fwrite ∧ r'.service? ≠ some .fwrite
  clears : r.Clears r'
  clears' : r'.Clears r

theorem Independent.symm (h : r.Independent r' name name') : r'.Independent r name' name :=
  ⟨h.files.imp Ne.symm And.symm, h.clears', h.clears⟩

theorem Sees.refl (r : Request) (name : String) (s : FileStore) (m : Memory) :
    r.Sees name s s m m :=
  ⟨rfl, rfl, rfl, fun _ => ⟨rfl, fun _ _ _ => rfl⟩⟩

/-- A request sees the same after an independent one. -/
theorem Independent.sees (h : r.Independent r' name name') {e : Effect} (of : e.Of r)
    (s : FileStore) (m : Memory) : r'.Sees name' s (e.files s name) m (e.memory m) := by
  refine ⟨e.limit_files s name, Effect.content_files ?_, e.size_memory m, fun writes => ?_⟩
  · rcases h.files with apart | ⟨reads, -⟩
    · exact Or.inl apart.symm
    · exact Or.inr (Option.not_isSome_iff_eq_none.mp fun some => reads (of.content some))
  · unfold Effect.memory
    split
    · next filling =>
      obtain ⟨reads, rfl, le⟩ := of.filling filling
      have window : r'.window? = some (r'.arg 0, r'.length) := by rw [window?, writes]
      exact Memory.agreesOn_fill ((h.clears reads window).mono le (Nat.le_refl _)).symm
    · exact ⟨rfl, fun _ _ _ => rfl⟩

/-- Two reads fill disjoint windows. -/
theorem Independent.memory_comm (h : r.Independent r' name name') {e e' : Effect} (of : e.Of r)
    (of' : e'.Of r') (m : Memory) : e'.memory (e.memory m) = e.memory (e'.memory m) := by
  refine Effect.memory_comm fun {a b data data'} filling filling' => ?_
  obtain ⟨reads, rfl, le⟩ := of.filling filling
  obtain ⟨reads', rfl, le'⟩ := of'.filling filling'
  have window : r'.window? = some (r'.arg 0, r'.length) := by rw [window?, reads']
  exact (h.clears reads window).mono le le'

theorem Independent.files_comm (h : r.Independent r' name name') {e e' : Effect} (of : e.Of r)
    (of' : e'.Of r') {s : FileStore} (has : s.Has name) :
    e'.files (e.files s name) name' = e.files (e'.files s name') name := by
  refine Effect.files_comm has (h.files.imp_right fun ⟨reads, reads'⟩ => ⟨?_, ?_⟩)
  · exact Option.not_isSome_iff_eq_none.mp fun some => reads (of.content some)
  · exact Option.not_isSome_iff_eq_none.mp fun some => reads' (of'.content some)

end Request

/-! ### One call after the other -/

variable {σ ς : Type}

/-- A request, made in a session by a guest with this machine. -/
def Stage.call (s : Stage σ ς) (machine : Machine) (r : Request) : Turn σ ς :=
  { s with machine := { machine with registers := r.load machine.registers } }

/-- Another request, made by the guest after a call. -/
def Turn.next [FileHost σ ς] (x : Turn σ ς) (r : Request) : Turn σ ς :=
  x.after.call x.serviced.machine r

@[simp] theorem Stage.request_call (s : Stage σ ς) (machine : Machine) (r : Request) :
    (s.call machine r).request = r :=
  Request.capture_load r _

namespace Stage

variable {s : Stage FileStore StoredStream} {machine : Machine} {e e' : Effect} {r r' : Request}
variable {t : StreamTable StoredStream} {rest : List (Handler StoredStream)} {w w' : Word}
variable {file file' : OpenFile StoredStream}

section TwoCalls

variable (h : s.debugger.handlers = .streams t :: rest) (apart : w ≠ w')
variable (live : t.get? w = some file) (live' : t.get? w' = some file')
variable (effect : r.HasEffect e w file s.host.files machine.memory)
variable (effect' : r'.HasEffect e' w' file' s.host.files machine.memory)

include h live effect

theorem carriesOut_call : (s.call machine r).CarriesOut e w file.stream.name :=
  effect.carries (s.request_call machine r) h live (.refl ..)

include apart live' effect'

/-- A call has its effect after an independent one as well. -/
theorem carriesOut_next (independent : r.Independent r' file.stream.name file'.stream.name) :
    ((s.call machine r).next r').CarriesOut e' w' file'.stream.name := by
  have first := carriesOut_call h live effect
  have after := first.after h
  have handlers : ((s.call machine r).next r').debugger.handlers =
      .streams (e.table t w) :: rest := congrArg (·.debugger.handlers) after
  have found : (e.table t w).get? w' = some file' := by rw [Effect.get?_table apart.symm, live']
  have files : ((s.call machine r).next r').host.files = e.files s.host.files file.stream.name :=
    congrArg (·.host.files) after
  have memory : ((s.call machine r).next r').memory = e.memory machine.memory := first.memory
  refine effect'.carries (request_call ..) handlers found ?_
  rw [files, memory]
  exact independent.sees effect.of ..

/-- What two independent calls leave behind. -/
theorem after_next (independent : r.Independent r' file.stream.name file'.stream.name) :
    ((s.call machine r).next r').after =
      { debugger :=
          { handlers := .streams (e'.table (e.table t w) w') :: rest
            served := s.debugger.served + e.count + e'.count }
        host :=
          { s.host with
            files := e'.files (e.files s.host.files file.stream.name) file'.stream.name } } := by
  have first := (carriesOut_call h live effect).after h
  have handlers : ((s.call machine r).next r').debugger.handlers =
      .streams (e.table t w) :: rest := congrArg (·.debugger.handlers) first
  have served : ((s.call machine r).next r').debugger.served = s.debugger.served + e.count :=
    congrArg (·.debugger.served) first
  have host : ((s.call machine r).next r').host =
      { s.host with files := e.files s.host.files file.stream.name } := congrArg (·.host) first
  rw [(carriesOut_next h apart live live' effect effect' independent).after handlers, served, host]

theorem memory_next (independent : r.Independent r' file.stream.name file'.stream.name) :
    ((s.call machine r).next r').serviced.machine.memory = e'.memory (e.memory machine.memory) := by
  have memory : ((s.call machine r).next r').memory = e.memory machine.memory :=
    (carriesOut_call h live effect).memory
  rw [(carriesOut_next h apart live live' effect effect' independent).memory, memory]

theorem outcome_next (independent : r.Independent r' file.stream.name file'.stream.name) :
    ((s.call machine r).next r').serviced.outcome = (s.call machine r').serviced.outcome := by
  rw [(carriesOut_next h apart live live' effect effect' independent).outcome,
    (carriesOut_call h live' effect').outcome]
  simp only [Turn.next, request_call]

end TwoCalls

end Stage

/-- After any run of a session that starts without streams, independent calls on the streams of two
handles can be made in either order: each call ends in the same way, and memory, files and streams
are the same in the end. -/
theorem Transcript.calls_commute {s₀ s : Stage FileStore StoredStream}
    {turns : List (Turn FileStore StoredStream)} {rest : List (Handler StoredStream)}
    {w w' : Word} {r r' : Request} {file file' : OpenFile StoredStream}
    (run : Transcript s₀ turns s) (start : s₀.debugger.handlers = .streams {} :: rest)
    (machine : Machine) (apart : w ≠ w') (live : s.debugger.table.get? w = some file)
    (live' : s.debugger.table.get? w' = some file') (on : r.On w) (on' : r'.On w')
    (independent : r.Independent r' file.stream.name file'.stream.name) :
    ((s.call machine r').next r).serviced.outcome = (s.call machine r).serviced.outcome ∧
      ((s.call machine r).next r').serviced.outcome = (s.call machine r').serviced.outcome ∧
      ((s.call machine r).next r').serviced.machine.memory =
        ((s.call machine r').next r).serviced.machine.memory ∧
      ((s.call machine r).next r').after = ((s.call machine r').next r).after := by
  obtain ⟨t, rest', h, backed⟩ := run.backed start
  have has : s.host.files.Has file.stream.name := backed w file live
  rw [Debugger.table_eq h] at live live'
  obtain ⟨e, effect⟩ := Request.exists_hasEffect on file s.host.files machine.memory
  obtain ⟨e', effect'⟩ := Request.exists_hasEffect on' file' s.host.files machine.memory
  have swapped := independent.symm
  refine ⟨Stage.outcome_next h apart.symm live' live effect' effect swapped,
    Stage.outcome_next h apart live live' effect effect' independent, ?_, ?_⟩
  · rw [Stage.memory_next h apart live live' effect effect' independent,
      Stage.memory_next h apart.symm live' live effect' effect swapped,
      independent.memory_comm effect.of effect'.of]
  · have some : (t.get? w).isSome := by
      rw [live]
      rfl
    rw [Stage.after_next h apart live live' effect effect' independent,
      Stage.after_next h apart.symm live' live effect' effect swapped,
      Effect.table_comm apart some, independent.files_comm effect.of effect'.of has,
      Nat.add_right_comm]

/-! ### A reader and a writer -/

namespace SideBySide

/-- The paths `f` and `g`, the modes `r` and `a`, room for two bytes, and a byte to write. -/
def memory : Memory := ⟨⟨#[0x66, 0, 0x67, 0, 0x72, 0, 0x61, 0, 0, 0, 0x2a]⟩, by decide⟩

def machine : Machine := ⟨.blank, memory⟩

def store : FileStore := { files := .ofList [("f", ⟨#[0x31, 0x32]⟩), ("g", ⟨#[0x33]⟩)] }

/-- One file is opened for reading, and then the other one for appending. -/
def opening : Turn FileStore StoredStream :=
  ⟨.initial none { files := store }, .asking .fopen [0, 4] memory⟩

def appending : Turn FileStore StoredStream := ⟨opening.after, .asking .fopen [2, 6] memory⟩

theorem run : Transcript opening.toStage [opening, appending] appending.after :=
  (Transcript.nil.snoc _).snoc _

theorem live_reading : appending.after.debugger.table.get? 1 =
    some { stream := { name := "f", mode := { purpose := .read } } } := by decide +kernel

theorem live_writing : appending.after.debugger.table.get? 2 =
    some { stream := { name := "g", mode := { purpose := .append } } } := by decide +kernel

/-- Two bytes of the first file are read. -/
def reading : Request := .ofList Service.fread.number [8, 1, 2, 1]

/-- A byte is written to the second file. -/
def writing : Request := .ofList Service.fwrite.number [10, 1, 1, 2]

theorem on_reading : reading.On 1 := ⟨by decide +kernel, by decide +kernel⟩

theorem on_writing : writing.On 2 := ⟨by decide +kernel, by decide +kernel⟩

theorem independent : reading.Independent writing "f" "g" := by
  refine ⟨Or.inl (by decide), fun _ address length window => ?_, fun reads => ?_⟩
  · have at_ten : writing.window? = some (10, 1) := by decide +kernel
    rw [at_ten] at window
    cases window
    exact Memory.Disjoint.of_le (by decide +kernel)
  · have writes : writing.service? = some .fwrite := by decide +kernel
    rw [writes] at reads
    cases reads

end SideBySide

/-- The read gets its two bytes after the write as well, and the session ends the same. -/
theorem calls_commute_sideBySide :
    ((SideBySide.appending.after.call SideBySide.machine SideBySide.writing).next
        SideBySide.reading).result? = some 2 ∧
      ((SideBySide.appending.after.call SideBySide.machine SideBySide.reading).next
          SideBySide.writing).after =
        ((SideBySide.appending.after.call SideBySide.machine SideBySide.writing).next
          SideBySide.reading).after := by
  have read : (SideBySide.appending.after.call SideBySide.machine SideBySide.reading).result? =
      some 2 := by decide +kernel
  obtain ⟨outcome, -, -, after⟩ :=
    SideBySide.run.calls_commute rfl SideBySide.machine (by decide) SideBySide.live_reading
      SideBySide.live_writing SideBySide.on_reading SideBySide.on_writing SideBySide.independent
  refine ⟨?_, after⟩
  rw [Turn.result?, outcome]
  exact read

end Semihosting
