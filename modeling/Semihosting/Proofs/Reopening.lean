import Mathlib.Logic.Equiv.Basic
import Semihosting.File.Rehearsal
import Semihosting.Proofs.HandleLife
import Semihosting.Proofs.RenamedHandles

/-!
# Reopening a stream

A live handle can be given another stream by reopening it. The guest could also close it and open
the other stream under a fresh handle. Either way the host is asked for the same file in the same
mode, so either both succeed or neither does, the host is left the same, and all other handles keep
their streams. If both succeed, the new streams are the same, and from then on the two sessions
differ in the name of that one handle. If neither does, the old stream is gone in both.

## Main definitions

* `StreamTable.moveTo` — a table whose stream of one handle has given way to one of another handle
* `Turn.Bypasses` — closing and opening, in place of reopening
* `Turn.ReplacedAlike` — both have put a new stream in place, one under the old handle and the other
  under a fresh one
* `Turn.LostAlike` — neither has, and the old stream is gone

## Main results

* `StreamTable.renamed_replaced` — the two tables are the same, but for one name
* `Turn.Bypasses.replacedAlike`, `Turn.Bypasses.lostAlike` — what comes of the two ways
* `Transcript.reopens_as_closing_and_opening` — it is one or the other, and in the first case any
  further calls that open nothing go on side by side
-/

namespace Semihosting

/-! ### Tables -/

namespace StreamTable

variable {ς : Type} {t : StreamTable ς} {handle n : Word}

/-- The table after a handle was closed and another stream was opened under a fresh one. -/
def moveTo (t : StreamTable ς) (handle n : Word) (file : OpenFile ς) : StreamTable ς :=
  { (t.close handle).put n file with next := n + 1 }

@[simp] theorem get?_moveTo (t : StreamTable ς) (handle n : Word) (file : OpenFile ς) (w : Word) :
    (t.moveTo handle n file).get? w =
      if w = n then some file else if w = handle then none else t.get? w := by
  have found : (t.moveTo handle n file).get? w = ((t.close handle).put n file).get? w := rfl
  rw [found, get?_put, get?_close]

/-- A stream in the place of an old one is the same as one under a fresh handle, but for the
name. -/
theorem renamed_replaced (fresh : n ≠ handle) (unused : t.get? n = none) (file : OpenFile ς) :
    (t.put handle file).Renamed (Equiv.swap handle n) (t.moveTo handle n file) := by
  intro w
  rw [get?_moveTo, get?_put]
  by_cases old : w = handle
  · rw [old, Equiv.swap_apply_left, if_pos rfl, if_pos rfl]
  · by_cases new : w = n
    · rw [new, Equiv.swap_apply_right, if_neg fresh.symm, if_pos rfl, if_neg fresh, unused]
    · rw [Equiv.swap_apply_of_ne_of_ne old new, if_neg new, if_neg old, if_neg old]

end StreamTable

/-! ### What the host grants -/

variable {σ ς : Type} [FileHost σ ς]

/-- What the host grants depends on the two strings, wherever they lie in memory. -/
theorem StreamTable.grant?_of_strings {memory : Memory} {path mode : Word}
    {name letters : ByteArray} (host : Host σ) (path_eq : memory.HoldsString path name)
    (mode_eq : memory.HoldsString mode letters) :
    grant? memory host path mode = (OpenMode.parse? letters).bind fun parsed =>
      (FileHost.openFile host.files (Utf8.decode name) parsed).toOption := by
  simp only [grant?, Memory.loadString_eq_ok_iff.mpr path_eq,
    Memory.loadString_eq_ok_iff.mpr mode_eq]
  rfl

/-- A stream that is opened on a stored file begins at its start. -/
theorem Rehearsal.stream_of_openFile {r files : Rehearsal} {name : String} {mode : OpenMode}
    {stream : RehearsedStream} (opened : FileHost.openFile r name mode = .ok (files, stream))
    (plain : r.scripts.get? name = none) :
    stream = .stored { name, mode, position := 0 } := by
  have unfolded : FileHost.openFile r name mode = r.openFile name mode := rfl
  rw [unfolded, openFile] at opened
  split at opened
  · cases opened
  · rw [plain] at opened
    dsimp only at opened
    cases inner : r.store.openFile name mode with
    | error reason =>
      rw [inner] at opened
      cases opened
    | ok pair =>
      obtain ⟨store, stored⟩ := pair
      rw [inner] at opened
      cases opened
      have begins : stored = { name, mode } := (FileStore.openFile_cases inner).1
      rw [begins]

namespace Turn

/-- A stream that the host grants has the name and the mode that were asked for. It is at the start
of the file, unless the name plays a script. -/
theorem begins_of_grant {x : Turn Rehearsal RehearsedStream} {name letters : ByteArray}
    {files : Rehearsal} {stream : RehearsedStream} (path : x.memory.HoldsString (x.arg 0) name)
    (mode : x.memory.HoldsString (x.arg 1) letters) (grant : x.granted? = some (files, stream)) :
    ∃ parsed, OpenMode.parse? letters = some parsed ∧
      (x.host.files.scripts.get? (Utf8.decode name) = none →
        stream = .stored { name := Utf8.decode name, mode := parsed, position := 0 }) := by
  rw [granted?, StreamTable.grant?_of_strings _ path mode, Option.bind_eq_some_iff] at grant
  obtain ⟨parsed, parses, granted⟩ := grant
  refine ⟨parsed, parses, fun plain => ?_⟩
  cases ended : FileHost.openFile x.host.files (Utf8.decode name) parsed with
  | error reason =>
    rw [ended] at granted
    cases granted
  | ok opened =>
    rw [ended] at granted
    obtain rfl := Option.some.inj granted
    exact Rehearsal.stream_of_openFile ended plain

/-! ### The two ways -/

/-- In place of a call that reopens a handle, a call closes it, and another one opens a stream for
the same path and mode. -/
structure Bypasses (x closing opening : Turn σ ς) (name letters : ByteArray) : Prop where
  reopens : x.service? = some .freopen
  path : x.memory.HoldsString (x.arg 0) name
  mode : x.memory.HoldsString (x.arg 1) letters
  from_there : closing.toStage = x.toStage
  closes : closing.service? = some .fclose
  handle : closing.arg 0 = x.arg 2
  next : opening.toStage = closing.after
  opens : opening.service? = some .fopen
  path' : opening.memory.HoldsString (opening.arg 0) name
  mode' : opening.memory.HoldsString (opening.arg 1) letters

/-- There is a new stream, with clear flags, under the old handle after the one call and under a
fresh handle after the other two. All else is the same. -/
structure ReplacedAlike (x opening : Turn σ ς) (n : Word) (stream : ς) : Prop where
  result : x.result? = some (x.arg 2)
  result' : opening.result? = some n
  nonzero : x.arg 2 ≠ 0
  nonzero' : n ≠ 0
  fresh : n ≠ x.arg 2
  unused : x.debugger.table.get? n = none
  there (w : Word) : x.after.debugger.table.get? w =
    if w = x.arg 2 then some { stream, eof := false, error := false }
    else x.debugger.table.get? w
  there' (w : Word) : opening.after.debugger.table.get? w =
    if w = n then some { stream, eof := false, error := false }
    else if w = x.arg 2 then none else x.debugger.table.get? w
  host : opening.after.host = x.after.host
  renamed : x.after.Renamed (Equiv.swap (x.arg 2) n) opening.after

/-- There is no new stream, and the old one is gone either way. -/
structure LostAlike (x opening : Turn σ ς) : Prop where
  result : x.result? = some 0
  result' : opening.result? = some 0
  there (w : Word) : x.after.debugger.table.get? w =
    if w = x.arg 2 then none else x.debugger.table.get? w
  there' (w : Word) : opening.after.debugger.table.get? w =
    if w = x.arg 2 then none else x.debugger.table.get? w
  host : x.after.host = x.host
  host' : opening.after.host = x.host

section Bypass

variable {x closing opening : Turn σ ς} {name letters : ByteArray} {t : StreamTable ς}
variable {rest : List (Handler ς)} {old : OpenFile ς} {files : σ} {stream : ς}

/-- The handle is closed, and nothing else has happened. -/
theorem Bypasses.opening_at (bypass : x.Bypasses closing opening name letters)
    (h : x.debugger.handlers = .streams t :: rest) :
    opening.debugger.handlers = .streams (t.close (x.arg 2)) :: rest ∧ opening.host = x.host := by
  have handlers : closing.debugger.handlers = .streams t :: rest := by
    rw [bypass.from_there]
    exact h
  have answer := answer?_of_streams handlers (react?_of_service bypass.closes)
  have closed : closing.after.debugger.handlers = .streams (t.close (closing.arg 0)) :: rest :=
    handlers_after answer
  have host : closing.after.host = closing.host := host_after answer
  rw [bypass.next, closed, bypass.handle, host, bypass.from_there]
  exact ⟨rfl, rfl⟩

/-- The host is asked for the same. -/
theorem Bypasses.granted?_eq (bypass : x.Bypasses closing opening name letters)
    (host : opening.host = x.host) : opening.granted? = x.granted? := by
  rw [granted?, granted?, host, StreamTable.grant?_of_strings _ bypass.path bypass.mode,
    StreamTable.grant?_of_strings _ bypass.path' bypass.mode']

theorem Bypasses.replacedAlike (bypass : x.Bypasses closing opening name letters)
    (h : x.debugger.handlers = .streams t :: rest) (live : t.get? (x.arg 2) = some old)
    (nonzero : x.arg 2 ≠ 0) (nonzero' : t.next ≠ 0) (unused : t.get? t.next = none)
    (grant : x.granted? = some (files, stream)) : x.ReplacedAlike opening t.next stream := by
  obtain ⟨handlers, host⟩ := bypass.opening_at h
  have grant' : opening.granted? = some (files, stream) := (bypass.granted?_eq host).trans grant
  have answer := answer?_of_streams h (react?_of_service bypass.reopens)
  rw [StreamTable.freopen_of_grant live grant] at answer
  have answer' := answer?_of_streams handlers (react?_of_service bypass.opens)
  rw [StreamTable.fopen_of_grant grant'] at answer'
  have after : x.after.debugger.handlers = .streams (t.put (x.arg 2) { stream }) :: rest :=
    handlers_after answer
  have after' : opening.after.debugger.handlers =
      .streams (t.moveTo (x.arg 2) t.next { stream }) :: rest := handlers_after answer'
  have table : x.debugger.table = t := Debugger.table_eq h
  -- Under the old handle there is a stream.
  have fresh : t.next ≠ x.arg 2 := by
    intro same
    rw [same, live] at unused
    cases unused
  have same_host : opening.after.host = x.after.host := by
    rw [host_after answer, host_after answer', host]
    rfl
  exact
    { result := result?_eq answer
      result' := result?_eq answer'
      nonzero, nonzero', fresh
      unused := by rw [table, unused]
      there := fun w => by rw [Debugger.table_eq after, table, StreamTable.get?_put]
      there' := fun w => by rw [Debugger.table_eq after', table, StreamTable.get?_moveTo]
      host := same_host
      renamed := ⟨⟨_, _, rest, after, after', StreamTable.renamed_replaced fresh unused _⟩,
        same_host⟩ }

theorem Bypasses.lostAlike (bypass : x.Bypasses closing opening name letters)
    (h : x.debugger.handlers = .streams t :: rest) (live : t.get? (x.arg 2) = some old)
    (denied : x.granted? = none) : x.LostAlike opening := by
  obtain ⟨handlers, host⟩ := bypass.opening_at h
  have denied' : opening.granted? = none := (bypass.granted?_eq host).trans denied
  have answer := answer?_of_streams h (react?_of_service bypass.reopens)
  obtain ⟨event, refused⟩ := StreamTable.freopen_of_denied
    ⟨⟨name, bypass.path⟩, ⟨letters, bypass.mode⟩⟩ live denied
  rw [refused] at answer
  have answer' := answer?_of_streams handlers (react?_of_service bypass.opens)
  obtain ⟨event', refused'⟩ := StreamTable.fopen_of_denied (t := t.close (x.arg 2))
    ⟨⟨name, bypass.path'⟩, ⟨letters, bypass.mode'⟩⟩ denied'
  rw [refused'] at answer'
  have table : x.debugger.table = t := Debugger.table_eq h
  have after : x.after.debugger.table = t.close (x.arg 2) :=
    Debugger.table_eq (handlers_after answer)
  have after' : opening.after.debugger.table = t.close (x.arg 2) :=
    Debugger.table_eq (handlers_after answer')
  exact
    { result := result?_eq answer
      result' := result?_eq answer'
      there := fun w => by rw [after, table, StreamTable.get?_close]
      there' := fun w => by rw [after', table, StreamTable.get?_close]
      host := host_after answer
      host' := (host_after answer').trans host }

end Bypass

end Turn

/-! ### Whole runs -/

/-- Any further calls that open nothing go on side by side, if those behind the second stage are
made under the other handles. -/
def Stage.GoesOnAs (π : Equiv.Perm Word) (s s' : Stage σ ς) : Prop :=
  ∀ {later later' : List (Turn σ ς)} {last last' : Stage σ ς}, Transcript s later last →
    Transcript s' later' last' →
    List.Forall₂ (fun y y' => y.machine.Renamed π y'.machine) later later' →
    List.Forall₂ (Turn.Counterpart π) later later' ∧ last.Renamed π last'

theorem Turn.ReplacedAlike.goesOnAs {x opening : Turn σ ς} {n : Word} {stream : ς}
    (replaced : x.ReplacedAlike opening n stream) :
    x.after.GoesOnAs (Equiv.swap (x.arg 2) n) opening.after := by
  intro later later' last last' run run' callers
  -- Zero is neither of the two handles, so it keeps its meaning.
  have zero : Equiv.swap (x.arg 2) n 0 = 0 :=
    Equiv.swap_apply_of_ne_of_ne replaced.nonzero.symm replaced.nonzero'.symm
  exact Transcript.counterparts zero run run' callers replaced.renamed

/-- A live handle is reopened with the same success with which it is closed and the same path and
mode are opened. If there is a new stream, the two ways differ in its name from then on; it begins
at the start of the file, unless its name plays a script. -/
theorem Transcript.reopens_as_closing_and_opening {content : Option ByteArray}
    {host : Host Rehearsal} {turns : List (Turn Rehearsal RehearsedStream)}
    {s : Stage Rehearsal RehearsedStream} (run : Transcript (.initial content host) turns s)
    (few : (handles turns).length < 2 ^ 64 - 1) {x closing opening : Turn Rehearsal RehearsedStream}
    (at_end : x.toStage = s) (live : Live turns (x.arg 2)) {name letters : ByteArray}
    (bypass : x.Bypasses closing opening name letters) :
    (x.result? = some 0 ↔ opening.result? = some 0) ∧
      (x.LostAlike opening ∨ ∃ n stream, x.ReplacedAlike opening n stream ∧
        (∃ mode, OpenMode.parse? letters = some mode ∧
          (s.host.files.scripts.get? (Utf8.decode name) = none →
            stream = .stored { name := Utf8.decode name, mode, position := 0 })) ∧
        x.after.GoesOnAs (Equiv.swap (x.arg 2) n) opening.after) := by
  subst at_end
  obtain ⟨t, rest, handlers, tracks⟩ := run.exists_tracks rfl few
  obtain ⟨old, found⟩ := Option.isSome_iff_exists.mp ((tracks.live_iff _).mpr live)
  have nonzero : x.arg 2 ≠ 0 := by
    intro zero
    rw [zero] at live
    exact tracks.nonzero live.mem_handles
  cases grant : x.granted? with
  | none =>
    have lost := bypass.lostAlike handlers found grant
    exact ⟨iff_of_true lost.result lost.result', Or.inl lost⟩
  | some opened =>
    obtain ⟨files, stream⟩ := opened
    have replaced := bypass.replacedAlike handlers found nonzero tracks.next_ne_zero
      (tracks.get?_of_next_le (Nat.le_refl _)) grant
    have succeeds : x.result? ≠ some 0 := by
      rw [replaced.result]
      exact fun zero => nonzero (Option.some.inj zero)
    have succeeds' : opening.result? ≠ some 0 := by
      rw [replaced.result']
      exact fun zero => replaced.nonzero' (Option.some.inj zero)
    exact ⟨iff_of_false succeeds succeeds', Or.inr ⟨_, stream, replaced,
      Turn.begins_of_grant bypass.path bypass.mode grant, replaced.goesOnAs⟩⟩

/-! ### A file that is read, and then written

The guest opens the file `f` for reading, and then for writing: it reopens the stream, or it closes
the stream and opens another one. Then it writes a byte. -/

namespace Turned

/-- The path `f`, the modes `r` and `w`, and the byte to write. -/
def memory : Memory := ⟨⟨#[0x66, 0, 0x72, 0, 0x77, 0, 0x2a]⟩, by decide⟩

def host : Host Rehearsal :=
  { files := { store := { files := .ofList [("f", ⟨#[0x31, 0x32]⟩)] }, deniedOpens := ["g"] } }

def first : Turn Rehearsal RehearsedStream := ⟨.initial none host, .asking .fopen [0, 2] memory⟩

def reopening : Turn Rehearsal RehearsedStream :=
  ⟨first.after, .asking .freopen [0, 4, 1] memory⟩

def closing : Turn Rehearsal RehearsedStream := ⟨first.after, .asking .fclose [1] memory⟩

def opening : Turn Rehearsal RehearsedStream := ⟨closing.after, .asking .fopen [0, 4] memory⟩

/-- The byte is written to the stream that was reopened. -/
def writing : Turn Rehearsal RehearsedStream :=
  ⟨reopening.after, .asking .fwrite [6, 1, 1, 1] memory⟩

/-- The byte is written to the second stream. -/
def writing' : Turn Rehearsal RehearsedStream :=
  ⟨opening.after, .asking .fwrite [6, 1, 1, 2] memory⟩

theorem opened : first.opened? = some 1 := by decide +kernel

theorem few : (handles [first]).length < 2 ^ 64 - 1 := by decide +kernel

theorem handle : reopening.arg 2 = 1 := by decide +kernel

theorem live : Live [first] (reopening.arg 2) := by
  rw [handle]
  exact ⟨[], first, [], rfl, opened, nofun⟩

theorem bypasses : reopening.Bypasses closing opening ⟨#[0x66]⟩ ⟨#[0x77]⟩ where
  reopens := by decide +kernel
  path := Memory.loadString_eq_ok_iff.mp (by decide +kernel)
  mode := Memory.loadString_eq_ok_iff.mp (by decide +kernel)
  from_there := rfl
  closes := by decide +kernel
  handle := by decide +kernel
  next := rfl
  opens := by decide +kernel
  path' := Memory.loadString_eq_ok_iff.mp (by decide +kernel)
  mode' := Memory.loadString_eq_ok_iff.mp (by decide +kernel)

theorem run : Transcript (.initial none host) [first] first.after := Transcript.nil.snoc _

theorem run_reopened : Transcript reopening.after [writing] writing.after := Transcript.nil.snoc _

theorem run_opened : Transcript opening.after [writing'] writing'.after := Transcript.nil.snoc _

theorem written : writing.after.host.files.store.content "f" = ⟨#[0x2a]⟩ := by decide +kernel

theorem first_four : ∀ i : Fin 4, writing'.request.arguments[i.val] =
    if Service.fwrite.handlePlace? = some i.val then Equiv.swap 1 2 writing.request.arguments[i.val]
    else writing.request.arguments[i.val] := by decide +kernel

theorem memory_writing : writing.machine.memory = memory := rfl

theorem renamed : writing.machine.Renamed (Equiv.swap 1 2) writing'.machine where
  memory := memory_writing.symm
  request :=
    { number := by decide +kernel
      arguments := by
        intro service hs i h read
        have writes : writing.request.service? = some .fwrite := by decide +kernel
        obtain rfl : Service.fwrite = service := Option.some.inj (writes.symm.trans hs)
        exact first_four ⟨i, read⟩ }
  unopened := by decide +kernel

end Turned

/-- Either way the file has the byte in the end. -/
theorem Transcript.reopens_as_closing_and_opening_turned :
    Turned.reopening.result? = some 1 ∧ Turned.opening.result? = some 2 ∧
      Turned.writing'.after.host.files.store.content "f" =
        Turned.writing.after.host.files.store.content "f" ∧
      Turned.writing.after.host.files.store.content "f" = ⟨#[0x2a]⟩ := by
  obtain ⟨-, lost | ⟨n, stream, replaced, -, goesOn⟩⟩ :=
    Transcript.reopens_as_closing_and_opening Turned.run Turned.few rfl Turned.live Turned.bypasses
  · exact absurd lost.result (by decide +kernel)
  · have two : Turned.opening.result? = some 2 := by decide +kernel
    obtain rfl : n = 2 := Option.some.inj (replaced.result'.symm.trans two)
    rw [Turned.handle] at goesOn
    obtain ⟨-, last⟩ := goesOn Turned.run_reopened Turned.run_opened (.cons Turned.renamed .nil)
    refine ⟨by decide +kernel, two, ?_, Turned.written⟩
    exact congrArg (fun host => host.files.store.content "f") last.host

end Semihosting
