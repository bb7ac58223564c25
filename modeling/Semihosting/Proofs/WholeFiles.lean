import Semihosting.Proofs.CarriedFile
import Semihosting.Proofs.HandleLife
import Semihosting.Proofs.RehearsedStream

/-!
# Saving a whole file

A guest has two ways to leave a piece of its memory in a file. It can ask for the whole file to be
saved, or it can open a stream for writing, write the piece as items of any size, and close the
stream. If the host lets the guest do both, and the piece is within the limits of the second way,
both leave the same host behind, whatever the file was and whichever other streams are open on it.

## Main definitions

* `Turn.Persists`, `Turn.Denied` — what comes of a call to save a piece of memory
* `Rehearsal.Plain` — a name that may be opened and saved, and plays no script
* `Detour` — the same piece is written by way of a stream

## Main results

* `Handler.saveFile_of_held` — a piece that lies in memory is offered to the host
* `Table.insert_insert` — of two values of a key the second one counts
* `Transcript.save_agrees` — saving leaves the bytes of the piece, and so does the detour
-/

namespace Semihosting

open Debugger (panel)

/-! ### The last value counts -/

namespace Table

variable {κ ν : Type} [DecidableEq κ]

theorem assign_assign (entries : List (κ × ν)) (k : κ) (v u : ν) :
    assign (assign entries k v) k u = assign entries k u := by
  induction entries with
  | nil => simp [assign]
  | cons entry rest ih =>
    obtain ⟨head, value⟩ := entry
    by_cases same : head = k
    · simp [assign, same]
    · simp [assign, same, ih]

/-- Of two values that are set for a key the second one counts. -/
theorem insert_insert (t : Table κ ν) (k : κ) (v u : ν) :
    (t.insert k v).insert k u = t.insert k u :=
  ext_entries (assign_assign t.entries k v u)

end Table

/-! ### Whole files -/

/-- A piece that lies in memory is offered to the host under the name that is spelled there. -/
theorem Handler.saveFile_of_held {σ ς : Type} [FileHost σ ς] {memory : Memory} {host : Host σ}
    {path address count : Word} {text : ByteArray} (named : memory.HoldsString path text)
    (held : memory.Holds address count.toNat) :
    saveFile (ς := ς) path address count memory host =
      let name := Utf8.decode text
      let data := Bytes.window memory.bytes address.toNat count.toNat
      match FileHost.save host.files name data with
      | .ok files =>
        { outcome := .ok 0, handler := saver, memory, host := { host with files }
          events := [.fileSaved data.size name] }
      | .error reason =>
        { outcome := .ok (-1), handler := saver, memory, host
          events := [.saveFailed name reason] } := by
  have found := Memory.loadString_eq_ok_iff.mpr named
  have loaded := Memory.load_eq_ok_iff.mpr ⟨held, rfl⟩
  cases saved : FileHost.save host.files (Utf8.decode text)
      (Bytes.window memory.bytes address.toNat count.toNat) with
  | ok files => simp only [saveFile, found, loaded, saved]
  | error reason => simp only [saveFile, found, loaded, saved]

namespace Rehearsal

variable {r : Rehearsal} {name : String} {data : ByteArray}

/-- The rehearsal with a whole file put in place, whatever is denied. -/
def insert (r : Rehearsal) (name : String) (data : ByteArray) : Rehearsal :=
  { r with store := r.store.insert name data }

/-- What is put in place twice is what was put there last. -/
theorem insert_insert (first second : ByteArray) :
    (r.insert name first).insert name second = r.insert name second := by
  simp only [insert, FileStore.insert, Table.insert_insert]

theorem insert_of_get? (stored : r.store.get? name = some data) : r.insert name data = r := by
  rw [insert, FileStore.insert, Table.insert_of_get?_eq_some stored]

theorem save_of_denied (denied : name ∈ r.deniedSaves) :
    FileHost.save r name data = .error .denied := by
  have unfolded : FileHost.save r name data = r.save name data := rfl
  rw [unfolded, save, if_pos (by simpa using denied)]

theorem save_of_allowed (allowed : name ∉ r.deniedSaves) :
    FileHost.save r name data = .ok (r.insert name data) := by
  have unfolded : FileHost.save r name data = r.save name data := rfl
  rw [unfolded, save, if_neg (by simpa using allowed)]
  rfl

/-- The name may be opened and saved, and its streams are on a stored file. -/
structure Plain (r : Rehearsal) (name : String) : Prop where
  opens : name ∉ r.deniedOpens
  saves : name ∉ r.deniedSaves
  /-- No script plays instead of the file. -/
  unscripted : r.scripts.get? name = none

end Rehearsal

namespace Turn

variable {x : Turn Rehearsal RehearsedStream} {path : ByteArray} {name : String}

/-- The call is to save a piece of memory as a file. -/
structure Saving (x : Turn Rehearsal RehearsedStream) (path : ByteArray) : Prop where
  service : x.service? = some .fileWrite
  named : x.memory.HoldsString (x.arg 0) path
  /-- The piece lies in memory. -/
  held : x.memory.Holds (x.arg 1) (x.arg 2).toNat

/-- The piece of memory that the call names. -/
def portion (x : Turn Rehearsal RehearsedStream) : ByteArray :=
  Bytes.window x.memory.bytes (x.arg 1).toNat (x.arg 2).toNat

/-- The file has the bytes of the piece, as many as the call says. No other file has changed, no
stream and no byte of memory. -/
structure Persists (x : Turn Rehearsal RehearsedStream) (name : String) : Prop where
  result : x.result? = some 0
  memory : x.serviced.machine.memory = x.memory
  handlers : x.after.debugger.handlers = x.debugger.handlers
  size : x.portion.size = (x.arg 2).toNat
  host : x.after.host = { x.host with files := x.host.files.insert name x.portion }

/-- The host has refused, and nothing has changed. -/
structure Denied (x : Turn Rehearsal RehearsedStream) : Prop where
  result : x.result? = some (-1)
  memory : x.serviced.machine.memory = x.memory
  handlers : x.after.debugger.handlers = x.debugger.handlers
  host : x.after.host = x.host

/-- The host saves the piece unless it denies the name. -/
theorem Saving.persists_or_refused (saving : x.Saving path)
    (session : ∃ t f c, x.debugger.handlers = panel t f c) :
    (Utf8.decode path ∈ x.host.files.deniedSaves → x.Denied) ∧
      (Utf8.decode path ∉ x.host.files.deniedSaves → x.Persists (Utf8.decode path)) := by
  obtain ⟨t, f, c, h⟩ := session
  have answer := answer?_fileWrite h saving.service
  rw [Handler.saveFile_of_held saving.named saving.held] at answer
  dsimp only at answer
  constructor
  · intro denied
    rw [Rehearsal.save_of_denied denied] at answer
    refine ⟨result?_eq answer, memory_serviced answer, ?_, host_after answer⟩
    rw [handlers_after answer, h]
    rfl
  · intro allowed
    rw [Rehearsal.save_of_allowed allowed] at answer
    refine ⟨result?_eq answer, memory_serviced answer, ?_, ?_, host_after answer⟩
    · rw [handlers_after answer, h]
      rfl
    · exact saving.held.size_window

end Turn

/-! ### By way of a stream -/

/-- What a call to save would save is written by way of a stream instead, from the same stage and
the same memory: the path is opened in the mode `w`, the piece is written in items of some size, and
the stream is closed. -/
structure Detour (x opening writing closing : Turn Rehearsal RehearsedStream) : Prop where
  opens : opening.service? = some .fopen
  /-- It sets out where the other way does. -/
  start : opening.toStage = x.toStage ∧ opening.memory = x.memory
  path : opening.arg 0 = x.arg 0
  /-- The mode lies somewhere in memory. -/
  mode : x.memory.HoldsString (opening.arg 1) ⟨#[0x77]⟩
  writes : writing.service? = some .fwrite
  opened : writing.toStage = opening.after ∧ writing.memory = opening.serviced.machine.memory
  source : writing.arg 0 = x.arg 1
  size : 0 < (writing.arg 1).toNat
  /-- The items make up the piece. -/
  length : writing.length = (x.arg 2).toNat
  handle : writing.arg 3 = opening.returned
  closes : closing.service? = some .fclose ∧ closing.arg 0 = opening.returned
  written : closing.toStage = writing.after

/-- A stream at the start of an empty file takes all that is within the limit. -/
theorem OpenFile.drain_staged_empty {r : Rehearsal} {name : String} {data : ByteArray}
    (empty : r.store.get? name = some .empty) (pos : 0 < data.size)
    (room : data.size ≤ r.store.limit) :
    (writing name 0).staged.drain r data =
      { count := data.size
        files := r.insert name data
        file := (writing name data.size).staged } := by
  have drained := drain_writing empty pos (by rw [ByteArray.size_empty, Nat.zero_add]; exact room)
  rw [ByteArray.empty_append, ByteArray.size_empty] at drained
  rw [drain_staged, drained, Rehearsal.insert]

namespace Turn

variable {x : Turn Rehearsal RehearsedStream} {t : StreamTable RehearsedStream}
variable {rest : List (Handler RehearsedStream)} {path : ByteArray} {name : String}
variable {w : Word} {store : FileStore}

/-- A plain name that is opened for writing is an empty file, with a stream at its start. -/
theorem opens_plain (h : x.debugger.handlers = .streams t :: rest) (hs : x.service? = some .fopen)
    (named : x.memory.HoldsString (x.arg 0) path)
    (spelled : x.memory.HoldsString (x.arg 1) ⟨#[0x77]⟩)
    (plain : x.host.files.Plain (Utf8.decode path)) :
    x.result? = some t.next ∧ x.serviced.machine.memory = x.memory ∧
      (∃ t', x.after.debugger.handlers = .streams t' :: rest ∧
        t'.get? t.next = some (OpenFile.writing (Utf8.decode path) 0).staged) ∧
      x.after.host = { x.host with files := x.host.files.insert (Utf8.decode path) .empty } := by
  have grant : x.granted? = some (x.host.files.insert (Utf8.decode path) .empty,
      .stored { name := Utf8.decode path, mode := { purpose := .write } }) :=
    StreamTable.grant?_eq_some_iff.mpr
      ⟨path, _, _, named, spelled, rfl, Rehearsal.openFile_stored plain.opens plain.unscripted⟩
  have answer := answer?_of_streams h (react?_of_service hs)
  rw [StreamTable.fopen_of_grant grant] at answer
  refine ⟨result?_eq answer, memory_serviced answer, ⟨_, handlers_after answer, ?_⟩,
    host_after answer⟩
  exact (StreamTable.get?_put ..).trans (if_pos rfl)

/-- The first write to a stream on an empty file leaves the piece of memory in it, if the piece is
within the limits. -/
theorem writes_piece (h : x.debugger.handlers = .streams t :: rest)
    (hs : x.service? = some .fwrite)
    (live : t.get? (x.arg 3) = some (OpenFile.writing name 0).staged)
    (empty : x.host.files.store.get? name = some .empty) (size : 0 < (x.arg 1).toNat)
    (small : x.length ≤ StreamTable.transferLimit) (room : x.length ≤ x.host.files.store.limit)
    (held : x.memory.Holds (x.arg 0) x.length) :
    x.result? = some (x.arg 2) ∧
      (∃ t' file, x.after.debugger.handlers = .streams t' :: rest ∧
        t'.get? (x.arg 3) = some (OpenFile.staged file)) ∧
      x.after.host = { x.host with
        files := x.host.files.insert name
          (Bytes.window x.memory.bytes (x.arg 0).toNat x.length) } := by
  have answer := answer?_of_streams h (react?_of_service hs)
  rcases Nat.eq_zero_or_pos x.length with nothing | pos
  · -- A piece without bytes has no items, and the file is as empty as before.
    have none : x.arg 2 = 0 := by
      rw [length, Nat.mul_eq_zero] at nothing
      rw [← UInt64.toNat_inj]
      exact nothing.resolve_left (Nat.ne_of_gt size)
    rw [StreamTable.fwrite_of_idle small (Or.inl nothing)] at answer
    refine ⟨by rw [result?_eq answer, none]; rfl, ⟨_, _, handlers_after answer, live⟩, ?_⟩
    rw [nothing, Bytes.window_zero, Rehearsal.insert_of_get? empty]
    exact host_after answer
  · obtain ⟨data, hdata⟩ : ∃ data, data = Bytes.window x.memory.bytes (x.arg 0).toNat x.length :=
      ⟨_, rfl⟩
    have full : data.size = x.length := by rw [hdata, held.size_window]
    rw [StreamTable.fwrite_of_held pos small live held] at answer
    dsimp only at answer
    rw [← length, ← hdata,
      OpenFile.drain_staged_empty empty (by omega) (by rw [full]; exact room)] at answer
    have items : data.size / (x.arg 1).toNat = (x.arg 2).toNat := by
      rw [full, length, Nat.mul_div_cancel_left _ size]
    refine ⟨?_, ⟨_, OpenFile.writing name data.size, handlers_after answer, ?_⟩, ?_⟩
    · rw [result?_eq answer]
      simp only [Answer.map, Except.toOption, items, UInt64.ofNat_toNat]
    · exact (StreamTable.get?_put ..).trans (if_pos rfl)
    · rw [← hdata]
      exact host_after answer

/-- A stream on a stored file closes well, and changes no file. -/
theorem closes_stored {file : OpenFile StoredStream}
    (h : x.debugger.handlers = .streams t :: rest) (hs : x.service? = some .fclose)
    (live : t.get? (x.arg 0) = some file.staged) :
    x.result? = some 0 ∧ x.after.host = x.host := by
  have answer := answer?_of_streams h (react?_of_service hs)
  refine ⟨?_, host_after answer⟩
  rw [result?_eq answer, Answer.map, StreamTable.fclose, live]
  rfl

end Turn

/-- Every call of the detour goes well, and the piece is in the file. -/
theorem Detour.comes_through {x opening writing closing : Turn Rehearsal RehearsedStream}
    {t : StreamTable RehearsedStream} {rest : List (Handler RehearsedStream)} {path : ByteArray}
    (detour : Detour x opening writing closing) (saving : x.Saving path)
    (h : x.debugger.handlers = .streams t :: rest) (plain : x.host.files.Plain (Utf8.decode path))
    (small : (x.arg 2).toNat ≤ StreamTable.transferLimit)
    (room : (x.arg 2).toNat ≤ x.host.files.store.limit) :
    opening.result? = some t.next ∧ writing.result? = some (writing.arg 2) ∧
      closing.result? = some 0 ∧
      closing.after.host =
        { x.host with files := x.host.files.insert (Utf8.decode path) x.portion } := by
  -- The detour sets out from the stage and the memory of the call.
  obtain ⟨stage, memory⟩ := detour.start
  obtain ⟨opened, unchanged, ⟨t', handlers, live⟩, host⟩ := Turn.opens_plain
    (by rw [stage]; exact h) detour.opens (by rw [memory, detour.path]; exact saving.named)
    (by rw [memory]; exact detour.mode) (by rw [stage]; exact plain)
  have returned : opening.returned = t.next := by rw [Turn.returned, opened, Option.getD_some]
  rw [stage] at host
  -- The file is empty now, and the piece lies where it lay.
  obtain ⟨stage', memory'⟩ := detour.opened
  rw [← stage'] at handlers host
  rw [unchanged, memory] at memory'
  have held := saving.held
  have empty : writing.host.files.store.get? (Utf8.decode path) = some .empty := by
    rw [host]
    exact (FileStore.get?_insert ..).trans (if_pos rfl)
  obtain ⟨written, ⟨t'', file, handlers', live'⟩, host'⟩ := Turn.writes_piece handlers
    detour.writes (by rw [detour.handle, returned]; exact live) empty detour.size
    (by rw [detour.length]; exact small) (by rw [detour.length, host]; exact room)
    (by rw [memory', detour.source, detour.length]; exact held)
  -- Closing the stream leaves the file as it is.
  rw [← detour.written] at handlers' host'
  obtain ⟨closed, left⟩ := Turn.closes_stored handlers' detour.closes.1
    (by rw [detour.closes.2, ← detour.handle]; exact live')
  refine ⟨opened, written, closed, ?_⟩
  rw [left, host', host, memory', detour.source, detour.length]
  dsimp only
  rw [Rehearsal.insert_insert, Turn.portion]

/-! ### A file that is open already

The file `f` is longer than the piece, and a stream is open on it when two bytes are saved. -/

namespace OpenAlready

/-- The path `f`, the modes `r+` and `w`, and two bytes to save. -/
def memory : Memory := ⟨⟨#[0x66, 0, 0x72, 0x2b, 0, 0x77, 0, 0x78, 0x79]⟩, by decide⟩

def files : Rehearsal :=
  { store := { files := .ofList [("f", ⟨#[1, 2, 3]⟩)], limit := 2 }, deniedSaves := ["g"] }

def before : Turn Rehearsal RehearsedStream :=
  ⟨.initial none { files }, .asking .fopen [0, 2] memory⟩

def saving : Turn Rehearsal RehearsedStream := ⟨before.after, .asking .fileWrite [0, 7, 2] memory⟩

def opening : Turn Rehearsal RehearsedStream := ⟨before.after, .asking .fopen [0, 5] memory⟩

/-- One item of two bytes. -/
def writing : Turn Rehearsal RehearsedStream :=
  ⟨opening.after, .asking .fwrite [7, 2, 1, 2] memory⟩

def closing : Turn Rehearsal RehearsedStream := ⟨writing.after, .asking .fclose [2] memory⟩

theorem run : Transcript (.initial none { files }) [before] saving.toStage := Transcript.nil.snoc _

theorem name_eq : Utf8.decode ⟨#[0x66]⟩ = "f" := by cbv

theorem returned_opening : opening.returned = 2 := by cbv

theorem saves : saving.Saving ⟨#[0x66]⟩ :=
  ⟨by cbv, Memory.loadString_eq_ok_iff.mp (by cbv), by decide +kernel⟩

theorem detour : Detour saving opening writing closing where
  opens := by cbv
  start := ⟨rfl, by cbv⟩
  path := by cbv
  mode := Memory.loadString_eq_ok_iff.mp (by cbv)
  writes := by cbv
  opened := ⟨rfl, by cbv⟩
  source := by cbv
  size := by decide +kernel
  length := by cbv
  handle := by rw [returned_opening]; cbv
  closes := ⟨by cbv, by rw [returned_opening]; cbv⟩
  written := rfl

theorem plain : saving.host.files.Plain "f" := ⟨by decide +kernel, by decide +kernel, by cbv⟩

end OpenAlready

/-- A piece of memory that is saved is the content of its file from then on, and nothing else has
changed, unless the host denies the name. If the name is plain and the piece within the limits, it
can be written by way of a stream as well. Every call of the detour goes well, and it leaves the
same host. -/
theorem Transcript.save_agrees {content : Option ByteArray} {host : Host Rehearsal}
    {turns : List (Turn Rehearsal RehearsedStream)} {x : Turn Rehearsal RehearsedStream}
    {path : ByteArray} (run : Transcript (.initial content host) turns x.toStage)
    (saving : x.Saving path) :
    (Utf8.decode path ∈ x.host.files.deniedSaves → x.Denied) ∧
      (Utf8.decode path ∉ x.host.files.deniedSaves → x.Persists (Utf8.decode path)) ∧
      ∀ opening writing closing, Detour x opening writing closing →
        x.host.files.Plain (Utf8.decode path) →
        (x.arg 2).toNat ≤ StreamTable.transferLimit →
        (x.arg 2).toNat ≤ x.host.files.store.limit →
        ((handles turns).length < 2 ^ 64 - 1 → opening.returned ≠ 0) ∧
          opening.result? = some opening.returned ∧
          writing.result? = some (writing.arg 2) ∧
          closing.result? = some 0 ∧
          closing.after.host = x.after.host := by
  have session := Stage.Reachable.exists_panel ⟨content, host, turns, run⟩
  obtain ⟨refused, persists⟩ := saving.persists_or_refused session
  refine ⟨refused, persists, fun opening writing closing detour plain small room => ?_⟩
  obtain ⟨t, f, c, h⟩ := session
  obtain ⟨opened, written, closed, left⟩ := detour.comes_through saving h plain small room
  have returned : opening.returned = t.next := by rw [Turn.returned, opened, Option.getD_some]
  refine ⟨fun few zero => ?_, by rw [opened, returned], written, closed, ?_⟩
  · -- The counter has not come round.
    obtain ⟨t', rest, h', tracks⟩ := run.exists_tracks rfl few
    obtain rfl : t' = t := (Debugger.table_eq h').symm.trans (Debugger.table_eq h)
    have next := tracks.next
    rw [← returned, zero, UInt64.toNat_zero] at next
    omega
  · rw [left, (persists plain.saves).host]

/-- Of the file that was open already, the two bytes are left, either way. -/
theorem save_agrees_openAlready :
    OpenAlready.saving.Persists "f" ∧ OpenAlready.opening.returned ≠ 0 ∧
      OpenAlready.writing.result? = some 1 ∧ OpenAlready.closing.result? = some 0 ∧
      OpenAlready.closing.after.host = OpenAlready.saving.after.host := by
  obtain ⟨-, persists, agrees⟩ :=
    Transcript.save_agrees OpenAlready.run OpenAlready.saves
  rw [OpenAlready.name_eq] at persists agrees
  obtain ⟨nonzero, -, written, closed, left⟩ := agrees _ _ _ OpenAlready.detour OpenAlready.plain
    (by decide +kernel) (by decide +kernel)
  refine ⟨persists OpenAlready.plain.saves, nonzero (by decide +kernel), ?_, closed, left⟩
  rw [written]
  cbv

end Semihosting
