import Semihosting.Proofs.Handles
import Semihosting.Proofs.StoredFile

/-!
# What a call does to the host's files

Three kinds of calls reach the files of a host: those that open a stream, `fwrite`, and the call
that saves a whole file. On a store each of them is about one file, and all others stay as they
are.

## Main definitions

* `Turn.FilesStep` — all that a call can do to the files
* `Turn.Targets` — the call is about to empty, to write or to replace a file
* `Turn.Spares` — the call leaves a file alone

## Main results

* `Turn.filesStep` — every call of a debugging session takes such a step
* `Turn.get?_after` — a file that a call spares stays as it is
-/

namespace Semihosting

open Debugger (panel)

/-! ### Services that leave the host alone -/

namespace StreamTable

variable {σ ς : Type} [FileHost σ ς] {t : StreamTable ς} {memory : Memory} {host : Host σ}
variable {number address size count handle : Word}

theorem host_fread : (t.fread number address size count handle memory host).host = host := by
  unfold fread
  split
  · rfl
  · rfl
  · rfl
  · dsimp only
    split <;> rfl

theorem host_fgetc : (t.fgetc handle memory host).host = host := by
  unfold fgetc
  split <;> rfl

theorem host_ftell : (t.ftell handle memory host).host = host := by
  unfold ftell
  split <;> rfl

theorem host_fseek {offset origin : Word} :
    (t.fseek handle offset origin memory host).host = host := by
  unfold fseek
  split
  · rfl
  · rfl
  · split <;> rfl

end StreamTable

theorem InputFeed.host_deliver {σ : Type} {f : InputFeed} {buffer length : Word} {memory : Memory}
    {host : Host σ} : (f.deliver buffer length memory host).host = host := by
  unfold deliver
  split
  · rfl
  · split
    · rfl
    · split
      · split <;> rfl
      · dsimp only
        split
        · rfl
        · split <;> rfl

/-- Writing prints lines and leaves the files alone. -/
theorem Console.files_write {σ : Type} {c : Console} {descriptor address count : Word}
    {memory : Memory} {host : Host σ} :
    (c.write descriptor address count memory host).host.files = host.files := by
  unfold write
  split
  · split <;> rfl
  · rfl

namespace Turn

/-! ### Steps of the files -/

section Step

variable {σ ς : Type} [FileHost σ ς] {x : Turn σ ς} {t : StreamTable ς} {f : InputFeed}
variable {c : Console}

/-- All that a call can do to the files of the host. -/
inductive FilesStep (x : Turn σ ς) : σ → Prop
  | same : FilesStep x x.host.files
  | opened {files : σ} {stream : ς}
      (service : x.service? = some .fopen ∨ x.service? = some .freopen)
      (grant : x.granted? = some (files, stream)) : FilesStep x files
  /-- A stream is written to. -/
  | drained {file : OpenFile ς} {data : ByteArray} (service : x.service? = some .fwrite)
      (live : x.debugger.table.get? (x.arg 3) = some file) :
      FilesStep x (file.drain x.host.files data).files
  /-- A whole file is saved. -/
  | saved {path data : ByteArray} {files : σ} (service : x.service? = some .fileWrite)
      (named : x.memory.HoldsString (x.arg 0) path)
      (stored : FileHost.save x.host.files (Utf8.decode path) data = .ok files) : FilesStep x files

theorem FilesStep.of_eq {files : σ} (h : files = x.host.files) : x.FilesStep files :=
  h ▸ .same

theorem filesStep_fopen (hs : x.service? = some .fopen) :
    x.FilesStep (t.fopen (x.arg 0) (x.arg 1) x.memory x.host).host.files := by
  rcases StreamTable.grant_cases x.memory x.host (x.arg 0) (x.arg 1) with
    ⟨fault, lacks⟩ | ⟨strings, denied⟩ | ⟨files, stream, grant⟩
  · rw [StreamTable.fopen_of_lacks lacks]
    exact .same
  · obtain ⟨event, answer⟩ := StreamTable.fopen_of_denied (t := t) strings denied
    rw [answer]
    exact .same
  · rw [StreamTable.fopen_of_grant grant]
    exact .opened (Or.inl hs) grant

theorem filesStep_freopen (hs : x.service? = some .freopen) :
    x.FilesStep (t.freopen (x.arg 0) (x.arg 1) (x.arg 2) x.memory x.host).host.files := by
  rcases x.memory.holdsStrings_or_lacksStrings (x.arg 0) (x.arg 1) with strings | ⟨fault, lacks⟩
  · cases live : t.get? (x.arg 2) with
    | none =>
      rw [StreamTable.freopen_of_dead strings live]
      exact .same
    | some file =>
      cases grant : x.granted? with
      | none =>
        obtain ⟨event, denied⟩ := StreamTable.freopen_of_denied strings live grant
        rw [denied]
        exact .same
      | some opened =>
        rw [StreamTable.freopen_of_grant live grant]
        exact .opened (Or.inr hs) grant
  · rw [StreamTable.freopen_of_lacks lacks]
    exact .same

theorem filesStep_fwrite (table : x.debugger.table = t) (hs : x.service? = some .fwrite) :
    x.FilesStep (t.fwrite x.request.number (x.arg 0) (x.arg 1) (x.arg 2) (x.arg 3) x.memory
      x.host).host.files := by
  rcases t.transfer_cases (x.arg 1) (x.arg 2) (x.arg 3) with
    large | ⟨small, idle⟩ | ⟨file, live, pos, small⟩
  · rw [StreamTable.fwrite_of_large large]
    exact .same
  · rw [StreamTable.fwrite_of_idle small idle]
    exact .same
  · rw [StreamTable.fwrite_of_live pos small live]
    -- If the data cannot be read from memory, the host is not asked.
    split
    · exact .same
    · exact .drained hs (by rw [table]; exact live)

theorem filesStep_fileWrite (hs : x.service? = some .fileWrite) :
    x.FilesStep
      (Handler.saveFile (ς := ς) (x.arg 0) (x.arg 1) (x.arg 2) x.memory x.host).host.files := by
  unfold Handler.saveFile
  split
  · exact .same
  · exact .same
  · next path data named loaded =>
    dsimp only
    split
    · next files stored => exact .saved hs (Memory.loadString_eq_ok_iff.mp named) stored
    · exact .same

/-- Every call of a debugging session takes such a step. -/
theorem filesStep (h : x.debugger.handlers = panel t f c) : x.FilesStep x.after.host.files := by
  cases hs : x.service? with
  | none =>
    rw [after_of_none (answer?_unknown h hs)]
    exact .same
  | some service =>
    -- The files after the call are those that the service leaves behind.
    have streams {act : Reaction (StreamTable ς) σ} (hact : t.react? x.request = some act) :
        x.after.host = (act x.memory x.host).host := host_after (answer?_streams h hact)
    have hact := react?_of_service (t := t) hs
    cases service with
    | fopen =>
      rw [streams hact]
      exact filesStep_fopen hs
    | freopen =>
      rw [streams hact]
      exact filesStep_freopen hs
    | fwrite =>
      rw [streams hact]
      exact filesStep_fwrite (Debugger.table_eq h) hs
    | fread =>
      rw [streams hact, StreamTable.host_fread]
      exact .same
    | fgetc =>
      rw [streams hact, StreamTable.host_fgetc]
      exact .same
    | ftell =>
      rw [streams hact, StreamTable.host_ftell]
      exact .same
    | fseek =>
      rw [streams hact, StreamTable.host_fseek]
      exact .same
    | feof | ferror | fclose =>
      rw [streams hact]
      exact .same
    | fileWrite =>
      rw [host_after (answer?_fileWrite h hs)]
      exact filesStep_fileWrite hs
    | readStream =>
      rw [host_after (answer?_readStream h hs), Answer.map, InputFeed.host_deliver]
      exact .same
    | write =>
      rw [host_after (answer?_write h hs), Answer.map]
      exact .of_eq Console.files_write
    | read =>
      rw [host_after (answer?_read h hs)]
      exact .same
    | close =>
      rw [host_after (answer?_close h hs)]
      exact .same
    | random =>
      rw [host_after (answer?_random h hs)]
      exact .same
    | timestamp =>
      rw [host_after (answer?_timestamp h hs)]
      exact .same

end Step

/-! ### One file of a store -/

section Store

variable {x : Turn FileStore StoredStream} {t : StreamTable StoredStream} {f : InputFeed}
variable {c : Console} {name : String} {content : ByteArray} {files : FileStore}

/-- The call is about to empty, to write or to replace a file. -/
inductive Targets (x : Turn FileStore StoredStream) (name : String) : Prop
  /-- It opens the file in a mode that empties it. -/
  | empties {path letters : ByteArray} {mode : OpenMode}
      (service : x.service? = some .fopen ∨ x.service? = some .freopen)
      (named : x.memory.HoldsString (x.arg 0) path) (same : Utf8.decode path = name)
      (spelled : x.memory.HoldsString (x.arg 1) letters)
      (parsed : OpenMode.parse? letters = some mode) (truncates : mode.truncates = true) :
      Targets x name
  /-- It writes to a stream on the file. -/
  | writes {file : OpenFile StoredStream} (service : x.service? = some .fwrite)
      (live : x.debugger.table.get? (x.arg 3) = some file) (same : file.stream.name = name) :
      Targets x name
  /-- It saves the file as a whole. -/
  | saves {path : ByteArray} (service : x.service? = some .fileWrite)
      (named : x.memory.HoldsString (x.arg 0) path) (same : Utf8.decode path = name) :
      Targets x name

/-- The call leaves a file alone: the file is not its target, or comes to no harm. -/
def Spares (x : Turn FileStore StoredStream) (name : String) : Prop :=
  x.Targets name → x.after.host.files.get? name = x.host.files.get? name

/-- A step keeps the limit of a store, and every file that is not its target. -/
theorem FilesStep.keeps (step : x.FilesStep files) :
    files.limit = x.host.files.limit ∧ ∀ name content, ¬ x.Targets name →
      x.host.files.get? name = some content → files.get? name = some content := by
  cases step with
  | same => exact ⟨rfl, fun _ _ _ stored => stored⟩
  | opened service grant =>
    obtain ⟨path, letters, mode, named, spelled, parsed, opened⟩ :=
      StreamTable.grant?_eq_some_iff.mp grant
    obtain ⟨limit, others⟩ := FileStore.openFile_keeps opened
    refine ⟨limit, fun name content spared stored => others name content stored fun same => ?_⟩
    -- The mode does not empty the file, for else the file were the target.
    rw [← Bool.not_eq_true]
    intro truncates
    exact spared (.empties service named same.symm spelled parsed truncates)
  | @drained file data service live =>
    -- Every request of a transfer is about the one file of its stream.
    obtain ⟨limit, others⟩ := FileStore.drain_keeps x.host.files file data
    refine ⟨limit, fun name content spared stored => ?_⟩
    rw [others name fun same => spared (.writes service live same.symm)]
    exact stored
  | @saved path data files service named stored =>
    -- A store refuses no file.
    have replaced : files = x.host.files.insert (Utf8.decode path) data := by
      cases stored
      rfl
    rw [replaced]
    refine ⟨rfl, fun name content spared stored => ?_⟩
    rw [FileStore.get?_insert, if_neg fun same => spared (.saves service named same.symm)]
    exact stored

theorem limit_after (h : x.debugger.handlers = panel t f c) :
    x.after.host.files.limit = x.host.files.limit :=
  (filesStep h).keeps.1

/-- A file that a call spares stays as it is. -/
theorem get?_after (h : x.debugger.handlers = panel t f c) (spares : x.Spares name)
    (stored : x.host.files.get? name = some content) :
    x.after.host.files.get? name = some content := by
  by_cases targets : x.Targets name
  · rw [spares targets, stored]
  · exact (filesStep h).keeps.2 name content targets stored

end Store

end Turn

end Semihosting
