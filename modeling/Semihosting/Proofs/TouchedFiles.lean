import Semihosting.Proofs.FileLimit
import Semihosting.Proofs.StoredNames

/-!
# Which file a call may touch

A call of a debugging session touches at most one stored file, and it needs a reason: it saves the
file as a whole, it opens the file in a mode that empties or creates it, or it writes to a stream
that was last opened on the file in a mode that allows it. A stream keeps the name and the mode of
that open, so the history of a handle tells which file it can touch, and whether it can at all.

## Main definitions

* `Turn.Touches` — the call adds a file or changes its content
* `Turn.OpensAs` — the call opens a file under a handle
* `LastOpened` — the last open of a handle in a run
* `Turn.Touching` — the reasons for which a file is touched
* `Turn.Refused` — why an open cannot be granted

## Main results

* `Transcript.lastOpened` — every open stream is as the last open of its handle says
* `Turn.touching_of_touches` — a file that is touched is touched for one of the reasons
* `Transcript.touches_one` — after any run, what a call may do to the stored files
-/

namespace Semihosting

open Debugger (panel)

variable {x : Turn FileStore StoredStream} {turns : List (Turn FileStore StoredStream)}
variable {t : StreamTable StoredStream} {rest : List (Handler StoredStream)} {w : Word}
variable {f : InputFeed} {c : Console} {name other : String} {mode : OpenMode}
variable {file : OpenFile StoredStream}

/-! ### The last of several events -/

/-- Two events that both put an end to what was before can only be last together. -/
theorem Since.both {α : Type} {history : List α} {first second ends : α → Prop}
    (h : Since history first ends) (h' : Since history second ends)
    (last : ∀ a, first a → ends a) (last' : ∀ a, second a → ends a) :
    ∃ a, first a ∧ second a := by
  induction history using List.reverseRecOn with
  | nil => exact absurd h not_since_nil
  | append_singleton history a ih =>
    rcases since_snoc_iff.mp h with now | ⟨before, stays⟩
    · rcases since_snoc_iff.mp h' with now' | ⟨-, stays'⟩
      · exact ⟨a, now, now'⟩
      · exact absurd (last a now) stays'
    · rcases since_snoc_iff.mp h' with now' | ⟨before', -⟩
      · exact absurd (last' a now') stays
      · exact ih before before'

/-! ### What an open does to a store -/

namespace FileStore

variable {s files : FileStore} {stream : StoredStream} {data : ByteArray}

/-- A file that is missing is opened only if the mode creates it. -/
theorem creates_of_openFile (opened : FileHost.openFile s name mode = .ok (files, stream))
    (missing : s.get? name = none) : mode.purpose = .write ∨ mode.purpose = .append := by
  have unfolded : FileHost.openFile s name mode = s.openFile name mode := rfl
  rw [unfolded, openFile, missing] at opened
  cases purpose : mode.purpose with
  | read => simp [OpenMode.creates, purpose] at opened
  | write => exact Or.inl rfl
  | append => exact Or.inr rfl

/-- A file that is there is opened only if the mode does not ask for a new one. -/
theorem not_exclusive_of_openFile (opened : FileHost.openFile s name mode = .ok (files, stream))
    (has : s.Has name) : mode.exclusive = false := by
  have unfolded : FileHost.openFile s name mode = s.openFile name mode := rfl
  obtain ⟨content, stored⟩ := Option.isSome_iff_exists.mp has
  rw [unfolded, openFile, stored] at opened
  cases exclusive : mode.exclusive with
  | false => rfl
  | true => simp [exclusive] at opened

/-- A write changes the file of its stream only, and only if the mode allows it. -/
theorem writable_of_drain (changed : (file.drain s data).files.get? name ≠ s.get? name) :
    name = file.stream.name ∧ file.stream.mode.writable = true := by
  have same : name = file.stream.name := by
    by_contra other
    exact changed ((drain_keeps s file data).2 name other)
  refine ⟨same, ?_⟩
  rw [drain_eq] at changed
  dsimp only at changed
  split at changed
  · exact absurd rfl changed
  · next some => exact writable_of_pos (Nat.pos_of_ne_zero some)

end FileStore

namespace Turn

/-! ### Reasons to touch a file -/

/-- The call adds a file, or changes its content. -/
def Touches (x : Turn FileStore StoredStream) (name : String) : Prop :=
  x.after.host.files.get? name ≠ x.host.files.get? name

/-- The call opens a file under a handle, with success. -/
structure OpensAs (x : Turn FileStore StoredStream) (w : Word) (name : String) (mode : OpenMode) :
    Prop where
  renews : x.Renews w
  named : ∃ path, x.memory.HoldsString (x.arg 0) path ∧ Utf8.decode path = name
  spelled : ∃ letters, x.memory.HoldsString (x.arg 1) letters ∧
    OpenMode.parse? letters = some mode
  /-- The new stream is at the start of the file. -/
  opened : x.after.debugger.table.get? w = some { stream := { name, mode } }

end Turn

/-- The last call in a run that has opened a stream under the handle has opened this file, in this
mode. -/
def LastOpened (turns : List (Turn FileStore StoredStream)) (w : Word) (name : String)
    (mode : OpenMode) : Prop :=
  Since turns (·.OpensAs w name mode) (·.Renews w)

/-- There is one last open of a handle. -/
theorem LastOpened.unique {mode' : OpenMode} (h : LastOpened turns w name mode)
    (h' : LastOpened turns w other mode') : name = other ∧ mode = mode' := by
  obtain ⟨y, opens, opens'⟩ := h.both h' (fun _ opens => opens.renews) (fun _ opens => opens.renews)
  have same := opens.opened.symm.trans opens'.opened
  simp only [Option.some.injEq, OpenFile.mk.injEq, StoredStream.mk.injEq, and_true] at same
  exact same

namespace Turn

/-- The reasons for which a call touches a file, after a run. -/
inductive Touching (turns : List (Turn FileStore StoredStream)) (x : Turn FileStore StoredStream)
    (name : String) : Prop
  /-- The file is saved as a whole. -/
  | saved {data : ByteArray} (saves : x.Saves name data)
      (put : x.after.host.files.get? name = some data) : Touching turns x name
  /-- The file is opened to be written from scratch, and is empty then. -/
  | emptied {w : Word} {mode : OpenMode} (opens : x.OpensAs w name mode)
      (purpose : mode.purpose = .write) (empty : x.after.host.files.get? name = some .empty) :
      Touching turns x name
  /-- The file was missing and is opened for appending. It is empty then. -/
  | created {w : Word} {mode : OpenMode} (opens : x.OpensAs w name mode)
      (purpose : mode.purpose = .append) (missing : x.host.files.get? name = none)
      (empty : x.after.host.files.get? name = some .empty) : Touching turns x name
  /-- A stream is written to that was last opened on the file, in a mode that allows it. -/
  | written {mode : OpenMode} (service : x.service? = some .fwrite)
      (live : (x.debugger.table.get? (x.arg 3)).isSome)
      (last : LastOpened turns (x.arg 3) name mode) (writable : mode.writable = true) :
      Touching turns x name

/-- An open that the guest asks for cannot be granted. -/
inductive Refused (x : Turn FileStore StoredStream) : Prop
  /-- The letters spell no mode. -/
  | misspelled {letters : ByteArray} (spelled : x.memory.HoldsString (x.arg 1) letters)
      (rejected : OpenMode.parse? letters = none) : Refused x
  /-- The file is to be read and is missing. -/
  | missing {path letters : ByteArray} {mode : OpenMode}
      (named : x.memory.HoldsString (x.arg 0) path)
      (spelled : x.memory.HoldsString (x.arg 1) letters)
      (parsed : OpenMode.parse? letters = some mode) (reads : mode.purpose = .read)
      (missing : ¬ x.host.files.Has (Utf8.decode path)) : Refused x
  /-- The file is to be new and is there. -/
  | taken {path letters : ByteArray} {mode : OpenMode}
      (named : x.memory.HoldsString (x.arg 0) path)
      (spelled : x.memory.HoldsString (x.arg 1) letters)
      (parsed : OpenMode.parse? letters = some mode) (exclusive : mode.exclusive = true)
      (has : x.host.files.Has (Utf8.decode path)) : Refused x

/-! ### Opens -/

/-- A string in memory is read one way only. -/
theorem holdsString_unique {m : Memory} {address : Word} {a b : ByteArray}
    (h : m.HoldsString address a) (h' : m.HoldsString address b) : a = b := by
  rw [← Memory.loadString_eq_ok_iff] at h h'
  exact Except.ok.inj (h.symm.trans h')

theorem granted?_of_refused (refused : x.Refused) : x.granted? = none := by
  rw [Option.eq_none_iff_forall_ne_some]
  rintro ⟨files, stream⟩ grant
  obtain ⟨path, letters, mode, named, spelled, parsed, opened⟩ :=
    StreamTable.grant?_eq_some_iff.mp grant
  cases refused with
  | misspelled spelled' rejected =>
    rw [holdsString_unique spelled' spelled, parsed] at rejected
    cases rejected
  | missing named' spelled' parsed' reads missing =>
    rw [holdsString_unique spelled' spelled, parsed] at parsed'
    cases parsed'
    rw [holdsString_unique named' named] at missing
    have none : x.host.files.get? (Utf8.decode path) = none :=
      Option.not_isSome_iff_eq_none.mp missing
    rcases FileStore.creates_of_openFile opened none with write | append
    · simp [reads] at write
    · simp [reads] at append
  | taken named' spelled' parsed' exclusive has =>
    rw [holdsString_unique spelled' spelled, parsed] at parsed'
    cases parsed'
    rw [holdsString_unique named' named] at has
    rw [FileStore.not_exclusive_of_openFile opened has] at exclusive
    cases exclusive

section Opens

variable (h : x.debugger.handlers = .streams t :: rest)
include h

/-- An open leaves the host as it is, or has opened a file. -/
theorem same_or_opensAs (service : x.service? = some .fopen ∨ x.service? = some .freopen) :
    x.after.host = x.host ∨ ∃ w name mode files, x.OpensAs w name mode ∧
      FileHost.openFile x.host.files name mode = .ok (files, { name, mode }) ∧
      x.after.host = { x.host with files } := by
  rcases opened_cases h service with
    ⟨same, -⟩ | ⟨w, files, stream, grant, renews, found, host⟩
  · exact Or.inl same
  · obtain ⟨path, letters, mode, named, spelled, parsed, opened⟩ :=
      StreamTable.grant?_eq_some_iff.mp grant
    obtain ⟨rfl, -⟩ := FileStore.openFile_cases opened
    exact Or.inr ⟨w, _, mode, files,
      ⟨renews, ⟨path, named, rfl⟩, ⟨letters, spelled, parsed⟩, found⟩, opened, host⟩

/-- What is refused is not opened, and the guest gets no handle. -/
theorem Refused.not_opensAs (refused : x.Refused) : ¬ x.OpensAs w name mode := by
  intro opens
  rcases opened_cases h opens.renews.service with ⟨-, unopened⟩ | ⟨-, files, stream, grant, -⟩
  · have none := unopened w opens.renews
    rw [opens.opened] at none
    cases none
  · rw [granted?_of_refused refused] at grant
    cases grant

theorem Refused.result_eq_zero (refused : x.Refused)
    (service : x.service? = some .fopen ∨ x.service? = some .freopen) {r : Word}
    (returned : x.result? = some r) : r = 0 := by
  have denied := granted?_of_refused refused
  rcases service with hs | hs
  · have answer := answer?_of_streams h (react?_of_service hs)
    exact StreamTable.eq_zero_of_fopen denied ((result?_eq_some_iff answer).mp returned)
  · have answer := answer?_of_streams h (react?_of_service hs)
    exact StreamTable.eq_zero_of_freopen denied ((result?_eq_some_iff answer).mp returned)

/-- An open that touches a file has opened it, and has left it empty. -/
theorem touching_of_open (service : x.service? = some .fopen ∨ x.service? = some .freopen)
    (touches : x.Touches name) : x.Touching turns name := by
  rcases same_or_opensAs h service with same | ⟨w, key, mode, files, opens, opened, host⟩
  · exact absurd (by rw [same]) touches
  · have after : x.after.host.files = files := by rw [host]
    rw [Touches, after] at touches
    rcases (FileStore.openFile_cases opened).2 with same | ⟨put, cleared⟩
    · rw [same] at touches
      exact absurd rfl touches
    · obtain rfl : name = key := by
        by_contra other
        rw [put, FileStore.get?_insert, if_neg other] at touches
        exact touches rfl
      have empty : x.after.host.files.get? name = some .empty := by
        rw [after, put, FileStore.get?_insert, if_pos rfl]
      rcases cleared with truncates | missing
      · exact .emptied opens (of_decide_eq_true truncates) empty
      · rcases FileStore.creates_of_openFile opened missing with write | append
        · exact .emptied opens write empty
        · exact .created opens append missing empty

end Opens

/-! ### Files that are touched -/

/-- A step is about one file. -/
theorem FilesStep.one {files : FileStore} (step : x.FilesStep files) :
    ∃ key, ∀ name, name ≠ key → files.get? name = x.host.files.get? name := by
  cases step with
  | same => exact ⟨"", fun _ _ => rfl⟩
  | opened service grant =>
    obtain ⟨path, letters, mode, -, -, -, opened⟩ := StreamTable.grant?_eq_some_iff.mp grant
    refine ⟨Utf8.decode path, fun name other => ?_⟩
    rcases (FileStore.openFile_cases opened).2 with rfl | ⟨rfl, -⟩
    · rfl
    · rw [FileStore.get?_insert, if_neg other]
  | @drained file data service live =>
    exact ⟨file.stream.name, (FileStore.drain_keeps x.host.files file data).2⟩
  | @saved path data _ service named stored =>
    refine ⟨Utf8.decode path, fun name other => ?_⟩
    have replaced : files = x.host.files.insert (Utf8.decode path) data := by
      cases stored
      rfl
    rw [replaced, FileStore.get?_insert, if_neg other]

/-- A call touches one file at most. -/
theorem touches_unique (h : x.debugger.handlers = panel t f c) (touches : x.Touches name)
    (touches' : x.Touches other) : name = other := by
  obtain ⟨key, others⟩ := (filesStep h).one
  have about : name = key := by
    by_contra apart
    exact touches (others name apart)
  have about' : other = key := by
    by_contra apart
    exact touches' (others other apart)
  rw [about, about']

/-- A file that is touched is touched for one of the reasons. -/
theorem touching_of_touches (h : x.debugger.handlers = panel t f c)
    (last : ∀ {w file}, t.get? w = some file →
      LastOpened turns w file.stream.name file.stream.mode) (touches : x.Touches name) :
    x.Touching turns name := by
  have table : x.debugger.table = t := Debugger.table_eq h
  have step := filesStep h
  generalize after : x.after.host.files = files at step
  cases step with
  | same => exact absurd (by rw [after]) touches
  | opened service grant => exact touching_of_open h service touches
  | @drained file data service live =>
    rw [Touches, after] at touches
    obtain ⟨rfl, writable⟩ := FileStore.writable_of_drain touches
    exact .written service (by rw [live]; rfl) (last (by rw [← table]; exact live)) writable
  | saved service named stored =>
    rcases saved_cases h service with ⟨key, data, saves, put⟩ | ⟨-, host⟩
    · have same : name = key := by
        by_contra apart
        rw [Touches, put, FileStore.get?_insert, if_neg apart] at touches
        exact touches rfl
      subst same
      exact .saved saves (by rw [put, FileStore.get?_insert, if_pos rfl])
    · exact absurd (by rw [host]) touches

end Turn

/-- One more call keeps every open stream as the last open of its handle says. -/
theorem Turn.lastOpened_after (h : x.debugger.handlers = .streams t :: rest)
    (last : ∀ {w file}, t.get? w = some file →
      LastOpened turns w file.stream.name file.stream.mode)
    (found : x.after.debugger.table.get? w = some file) :
    LastOpened (turns ++ [x]) w file.stream.name file.stream.mode := by
  rw [LastOpened, since_snoc_iff]
  rcases (handleStep h found).renewed_or_kept with
    ⟨files, stream, renews, grant, rfl⟩ | ⟨stays, before, live, name_eq, mode_eq⟩
  · obtain ⟨path, letters, mode, named, spelled, parsed, opened⟩ :=
      StreamTable.grant?_eq_some_iff.mp grant
    obtain ⟨rfl, -⟩ := FileStore.openFile_cases opened
    exact Or.inl ⟨renews, ⟨path, named, rfl⟩, ⟨letters, spelled, parsed⟩, found⟩
  · rw [name_eq, mode_eq]
    exact Or.inr ⟨last live, stays⟩

/-- Along a whole run every open stream is as the last open of its handle says. -/
theorem Transcript.lastOpened {content : Option ByteArray} {host : Host FileStore}
    {s : Stage FileStore StoredStream} (run : Transcript (.initial content host) turns s) :
    ∃ t f c, s.debugger.handlers = panel t f c ∧
      ∀ {w file}, t.get? w = some file → LastOpened turns w file.stream.name file.stream.mode := by
  induction run with
  | nil => exact ⟨{}, { content }, {}, rfl, fun live => by cases live⟩
  | @snoc turns s run machine ih =>
    obtain ⟨t, f, c, h, last⟩ := ih
    obtain ⟨t', f', c', h'⟩ := Turn.exists_panel_after (x := ⟨s, machine⟩) h
    refine ⟨t', f', c', h', fun live => Turn.lastOpened_after (x := ⟨s, machine⟩) h last ?_⟩
    rw [Debugger.table_eq h']
    exact live

/-! ### A file with a reader and a writer -/

namespace Shared

/-- The paths `f` and `g`, the modes `r`, `a` and `wx`, and a byte to write. -/
def memory : Memory :=
  ⟨⟨#[0x66, 0, 0x67, 0, 0x72, 0, 0x61, 0, 0x77, 0x78, 0, 0x2a]⟩, by decide⟩

def store : FileStore := { files := .ofList [("f", ⟨#[0x31]⟩)] }

/-- The first file is opened for reading. -/
def reading : Turn FileStore StoredStream :=
  ⟨.initial none { files := store }, .asking .fopen [0, 4] memory⟩

/-- Then it is opened for appending. -/
def appending : Turn FileStore StoredStream := ⟨reading.after, .asking .fopen [0, 6] memory⟩

/-- The second stream is written to. -/
def writing : Turn FileStore StoredStream :=
  ⟨appending.after, .asking .fwrite [11, 1, 1, 2] memory⟩

/-- The first stream is written to. -/
def misusing : Turn FileStore StoredStream :=
  ⟨appending.after, .asking .fwrite [11, 1, 1, 1] memory⟩

/-- The first file is to be new, and is not. -/
def refused : Turn FileStore StoredStream := ⟨appending.after, .asking .fopen [0, 8] memory⟩

/-- The second file is missing and is opened for appending. -/
def creating : Turn FileStore StoredStream := ⟨appending.after, .asking .fopen [2, 6] memory⟩

theorem run : Transcript reading.toStage [reading, appending] appending.after :=
  (Transcript.nil.snoc _).snoc _

theorem path : memory.HoldsString 0 ⟨#[0x66]⟩ :=
  Memory.loadString_eq_ok_iff.mp (by decide +kernel)

theorem reads : memory.HoldsString 4 ⟨#[0x72]⟩ :=
  Memory.loadString_eq_ok_iff.mp (by decide +kernel)

theorem writesNew : memory.HoldsString 8 ⟨#[0x77, 0x78]⟩ :=
  Memory.loadString_eq_ok_iff.mp (by decide +kernel)

/-- The first stream was opened for reading alone. -/
theorem lastOpened : LastOpened [reading, appending] 1 "f" { purpose := .read } := by
  have first : reading.arg 0 = 0 := by decide +kernel
  have second : reading.arg 1 = 4 := by decide +kernel
  have opens : reading.OpensAs 1 "f" { purpose := .read } := by
    refine ⟨Or.inl (by decide +kernel), ⟨⟨#[0x66]⟩, ?_, by decide +kernel⟩,
      ⟨⟨#[0x72]⟩, ?_, by decide +kernel⟩, by decide +kernel⟩
    · rw [first]
      exact path
    · rw [second]
      exact reads
  refine ⟨[], reading, [appending], rfl, opens, ?_⟩
  rintro y (_ | ⟨_, ⟨⟩⟩)
  rintro (handed | ⟨service, -⟩)
  · have other : appending.opened? ≠ some 1 := by decide +kernel
    exact other handed
  · have other : appending.service? ≠ some .freopen := by decide +kernel
    exact other service

theorem refused_taken : refused.Refused := by
  have first : refused.arg 0 = 0 := by decide +kernel
  have second : refused.arg 1 = 8 := by decide +kernel
  have has : (refused.host.files.get? (Utf8.decode ⟨#[0x66]⟩)).isSome = true := by decide +kernel
  have parsed : OpenMode.parse? ⟨#[0x77, 0x78]⟩ =
    some { purpose := .write, exclusive := true } := by decide +kernel
  have named := path
  have spelled := writesNew
  rw [← first] at named
  rw [← second] at spelled
  exact .taken named spelled parsed rfl has

end Shared

/-! ### Whole runs -/

/-- After any run a call keeps all names of stored files, and all open streams on stored files. It
touches one file at most, for one of the reasons. An open that does not succeed touches none, nor
does a call on a stream that was last opened for reading alone, unless it reopens it. -/
theorem Transcript.touches_one {content : Option ByteArray} {host : Host FileStore}
    {s : Stage FileStore StoredStream} (run : Transcript (.initial content host) turns s)
    (next : x.toStage = s) :
    s.Backed ∧ (∀ name, x.host.files.Has name → x.after.host.files.Has name) ∧
      (∀ name other, x.Touches name → x.Touches other → name = other) ∧
      (∀ name, x.Touches name → x.Touching turns name) ∧
      (x.service? = some .fopen ∨ x.service? = some .freopen →
        ((∀ w name mode, ¬ x.OpensAs w name mode) → x.after.host = x.host) ∧
          (x.Refused → (∀ w name mode, ¬ x.OpensAs w name mode) ∧
            ∀ r, x.result? = some r → r = 0)) ∧
      ∀ w name mode, x.request.handle? = some w → x.service? ≠ some .freopen →
        LastOpened turns w name mode → mode.purpose = .read → mode.update = false →
        ∀ other, ¬ x.Touches other := by
  subst next
  obtain ⟨t, f, c, h, last⟩ := run.lastOpened
  obtain ⟨-, -, -, backed⟩ := run.backed rfl
  have touching (name : String) (touches : x.Touches name) : x.Touching turns name :=
    Turn.touching_of_touches h last touches
  refine ⟨backed, fun _ => Turn.has_after, fun _ _ => Turn.touches_unique h, touching,
    fun service => ⟨fun unopened => ?_, fun refused => ⟨fun _ _ _ => refused.not_opensAs h,
      fun _ => refused.result_eq_zero h service⟩⟩, ?_⟩
  · rcases Turn.same_or_opensAs h service with same | ⟨w, name, mode, -, opens, -⟩
    · exact same
    · exact absurd opens (unopened w name mode)
  · intro w name mode named reopens opened reads plain other touches
    -- A call that names a handle and does not reopen it can only touch a file by writing.
    have unopened {v : Word} {key : String} {mode : OpenMode} (opens : x.OpensAs v key mode) :
        False := by
      rcases opens.renews with handed | ⟨hs, -⟩
      · rw [Turn.opened?_of_named named] at handed
        cases handed
      · exact reopens hs
    cases touching other touches with
    | saved saves put =>
      rw [Turn.handle?_eq saves.1] at named
      cases named
    | emptied opens purpose empty => exact unopened opens
    | created opens purpose missing empty => exact unopened opens
    | written service live opened' writable =>
      rw [Turn.handle?_eq service] at named
      obtain rfl := Option.some.inj named
      obtain ⟨-, rfl⟩ := opened.unique opened'
      simp [OpenMode.writable, OpenMode.overwrites, OpenMode.appends, reads, plain] at writable

/-- A write to the stream that appends touches the file, and so does an open that creates one. A
write to the stream for reading touches nothing, nor does an open that is refused. -/
theorem touches_one_shared :
    Shared.writing.Touching [Shared.reading, Shared.appending] "f" ∧
      Shared.creating.Touching [Shared.reading, Shared.appending] "g" ∧
      (∀ name, ¬ Shared.misusing.Touches name) ∧
      Shared.refused.after.host = Shared.refused.host := by
  have written : Shared.writing.after.host.files.get? "f" ≠ Shared.writing.host.files.get? "f" := by
    decide +kernel
  have created : Shared.creating.after.host.files.get? "g" ≠
      Shared.creating.host.files.get? "g" := by decide +kernel
  obtain ⟨-, -, -, writing, -⟩ := Shared.run.touches_one (x := Shared.writing) rfl
  obtain ⟨-, -, -, creating, -⟩ := Shared.run.touches_one (x := Shared.creating) rfl
  obtain ⟨-, -, -, -, -, misusing⟩ := Shared.run.touches_one (x := Shared.misusing) rfl
  obtain ⟨-, -, -, -, refused, -⟩ := Shared.run.touches_one (x := Shared.refused) rfl
  obtain ⟨unchanged, denied⟩ := refused (Or.inl (by decide +kernel))
  exact ⟨writing "f" written, creating "g" created,
    misusing 1 "f" { purpose := .read } (by decide +kernel) (by decide +kernel)
      Shared.lastOpened rfl rfl,
    unchanged (denied Shared.refused_taken).1⟩

end Semihosting
