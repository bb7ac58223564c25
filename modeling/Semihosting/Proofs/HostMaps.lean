import Semihosting.Proofs.Transcript

/-!
# Maps between hosts

A map between two kinds of file hosts takes files to files and streams to streams, and every request
is answered alike on both sides. Only an interruption may disappear: the map does not see it. Since
an interrupted request is made again at once, whole transfers come to the same on both sides, and so
does every host call. Sessions with the same image are therefore the same for the guest.

## Main definitions

* `HostMap` — a map between file hosts that may leave out interruptions
* `HostMap.stage`, `HostMap.turn` — the image of a session, and of a call
* `StreamTable.flags` — the open handles with their flags
* `Turn.Agrees` — two calls that are the same for the guest, the log and the console

## Main results

* `HostMap.fill_eq`, `HostMap.drain_eq` — the retry loops hide interruptions
* `HostMap.serviced_turn` — the image of a call is serviced to the image of what it leaves behind
* `HostMap.agree` — runs with one image agree call by call
-/

namespace Semihosting

/-- A map between file hosts. Requests are answered alike, but for interrupted ones, of which the
map sees nothing. -/
structure HostMap (σ ς σ' ς' : Type) [FileHost σ ς] [FileHost σ' ς'] where
  files : σ → σ'
  stream : ς → ς'
  openFile_eq : ∀ fs name mode, FileHost.openFile (files fs) name mode =
    (FileHost.openFile fs name mode).map fun (fs, s) => (files fs, stream s)
  save_eq : ∀ fs name data,
    FileHost.save (files fs) name data = (FileHost.save fs name data).map files
  seek_eq : ∀ fs s seek, FileHost.seek (files fs) (stream s) seek =
    ((FileHost.seek fs s seek).1, stream (FileHost.seek fs s seek).2)
  flush_eq : ∀ fs s, FileHost.flush (files fs) (stream s) =
    ((FileHost.flush fs s).1, stream (FileHost.flush fs s).2)
  /-- A read that is not interrupted is answered alike. -/
  read_eq : ∀ {fs s count answer after}, FileHost.read fs s count = (answer, after) →
    answer ≠ .error .interrupted →
      FileHost.read (files fs) (stream s) count = (answer, stream after)
  /-- An interrupted read leaves a stream with the same image. -/
  read_interrupted : ∀ {fs : σ} {s after count},
    FileHost.read fs s count = (.error .interrupted, after) → stream after = stream s
  /-- A write that is not interrupted is answered alike. -/
  write_eq : ∀ {fs fs' s data answer after}, FileHost.write fs s data = (answer, fs', after) →
    answer ≠ .error .interrupted →
      FileHost.write (files fs) (stream s) data = (answer, files fs', stream after)
  /-- An interrupted write leaves files and a stream with the same image. -/
  write_interrupted : ∀ {fs fs' s data after},
    FileHost.write fs s data = (.error .interrupted, fs', after) →
      files fs' = files fs ∧ stream after = stream s
  readDelays_le : ∀ s, FileHost.readDelays (σ := σ') (stream s) ≤ FileHost.readDelays (σ := σ) s
  writeDelays_le : ∀ s,
    FileHost.writeDelays (σ := σ') (stream s) ≤ FileHost.writeDelays (σ := σ) s

/-! ### Images -/

/-- The open handles, each with its end-of-file and its error flag. -/
def StreamTable.flags {ς : Type} (t : StreamTable ς) : List (Word × Bool × Bool) :=
  t.streams.entries.map fun (handle, file) => (handle, file.eof, file.error)

namespace HostMap

variable {σ ς σ' ς' : Type} [FileHost σ ς] [FileHost σ' ς'] (m : HostMap σ ς σ' ς')

/-- The image of an open file, which has the same flags. -/
def file (f : OpenFile ς) : OpenFile ς' := ⟨m.stream f.stream, f.eof, f.error⟩

def filled (f : Filled ς) : Filled ς' := ⟨f.data, m.file f.file, f.failure⟩

def drained (d : Drained σ ς) : Drained σ' ς' :=
  ⟨d.count, m.files d.files, m.file d.file, d.failure⟩

def table (t : StreamTable ς) : StreamTable ς' := ⟨t.streams.map m.file, t.next⟩

def handler : Handler ς → Handler ς'
  | .streams t => .streams (m.table t)
  | .input f => .input f
  | .saver => .saver
  | .entropy => .entropy
  | .console c => .console c
  | .clock => .clock
  | .stub number answer fails fault objection => .stub number answer fails fault objection

def host (h : Host σ) : Host σ' := ⟨m.files h.files, h.printed, h.entropy, h.clock⟩

/-- The image of an answer, by a map on what the handlers keep. -/
def answer {η θ : Type} (kept : η → θ) (a : Answer η σ) : Answer θ σ' :=
  ⟨a.outcome, kept a.handler, a.memory, m.host a.host, a.events⟩

def debugger (d : Debugger ς) : Debugger ς' := ⟨d.handlers.map m.handler, d.served⟩

def serviced (s : Serviced σ ς) : Serviced σ' ς' :=
  ⟨s.outcome, s.machine, m.debugger s.debugger, m.host s.host, s.events⟩

/-- The image of a session between two calls. -/
def stage (s : Stage σ ς) : Stage σ' ς' := ⟨m.debugger s.debugger, m.host s.host⟩

/-- The image of a call, by the same machine. -/
def turn (x : Turn σ ς) : Turn σ' ς' := ⟨m.stage x.toStage, x.machine⟩

/-! ### Transfers -/

variable {m}

/-- A read from the image makes the same requests, but for the interrupted ones. -/
theorem fillFrom_eq {files : σ} {rounds wanted : Nat} {file : OpenFile ς} {delivered : ByteArray}
    (enough : wanted + FileHost.readDelays (σ := σ) file.stream ≤ rounds) :
    OpenFile.fillFrom (m.files files) rounds (m.file file) wanted delivered =
      m.filled (OpenFile.fillFrom files rounds file wanted delivered) := by
  -- By induction on the rounds of the given read, of which there are enough. Its image skips the
  -- interrupted rounds and gets as many all the same, since more than enough makes no difference.
  induction rounds generalizing file wanted delivered with
  | zero => rfl
  | succ rounds ih =>
    rw [OpenFile.fillFrom.eq_def files]
    dsimp only
    split
    · next none =>
      rw [OpenFile.fillFrom, if_pos none]
      rfl
    · next some =>
      -- No read makes more interruptions lie ahead.
      have fewer := FileHost.readDelays_le files file.stream wanted
      have further {stream : ς} {wanted : Nat} {delivered : ByteArray}
          (enough : wanted + FileHost.readDelays (σ := σ) stream ≤ rounds) :
          OpenFile.fillFrom (m.files files) rounds (m.file { file with stream }) wanted delivered =
            m.filled (OpenFile.fillFrom files rounds { file with stream } wanted delivered) :=
        ih enough
      split
      · next data stream answered =>
        rw [answered] at fewer
        have image := m.read_eq answered (by simp)
        rw [OpenFile.fillFrom, if_neg some]
        simp only [HostMap.file, image]
        split
        · rfl
        · exact further (by dsimp only at fewer; omega)
      · next stream interrupted =>
        have less := FileHost.readDelays_lt interrupted
        have unseen := m.read_interrupted interrupted
        -- The image has made no request yet, so it has a round more than it needs.
        have bound : wanted + FileHost.readDelays (σ := σ') (m.file file).stream ≤ rounds := by
          have fewer := m.readDelays_le stream
          rw [unseen] at fewer
          dsimp only [HostMap.file]
          omega
        rw [OpenFile.fillFrom_eq_of_le _ bound (Nat.le_succ _), ← further (by omega)]
        simp only [HostMap.file, unseen]
      · next reason stream other answered =>
        have image := m.read_eq answered (by simpa using other)
        rw [OpenFile.fillFrom, if_neg some]
        simp only [HostMap.file, image]
        rfl

/-- A write to the image makes the same requests, but for the interrupted ones. -/
theorem drainFrom_eq {data : ByteArray} {files : σ} {rounds taken : Nat} {file : OpenFile ς}
    (enough : data.size - taken + FileHost.writeDelays (σ := σ) file.stream ≤ rounds) :
    OpenFile.drainFrom data rounds (m.files files) (m.file file) taken =
      m.drained (OpenFile.drainFrom data rounds files file taken) := by
  induction rounds generalizing files file taken with
  | zero => rfl
  | succ rounds ih =>
    rw [OpenFile.drainFrom.eq_def data (rounds + 1) files]
    dsimp only
    split
    · next all =>
      rw [OpenFile.drainFrom, if_pos all]
      rfl
    · next some =>
      have fewer := FileHost.writeDelays_le files file.stream (data.extract taken data.size)
      have further {after : σ} {stream : ς} {taken : Nat}
          (enough : data.size - taken + FileHost.writeDelays (σ := σ) stream ≤ rounds) :
          OpenFile.drainFrom data rounds (m.files after) (m.file { file with stream }) taken =
            m.drained (OpenFile.drainFrom data rounds after { file with stream } taken) :=
        ih enough
      -- As for reads; an interrupted write may leave other files, but none that the image shows.
      split
      · next count after stream answered =>
        rw [answered] at fewer
        have image := m.write_eq answered (by simp)
        rw [OpenFile.drainFrom, if_neg some]
        simp only [HostMap.file, image]
        split
        · rfl
        · exact further (by dsimp only at fewer; omega)
      · next after stream interrupted =>
        have less := FileHost.writeDelays_lt interrupted
        obtain ⟨unmoved, unseen⟩ := m.write_interrupted interrupted
        have bound : data.size - taken + FileHost.writeDelays (σ := σ') (m.file file).stream ≤
            rounds := by
          have fewer := m.writeDelays_le stream
          rw [unseen] at fewer
          dsimp only [HostMap.file]
          omega
        rw [OpenFile.drainFrom_eq_of_le bound (Nat.le_succ _), ← further (by omega)]
        simp only [HostMap.file, unseen, unmoved]
      · next reason after stream other answered =>
        have image := m.write_eq answered (by simpa using other)
        rw [OpenFile.drainFrom, if_neg some]
        simp only [HostMap.file, image]
        rfl

/-- The image of a file is read to the image of what the read leaves behind. -/
theorem fill_eq (files : σ) (file : OpenFile ς) (wanted : Nat) :
    (m.file file).fill (m.files files) wanted = m.filled (file.fill files wanted) := by
  have fewer := m.readDelays_le file.stream
  rw [OpenFile.fill, OpenFile.fill, ← fillFrom_eq (Nat.le_refl _)]
  exact (OpenFile.fillFrom_eq_of_le _ (Nat.le_refl _) (Nat.add_le_add_left fewer _)).symm

/-- The image of a file is written to the image of what the write leaves behind. -/
theorem drain_eq (files : σ) (file : OpenFile ς) (data : ByteArray) :
    (m.file file).drain (m.files files) data = m.drained (file.drain files data) := by
  have fewer := m.writeDelays_le file.stream
  have enough : data.size - 0 + FileHost.writeDelays (σ := σ) file.stream ≤
      data.size + FileHost.writeDelays (σ := σ) file.stream := Nat.le_refl _
  rw [OpenFile.drain, OpenFile.drain, ← drainFrom_eq enough]
  exact (OpenFile.drainFrom_eq_of_le (Nat.le_refl (data.size - 0 + _))
    (Nat.add_le_add_left fewer _)).symm

/-! ### Stream services -/

/-- The image of a reaction: on the image of a host it answers with the image of the answer. -/
def Carries (m : HostMap σ ς σ' ς') {η θ : Type} (kept : η → θ) (act : Reaction η σ)
    (act' : Reaction θ σ') : Prop :=
  ∀ memory host, act' memory (m.host host) = m.answer kept (act memory host)

section Streams

variable {t : StreamTable ς} {number path mode address size count handle : Word}

@[simp] theorem get?_table (t : StreamTable ς) (handle : Word) :
    (m.table t).get? handle = (t.get? handle).map m.file :=
  Table.get?_map ..

@[simp] theorem put_table (t : StreamTable ς) (handle : Word) (file : OpenFile ς) :
    (m.table t).put handle (m.file file) = m.table (t.put handle file) := by
  simp only [StreamTable.put, table, Table.map_insert]

@[simp] theorem close_table (t : StreamTable ς) (handle : Word) :
    (m.table t).close handle = m.table (t.close handle) := by
  simp only [StreamTable.close, table, Table.map_erase]

theorem openFor_eq (files : σ) (path mode : ByteArray) :
    StreamTable.openFor (m.files files) path mode =
      (StreamTable.openFor files path mode).map fun opened =>
        (m.files opened.1, m.file opened.2) := by
  unfold StreamTable.openFor
  cases OpenMode.parse? mode with
  | none => rfl
  | some mode =>
    simp only [m.openFile_eq]
    cases FileHost.openFile files (Utf8.decode path) mode <;> rfl

theorem carries_fopen :
    m.Carries m.table (t.fopen (σ := σ) path mode) ((m.table t).fopen path mode) := by
  intro memory host
  unfold StreamTable.fopen
  cases memory.loadString path with
  | error fault => rfl
  | ok name =>
    cases memory.loadString mode with
    | error fault => rfl
    | ok mode =>
      simp only [HostMap.host, openFor_eq]
      cases StreamTable.openFor host.files name mode with
      | error event => rfl
      | ok opened =>
        obtain ⟨files, file⟩ := opened
        simp only [Except.map, answer, HostMap.host, StreamTable.put, table, Table.map_insert]

theorem carries_freopen : m.Carries m.table (t.freopen (σ := σ) path mode handle)
    ((m.table t).freopen path mode handle) := by
  intro memory host
  unfold StreamTable.freopen
  cases memory.loadString path with
  | error fault => rfl
  | ok name =>
    cases memory.loadString mode with
    | error fault => rfl
    | ok mode =>
      simp only [HostMap.host, openFor_eq, get?_table, close_table]
      cases t.get? handle with
      | none => rfl
      | some old =>
        cases StreamTable.openFor host.files name mode with
        | error event => rfl
        | ok opened => simp [Except.map, answer, HostMap.host]

theorem carries_fread : m.Carries m.table (t.fread (σ := σ) number address size count handle)
    ((m.table t).fread number address size count handle) := by
  intro memory host
  unfold StreamTable.fread
  cases StreamTable.transferLength number size count with
  | error fault => rfl
  | ok length =>
    simp only [get?_table]
    cases length with
    | zero => rfl
    | succ length =>
      cases t.get? handle with
      | none => rfl
      | some file =>
        simp only [Option.map_some, HostMap.host, fill_eq, filled, put_table]
        split <;> rfl

theorem carries_fwrite : m.Carries m.table (t.fwrite (σ := σ) number address size count handle)
    ((m.table t).fwrite number address size count handle) := by
  intro memory host
  unfold StreamTable.fwrite
  cases StreamTable.transferLength number size count with
  | error fault => rfl
  | ok length =>
    simp only [get?_table]
    cases length with
    | zero => rfl
    | succ length =>
      cases t.get? handle with
      | none => rfl
      | some file =>
        simp only [Option.map_some]
        cases memory.load address (UInt64.ofNat (length + 1)) with
        | error fault => rfl
        | ok data => simp only [HostMap.host, drain_eq, drained, put_table, answer]

theorem carries_fgetc :
    m.Carries m.table (t.fgetc (σ := σ) handle) ((m.table t).fgetc handle) := by
  intro memory host
  unfold StreamTable.fgetc
  simp only [get?_table]
  cases t.get? handle with
  | none => rfl
  | some file => simp only [Option.map_some, HostMap.host, fill_eq, filled, put_table, answer]

theorem carries_fclose :
    m.Carries m.table (t.fclose (σ := σ) handle) ((m.table t).fclose handle) := by
  intro memory host
  unfold StreamTable.fclose
  simp only [get?_table, close_table]
  cases t.get? handle with
  | none => rfl
  | some file => simp only [Option.map_some, HostMap.host, HostMap.file, m.flush_eq, answer]

theorem carries_ftell :
    m.Carries m.table (t.ftell (σ := σ) handle) ((m.table t).ftell handle) := by
  intro memory host
  unfold StreamTable.ftell
  simp only [get?_table]
  cases t.get? handle with
  | none => rfl
  | some file =>
    simp only [Option.map_some, HostMap.host, HostMap.file, m.seek_eq, answer, ← put_table]

theorem carries_fseek {offset origin : Word} : m.Carries m.table
    (t.fseek (σ := σ) handle offset origin) ((m.table t).fseek handle offset origin) := by
  intro memory host
  unfold StreamTable.fseek
  simp only [get?_table]
  cases t.get? handle with
  | none => rfl
  | some file =>
    cases StreamTable.seek? offset origin with
    | none => rfl
    | some seek =>
      simp only [Option.map_some, HostMap.host, HostMap.file, m.seek_eq]
      obtain ⟨moved | refused, stream⟩ := FileHost.seek host.files file.stream seek
      · simp only [answer, ← put_table]
        rfl
      · simp only [answer, ← put_table]
        rfl

theorem carries_flag {of : OpenFile ς → Bool} {of' : OpenFile ς' → Bool}
    (same : ∀ file, of' (m.file file) = of file) :
    m.Carries m.table (t.flag (σ := σ) handle of) ((m.table t).flag handle of') := by
  intro memory host
  unfold StreamTable.flag
  simp only [get?_table, Option.any_map, same]
  rfl

/-- A table and its image take the same requests, and answer them alike. -/
theorem rel_streams (t : StreamTable ς) (r : Request) :
    Option.Rel (m.Carries m.table) (t.react? (σ := σ) r) ((m.table t).react? r) := by
  unfold StreamTable.react?
  split
  · exact .some carries_fopen
  · exact .some carries_freopen
  · exact .some carries_fread
  · exact .some (carries_flag fun _ => rfl)
  · exact .some (carries_flag fun _ => rfl)
  · exact .some carries_fgetc
  · exact .some carries_fclose
  · exact .some carries_ftell
  · exact .some carries_fseek
  · exact .some carries_fwrite
  · exact .none

end Streams

/-! ### All handlers -/

theorem Carries.map {η η' θ θ' : Type} {kept : η → θ} {kept' : η' → θ'} {wrap : η → η'}
    {wrap' : θ → θ'} {act : Reaction η σ} {act' : Reaction θ σ'} (h : m.Carries kept act act')
    (wrapped : ∀ x, kept' (wrap x) = wrap' (kept x)) :
    m.Carries kept' (act.map wrap) (act'.map wrap') := by
  intro memory host
  rw [Reaction.map, h memory host, Reaction.map]
  simp only [Answer.map, answer, wrapped]

theorem Carries.option {η η' θ θ' : Type} {kept : η → θ} {kept' : η' → θ'} {wrap : η → η'}
    {wrap' : θ → θ'} {act? : Option (Reaction η σ)} {act?' : Option (Reaction θ σ')}
    (related : Option.Rel (m.Carries kept) act? act?')
    (wrapped : ∀ x, kept' (wrap x) = wrap' (kept x)) :
    Option.Rel (m.Carries kept') (act?.map (·.map wrap)) (act?'.map (·.map wrap')) := by
  cases related with
  | none => exact .none
  | some carries => exact .some (carries.map wrapped)

theorem carries_deliver {f : InputFeed} {buffer length : Word} :
    m.Carries id (f.deliver buffer length) (f.deliver buffer length) := by
  intro memory host
  unfold InputFeed.deliver
  split
  · rfl
  · split
    · rfl
    · split
      · split <;> rfl
      · dsimp only
        split
        · rfl
        · split <;> rfl

theorem carries_write {c : Console} {descriptor address count : Word} :
    m.Carries id (c.write descriptor address count) (c.write descriptor address count) := by
  intro memory host
  unfold Console.write
  split
  · split <;> rfl
  · rfl

/-- The input feed does not look at the files. -/
theorem rel_input (f : InputFeed) (r : Request) :
    Option.Rel (m.Carries id) (f.react? r) (f.react? r) := by
  unfold InputFeed.react?
  split
  · exact .some carries_deliver
  · exact .none

/-- The console does not look at the files. -/
theorem rel_console (c : Console) (r : Request) :
    Option.Rel (m.Carries id) (c.react? r) (c.react? r) := by
  unfold Console.react?
  split
  · exact .some carries_write
  · exact .some fun _ _ => rfl
  · exact .some fun _ _ => rfl
  · exact .none

theorem carries_saveFile {path address count : Word} : m.Carries m.handler
    (Handler.saveFile (σ := σ) path address count) (Handler.saveFile path address count) := by
  intro memory host
  unfold Handler.saveFile
  split
  · rfl
  · rfl
  · next name data _ _ =>
    simp only [HostMap.host, m.save_eq]
    cases FileHost.save host.files (Utf8.decode name) data <;> rfl

/-- A handler and its image take the same requests, and answer them alike. -/
theorem rel_handler (h : Handler ς) (r : Request) :
    Option.Rel (m.Carries m.handler) (h.react? (σ := σ) r) ((m.handler h).react? r) := by
  cases h with
  | streams t => exact Carries.option (rel_streams t r) fun _ => rfl
  | input f => exact Carries.option (rel_input f r) fun _ => rfl
  | console c => exact Carries.option (rel_console c r) fun _ => rfl
  | saver =>
    simp only [Handler.react?, handler]
    split
    · exact .some carries_saveFile
    · exact .none
  | entropy | clock | stub =>
    simp only [Handler.react?, handler]
    split
    · exact .some fun _ _ => rfl
    · exact .none

/-- Handlers and their images take the same requests, and answer them alike. -/
theorem rel_handlers (handlers : List (Handler ς)) (r : Request) :
    Option.Rel (m.Carries (List.map m.handler)) (Debugger.react? (σ := σ) r handlers)
      (Debugger.react? r (handlers.map m.handler)) := by
  induction handlers with
  | nil => exact .none
  | cons first rest ih =>
    have here := rel_handler (m := m) first r
    rw [List.map_cons, Debugger.react?, Debugger.react?]
    generalize first.react? (σ := σ) r = act?, (m.handler first).react? (σ := σ') r = act?' at here
    -- The first handler takes the request on both sides, or hands it on on both sides.
    cases here with
    | some carries => exact .some (carries.map fun _ => rfl)
    | none => exact Carries.option ih fun _ => rfl

/-! ### Calls and runs -/

variable (m) in
/-- The handlers make the same of the image of a call. -/
theorem answer?_turn (x : Turn σ ς) :
    (m.turn x).answer? = x.answer?.map (m.answer (List.map m.handler)) := by
  have related := rel_handlers (m := m) x.debugger.handlers x.request
  have request : (m.turn x).request = x.request := rfl
  have handlers : (m.turn x).debugger.handlers = x.debugger.handlers.map m.handler := rfl
  rw [Turn.answer?, Turn.answer?, request, handlers]
  generalize Debugger.react? (σ := σ) x.request x.debugger.handlers = act?,
    Debugger.react? (σ := σ') x.request (x.debugger.handlers.map m.handler) = act?' at related
  cases related with
  | none => rfl
  | @some act act' carries =>
    have answered : act' x.memory (m.host x.host) = _ := carries x.memory x.host
    exact congrArg some answered

variable (m) in
/-- Servicing the image of a call leaves the image of what servicing the call leaves. -/
theorem serviced_turn (x : Turn σ ς) : (m.turn x).serviced = m.serviced x.serviced := by
  have image := m.answer?_turn x
  cases found : x.answer? with
  | none =>
    rw [found, Option.map_none] at image
    rw [Turn.serviced_of_none found, Turn.serviced_of_none image]
    rfl
  | some answer =>
    rw [found, Option.map_some] at image
    cases ended : answer.outcome with
    | ok result =>
      have ended' : (m.answer (List.map m.handler) answer).outcome = .ok result := ended
      rw [Turn.serviced_of_ok found ended, Turn.serviced_of_ok image ended']
      rfl
    | error fault =>
      have ended' : (m.answer (List.map m.handler) answer).outcome = .error fault := ended
      rw [Turn.serviced_of_error found ended, Turn.serviced_of_error image ended']
      rfl

variable (m) in
theorem after_turn (x : Turn σ ς) : (m.turn x).after = m.stage x.after := by
  rw [Turn.after, serviced_turn]
  rfl

/-! ### Sessions with one image -/

theorem table_debugger (d : Debugger ς) : (m.debugger d).table = m.table d.table := by
  obtain ⟨handlers, served⟩ := d
  match handlers with
  | [] => rfl
  | .streams _ :: _ | .input _ :: _ | .saver :: _ | .entropy :: _ | .console _ :: _ | .clock :: _ |
    .stub .. :: _ => rfl

theorem flags_table (t : StreamTable ς) : (m.table t).flags = t.flags := by
  simp only [StreamTable.flags, table, Table.map, List.map_map]
  rfl

/-- Sessions with one image have the same handles open, with the same flags. -/
theorem flags_eq {s s' : Stage σ ς} (same : m.stage s' = m.stage s) :
    s'.debugger.table.flags = s.debugger.table.flags := by
  have tables : (m.stage s').debugger.table.flags = (m.stage s).debugger.table.flags := by rw [same]
  simpa only [stage, table_debugger, flags_table] using tables

end HostMap

section Sessions

variable {σ ς σ' ς' : Type} [FileHost σ ς] [FileHost σ' ς'] {m : HostMap σ ς σ' ς'}

/-- Two calls that are the same for the guest and in the log, and that find and leave the same
handles with the same flags, and the same lines printed. -/
structure Turn.Agrees (x x' : Turn σ ς) : Prop extends x.Matches x' where
  events : x'.serviced.events = x.serviced.events
  flags_before : x'.debugger.table.flags = x.debugger.table.flags
  flags_after : x'.after.debugger.table.flags = x.after.debugger.table.flags
  printed : x'.after.host.printed = x.after.host.printed

/-- Calls with one image agree, and leave sessions with one image. -/
theorem HostMap.agrees_turn {s s' : Stage σ ς} (same : m.stage s' = m.stage s)
    (machine : Machine) : (Turn.mk s machine).Agrees (Turn.mk s' machine) ∧
      m.stage (Turn.mk s' machine).after = m.stage (Turn.mk s machine).after := by
  have turn : m.turn ⟨s', machine⟩ = m.turn ⟨s, machine⟩ := by simp only [HostMap.turn, same]
  have serviced : m.serviced (Turn.mk s' machine).serviced =
      m.serviced (Turn.mk s machine).serviced := by
    rw [← m.serviced_turn, turn, m.serviced_turn]
  have after : m.stage (Turn.mk s' machine).after = m.stage (Turn.mk s machine).after := by
    rw [← m.after_turn, turn, m.after_turn]
  refine ⟨⟨⟨rfl, ?_, ?_⟩, ?_, flags_eq same, flags_eq after, ?_⟩, after⟩
  · exact (congrArg Serviced.outcome serviced :)
  · exact (congrArg Serviced.machine serviced :)
  · exact (congrArg Serviced.events serviced :)
  · exact congrArg (·.host.printed) after

/-- Two sessions with one image, in which the same machines make the calls, agree call by call. -/
theorem HostMap.agree {s₀ s s₀' s' : Stage σ ς} {turns turns' : List (Turn σ ς)}
    (start : m.stage s₀' = m.stage s₀) (run : Transcript s₀ turns s)
    (run' : Transcript s₀' turns' s') (same : turns'.map (·.machine) = turns.map (·.machine)) :
    List.Forall₂ Turn.Agrees turns turns' ∧ m.stage s' = m.stage s :=
  Transcript.lockstep (R := fun s s' => m.stage s' = m.stage s) HostMap.agrees_turn run run' same
    start

end Sessions

end Semihosting
