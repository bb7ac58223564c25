import Semihosting.Proofs.MemoryWindows
import Semihosting.Proofs.StreamSteps

/-!
# The effect of a call on one stream

A call on an open stream reaches little of a session: the stream, the content of its file and one
window of guest memory. What it makes of them depends on nothing else, whatever other streams are
open, whatever the other files hold and whatever lies elsewhere in memory. So the call has one
effect, which can be carried out in any session that shows it the same.

## Main definitions

* `Effect` — what a call makes of its stream, of the file and of guest memory
* `Effect.answer` — the effect, carried out in a session
* `Request.On` — the request is about the stream of a handle
* `Request.Sees` — another session shows the request the same
* `Turn.CarriesOut` — what servicing a call leaves behind is the effect and nothing else

## Main results

* `Request.exists_hasEffect` — a call on an open stream has one effect, wherever it sees the same
-/

namespace Semihosting

/-! ### Requests on a stream -/

namespace Request

/-- How many bytes a transfer asks for. -/
def length (r : Request) : Nat := (r.arg 1).toNat * (r.arg 2).toNat

/-- The request is for one of the eight services on the stream of a handle that leave other handles
alone and open nothing. -/
structure On (r : Request) (w : Word) : Prop where
  named : r.handle? = some w
  stays : r.service? ≠ some .freopen

end Request

/-! ### Effects -/

/-- What a call makes of the stream that it is about, of the file and of guest memory. -/
structure Effect where
  outcome : Except Fault Word
  /-- The open file under the handle afterwards, unless the handle is closed. -/
  file? : Option (OpenFile StoredStream)
  /-- The content that is put in place. -/
  content? : Option ByteArray := none
  /-- The bytes that are put into guest memory, and where. -/
  filling? : Option (Word × ByteArray) := none
  events : List Event := []

namespace Effect

variable (e : Effect)

/-- The streams after the call. -/
def table (t : StreamTable StoredStream) (w : Word) : StreamTable StoredStream :=
  match e.file? with
  | some file => t.put w file
  | none => t.close w

/-- The files after the call. -/
def files (s : FileStore) (name : String) : FileStore :=
  match e.content? with
  | some content => s.insert name content
  | none => s

/-- Guest memory after the call. -/
def memory (m : Memory) : Memory :=
  match e.filling? with
  | some (address, data) => m.fill address data
  | none => m

/-- How often the call is counted: once, unless it faults. -/
def count : Nat :=
  match e.outcome with
  | .ok _ => 1
  | .error _ => 0

/-- The effect, carried out in a session. -/
def answer (t : StreamTable StoredStream) (w : Word) (name : String) (m : Memory)
    (host : Host FileStore) : Answer (StreamTable StoredStream) FileStore where
  outcome := e.outcome
  handler := e.table t w
  memory := e.memory m
  host := { host with files := e.files host.files name }
  events := e.events

/-- Only a write changes the file, and only a read fills memory, within the window it was given. -/
structure Of (e : Effect) (r : Request) : Prop where
  content : e.content?.isSome → r.service? = some .fwrite
  filling : ∀ {address data}, e.filling? = some (address, data) →
    r.service? = some .fread ∧ address = r.arg 0 ∧ data.size ≤ r.length

end Effect

/-- Two sessions show a request on a stream the same: the limit, the content of the file, the size
of guest memory and, if the request is for a write, the window that it reads. -/
structure Request.Sees (r : Request) (name : String) (s s' : FileStore) (m m' : Memory) : Prop where
  limit : s'.limit = s.limit
  content : s'.content name = s.content name
  size : m'.size = m.size
  window : r.service? = some .fwrite → m.AgreesOn m' (r.arg 0) r.length

/-! ### Transfers depend on the file alone -/

namespace FileStore

variable {s s' : FileStore} {file : OpenFile StoredStream}

theorem fill_congr (content : s'.content file.stream.name = s.content file.stream.name)
    (wanted : Nat) : file.fill s' wanted = file.fill s wanted := by
  cases readable : file.stream.mode.readable with
  | true => rw [fill_eq readable, fill_eq readable, content]
  | false =>
    rcases Nat.eq_zero_or_pos wanted with rfl | pos
    · rfl
    · rw [fill_of_unreadable readable pos, fill_of_unreadable readable pos]

theorem seek_congr {stream : StoredStream}
    (content : s'.content stream.name = s.content stream.name) (seek : Seek) :
    FileHost.seek s' stream seek = FileHost.seek s stream seek := by
  have unfolded : FileHost.seek s' stream seek = s'.seek stream seek := rfl
  rw [unfolded, FileStore.seek, content]
  rfl

theorem writeStart_congr {stream : StoredStream}
    (content : s'.content stream.name = s.content stream.name) :
    s'.writeStart stream = s.writeStart stream := by
  rw [writeStart, writeStart, content]

theorem allowance_congr {stream : StoredStream} (limit : s'.limit = s.limit)
    (content : s'.content stream.name = s.content stream.name) (count : Nat) :
    s'.allowance stream count = s.allowance stream count := by
  rw [allowance, allowance, room, room, limit, writeStart_congr content]

/-- What a write puts in place, if it gets anything accepted. -/
def written? (s : FileStore) (stream : StoredStream) (data : ByteArray) : Option ByteArray :=
  let taken := s.allowance stream data.size
  if taken = 0 then none
  else some (Bytes.overlay (s.content stream.name) (s.writeStart stream)
    (Bytes.window data 0 taken))

theorem drain_congr (limit : s'.limit = s.limit)
    (content : s'.content file.stream.name = s.content file.stream.name) (data : ByteArray) :
    file.drain s' data =
      { file.drain s data with
        files := match s.written? file.stream data with
          | some content => s'.insert file.stream.name content
          | none => s' } := by
  rw [drain_eq, drain_eq, written?, allowance_congr limit content, writeStart_congr content,
    content]
  dsimp only
  split <;> rfl

end FileStore

/-! ### One service after the other -/

variable {r : Request} {w : Word} {file : OpenFile StoredStream} {s : FileStore} {m : Memory}

/-- Setting a handle to the open file that it has changes nothing. -/
theorem StreamTable.put_of_get? {t : StreamTable StoredStream} (live : t.get? w = some file) :
    t.put w file = t := by
  rw [put, Table.insert_of_get?_eq_some live]

/-- A read delivers no more than it was asked for. -/
theorem StreamTable.size_items_le (host : Host FileStore) (file : OpenFile StoredStream)
    (size count : Word) : (items host file size count).size ≤ size.toNat * count.toNat := by
  have window : (items host file size count).size ≤
      (file.fill host.files (size.toNat * count.toNat)).data.size :=
    (Bytes.size_window ..).trans_le (Nat.min_le_right ..)
  exact window.trans (OpenFile.size_fill_le ..)

theorem StreamTable.items_congr {host host' : Host FileStore}
    (content : host'.files.content file.stream.name = host.files.content file.stream.name)
    (size count : Word) : items host' file size count = items host file size count := by
  rw [items, items, FileStore.fill_congr content]

/-- The effect is what a service comes to on the open file, in any session that shows the request
the same. -/
structure Effect.Describes (e : Effect) (r : Request) (w : Word) (file : OpenFile StoredStream)
    (s : FileStore) (m : Memory)
    (act : StreamTable StoredStream → Reaction (StreamTable StoredStream) FileStore) : Prop where
  of : e.Of r
  eq : ∀ {t : StreamTable StoredStream} {host : Host FileStore} {m' : Memory},
    t.get? w = some file → r.Sees file.stream.name s host.files m m' →
    act t m' host = e.answer t w file.stream.name m' host

namespace Effect

/-- A call with this outcome and no other effect. -/
def still (outcome : Except Fault Word) (file : OpenFile StoredStream) : Effect where
  outcome
  file? := some file

/-- A call with this outcome that has read from the stream. -/
def pulled (outcome : Except Fault Word) (filled : Filled StoredStream) : Effect where
  outcome
  file? := some filled.file
  events := filled.failure.toList.map .readFailed

theorem of_still (outcome : Except Fault Word) (r : Request) : (still outcome file).Of r :=
  { content := nofun, filling := nofun }

theorem of_pulled (outcome : Except Fault Word) (filled : Filled StoredStream) (r : Request) :
    (pulled outcome filled).Of r :=
  { content := nofun, filling := nofun }

theorem answer_still {t : StreamTable StoredStream} (live : t.get? w = some file) (name : String)
    (outcome : Except Fault Word) (m : Memory) (host : Host FileStore) :
    (still outcome file).answer t w name m host = { outcome, handler := t, memory := m, host } := by
  simp only [answer, still, table, files, memory, StreamTable.put_of_get? live]

end Effect

namespace Request

theorem exists_effect_of_fread (hs : r.service? = some .fread) (file : OpenFile StoredStream)
    (s : FileStore) (m : Memory) :
    ∃ e : Effect, e.Describes r (r.arg 3) file s m fun t =>
      t.fread r.number (r.arg 0) (r.arg 1) (r.arg 2) (r.arg 3) := by
  rcases Nat.lt_or_ge StreamTable.transferLimit ((r.arg 1).toNat * (r.arg 2).toNat) with
    large | small
  · refine ⟨.still (.error (.transferTooLarge r.number (UInt64.ofNat
      (min ((r.arg 1).toNat * (r.arg 2).toNat) (2 ^ 64 - 1))))) file, Effect.of_still _ r,
      fun live _ => ?_⟩
    rw [StreamTable.fread_of_large large, Effect.answer_still live]
    rfl
  · rcases Nat.eq_zero_or_pos ((r.arg 1).toNat * (r.arg 2).toNat) with none | pos
    · refine ⟨.still (.ok 0) file, Effect.of_still _ r, fun live _ => ?_⟩
      rw [StreamTable.fread_of_idle small (Or.inl none), Effect.answer_still live]
      rfl
    · let filled := file.fill s ((r.arg 1).toNat * (r.arg 2).toNat)
      let items := StreamTable.items { files := s } file (r.arg 1) (r.arg 2)
      let outcome : Except Fault Word :=
        if m.Holds (r.arg 0) items.size then
          .ok (UInt64.ofNat (filled.data.size / (r.arg 1).toNat))
        else .error (.outOfBounds (r.arg 0) (UInt64.ofNat items.size))
      refine ⟨{ Effect.pulled outcome filled with filling? := some (r.arg 0, items) },
        { content := nofun, filling := ?_ }, fun {t host m'} live sees => ?_⟩
      · rintro _ _ ⟨⟩
        exact ⟨hs, rfl, StreamTable.size_items_le ..⟩
      · have same : file.fill host.files ((r.arg 1).toNat * (r.arg 2).toNat) = filled :=
          FileStore.fill_congr sees.content _
        have delivered : StreamTable.items host file (r.arg 1) (r.arg 2) = items :=
          StreamTable.items_congr sees.content ..
        rw [StreamTable.fread_of_live pos small live, same, delivered]
        dsimp only
        -- The items find room in one memory if they do in the other.
        have room : m'.Holds (r.arg 0) items.size ↔ m.Holds (r.arg 0) items.size :=
          Memory.holds_congr sees.size
        cases stored : m'.store (r.arg 0) items with
        | ok n =>
          have held := room.mp (Memory.store_eq_ok_iff.mp stored).1
          simp only [Effect.answer, Effect.table, Effect.files, Effect.memory, Effect.pulled,
            Memory.fill, outcome, stored, if_pos held]
        | error fault =>
          obtain ⟨outside, rfl⟩ := Memory.store_eq_error_iff.mp stored
          simp only [Effect.answer, Effect.table, Effect.files, Effect.memory, Effect.pulled,
            Memory.fill, outcome, stored, if_neg (mt room.mpr outside)]

theorem exists_effect_of_fwrite (hs : r.service? = some .fwrite) (file : OpenFile StoredStream)
    (s : FileStore) (m : Memory) :
    ∃ e : Effect, e.Describes r (r.arg 3) file s m fun t =>
      t.fwrite r.number (r.arg 0) (r.arg 1) (r.arg 2) (r.arg 3) := by
  rcases Nat.lt_or_ge StreamTable.transferLimit ((r.arg 1).toNat * (r.arg 2).toNat) with
    large | small
  · refine ⟨.still (.error (.transferTooLarge r.number (UInt64.ofNat
      (min ((r.arg 1).toNat * (r.arg 2).toNat) (2 ^ 64 - 1))))) file, Effect.of_still _ r,
      fun live _ => ?_⟩
    rw [StreamTable.fwrite_of_large large, Effect.answer_still live]
    rfl
  · rcases Nat.eq_zero_or_pos ((r.arg 1).toNat * (r.arg 2).toNat) with none | pos
    · refine ⟨.still (.ok 0) file, Effect.of_still _ r, fun live _ => ?_⟩
      rw [StreamTable.fwrite_of_idle small (Or.inl none), Effect.answer_still live]
      rfl
    · by_cases held : m.Holds (r.arg 0) r.length
      · let data := Bytes.window m.bytes (r.arg 0).toNat r.length
        let drained := file.drain s data
        refine ⟨{ outcome := .ok (UInt64.ofNat (drained.count / (r.arg 1).toNat))
                  file? := some drained.file
                  content? := s.written? file.stream data
                  events := drained.failure.toList.map .writeFailed },
          { content := fun _ => hs, filling := nofun }, fun {t host m'} live sees => ?_⟩
        have held' : m'.Holds (r.arg 0) ((r.arg 1).toNat * (r.arg 2).toNat) :=
          (Memory.holds_congr sees.size).mpr held
        have read : Bytes.window m'.bytes (r.arg 0).toNat ((r.arg 1).toNat * (r.arg 2).toNat) =
            data := Bytes.window_congr (sees.window hs).getElem?_eq
        rw [StreamTable.fwrite_of_held pos small live held', read]
        dsimp only
        rw [FileStore.drain_congr sees.limit sees.content]
        rfl
      · refine ⟨.still (.error (.outOfBounds (r.arg 0) (UInt64.ofNat r.length))) file,
          Effect.of_still _ r, fun live sees => ?_⟩
        rw [StreamTable.fwrite_of_outside pos small live
          (mt (Memory.holds_congr sees.size).mp held), Effect.answer_still live]
        rfl

theorem exists_effect_of_fgetc (r : Request) (file : OpenFile StoredStream) (s : FileStore)
    (m : Memory) :
    ∃ e : Effect, e.Describes r (r.arg 0) file s m fun t => t.fgetc (r.arg 0) := by
  -- The result is the byte if there is exactly one, and a failure if there is none.
  rcases data : (file.fill s 1).data.data.toList with _ | ⟨byte, _ | ⟨second, others⟩⟩
  · refine ⟨.pulled (.ok StreamTable.failure) (file.fill s 1), Effect.of_pulled _ _ r,
      fun live sees => ?_⟩
    rw [StreamTable.fgetc_of_live live, FileStore.fill_congr sees.content]
    simp only [data]
    rfl
  · refine ⟨.pulled (.ok byte.toUInt64) (file.fill s 1), Effect.of_pulled _ _ r,
      fun live sees => ?_⟩
    rw [StreamTable.fgetc_of_live live, FileStore.fill_congr sees.content]
    simp only [data]
    rfl
  · refine ⟨.pulled (.ok StreamTable.failure) (file.fill s 1), Effect.of_pulled _ _ r,
      fun live sees => ?_⟩
    rw [StreamTable.fgetc_of_live live, FileStore.fill_congr sees.content]
    simp only [data]
    rfl

theorem exists_effect_of_ftell (r : Request) (file : OpenFile StoredStream) (s : FileStore)
    (m : Memory) :
    ∃ e : Effect, e.Describes r (r.arg 0) file s m fun t => t.ftell (r.arg 0) := by
  rcases moved : FileHost.seek s file.stream (.current 0) with ⟨reason | position, stream⟩
  · refine ⟨.still (.ok StreamTable.failure) { file with stream }, Effect.of_still _ r,
      fun live sees => ?_⟩
    rw [StreamTable.ftell_of_live live, FileStore.seek_congr sees.content, moved]
    rfl
  · refine ⟨.still (.ok (UInt64.ofNat position)) { file with stream }, Effect.of_still _ r,
      fun live sees => ?_⟩
    rw [StreamTable.ftell_of_live live, FileStore.seek_congr sees.content, moved]
    rfl

theorem exists_effect_of_fseek (r : Request) (file : OpenFile StoredStream) (s : FileStore)
    (m : Memory) :
    ∃ e : Effect, e.Describes r (r.arg 0) file s m fun t =>
      t.fseek (r.arg 0) (r.arg 1) (r.arg 2) := by
  cases asked : StreamTable.seek? (r.arg 1) (r.arg 2) with
  | none =>
    refine ⟨.still (.ok StreamTable.failure) file, Effect.of_still _ r, fun live _ => ?_⟩
    rw [StreamTable.fseek_of_misput asked, Effect.answer_still live]
    rfl
  | some seek =>
    rcases moved : FileHost.seek s file.stream seek with ⟨reason | position, stream⟩
    · refine ⟨.still (.ok StreamTable.failure) { file with stream },
        Effect.of_still _ r, fun live sees => ?_⟩
      rw [StreamTable.fseek_of_live live asked, FileStore.seek_congr sees.content, moved]
      rfl
    · refine ⟨.still (.ok 0) { file with stream, eof := false }, Effect.of_still _ r,
        fun live sees => ?_⟩
      rw [StreamTable.fseek_of_live live asked, FileStore.seek_congr sees.content, moved]
      rfl

theorem exists_effect_of_flag (r : Request) (file : OpenFile StoredStream) (s : FileStore)
    (m : Memory) (of : OpenFile StoredStream → Bool) :
    ∃ e : Effect, e.Describes r (r.arg 0) file s m fun t => t.flag (r.arg 0) of := by
  refine ⟨.still (.ok (if of file then 1 else 0)) file, Effect.of_still _ r, fun live _ => ?_⟩
  rw [StreamTable.flag, live, Effect.answer_still live]
  rfl

theorem exists_effect_of_fclose (r : Request) (file : OpenFile StoredStream) (s : FileStore)
    (m : Memory) :
    ∃ e : Effect, e.Describes r (r.arg 0) file s m fun t => t.fclose (r.arg 0) := by
  refine ⟨{ outcome := .ok 0, file? := none },
    { content := nofun, filling := nofun }, fun live _ => ?_⟩
  rw [StreamTable.fclose, live]
  rfl

/-- A call on an open stream has one effect, wherever it sees the same. -/
theorem exists_effect (on : r.On w) :
    ∃ act : StreamTable StoredStream → Reaction (StreamTable StoredStream) FileStore,
      (∀ t : StreamTable StoredStream, t.react? r = some (act t)) ∧
        ∀ file s m, ∃ e : Effect, e.Describes r w file s m act := by
  have named := on.named
  cases hs : r.service? with
  | none => simp [handle?, hs] at named
  | some service =>
    simp only [handle?, hs] at named
    cases service with
    | freopen => exact absurd hs on.stays
    | fread =>
      cases named
      exact ⟨_, fun t => by simp only [StreamTable.react?, hs], exists_effect_of_fread hs⟩
    | fwrite =>
      cases named
      exact ⟨_, fun t => by simp only [StreamTable.react?, hs], exists_effect_of_fwrite hs⟩
    | fgetc =>
      cases named
      exact ⟨_, fun t => by simp only [StreamTable.react?, hs], exists_effect_of_fgetc r⟩
    | ftell =>
      cases named
      exact ⟨_, fun t => by simp only [StreamTable.react?, hs], exists_effect_of_ftell r⟩
    | fseek =>
      cases named
      exact ⟨_, fun t => by simp only [StreamTable.react?, hs], exists_effect_of_fseek r⟩
    | feof =>
      cases named
      exact ⟨_, fun t => by simp only [StreamTable.react?, hs],
        fun file s m => exists_effect_of_flag r file s m OpenFile.eof⟩
    | ferror =>
      cases named
      exact ⟨_, fun t => by simp only [StreamTable.react?, hs],
        fun file s m => exists_effect_of_flag r file s m OpenFile.error⟩
    | fclose =>
      cases named
      exact ⟨_, fun t => by simp only [StreamTable.react?, hs], exists_effect_of_fclose r⟩
    | _ => cases named

end Request

/-! ### Calls with an effect -/

/-- Servicing a call carries out an effect on the stream of a handle, and nothing else. -/
structure Turn.CarriesOut (x : Turn FileStore StoredStream) (e : Effect) (w : Word)
    (name : String) : Prop where
  outcome : x.serviced.outcome = e.outcome.map x.request.answered
  memory : x.serviced.machine.memory = e.memory x.memory
  after : ∀ {t : StreamTable StoredStream} {rest : List (Handler StoredStream)},
    x.debugger.handlers = .streams t :: rest →
      x.after =
        { debugger :=
            { handlers := .streams (e.table t w) :: rest
              served := x.debugger.served + e.count }
          host := { x.host with files := e.files x.host.files name } }

/-- A call that is answered with an effect carries it out. -/
theorem Turn.carriesOut_of_answer {x : Turn FileStore StoredStream} {e : Effect} {name : String}
    {t : StreamTable StoredStream} {rest : List (Handler StoredStream)}
    (h : x.debugger.handlers = .streams t :: rest)
    (answer : x.answer? =
      some ((e.answer t w name x.memory x.host).map (.streams · :: rest))) :
    x.CarriesOut e w name := by
  cases outcome : e.outcome with
  | ok result =>
    have serviced := serviced_of_ok answer outcome
    refine ⟨?_, ?_, fun {t' rest'} h' => ?_⟩
    · rw [serviced, outcome]
      rfl
    · rw [serviced]
      rfl
    · cases h.symm.trans h'
      rw [after, serviced, Effect.count, outcome]
      rfl
  | error fault =>
    have serviced := serviced_of_error answer outcome
    refine ⟨?_, ?_, fun {t' rest'} h' => ?_⟩
    · rw [serviced, outcome]
      rfl
    · rw [serviced]
      rfl
    · cases h.symm.trans h'
      rw [after, serviced, Effect.count, outcome]
      rfl

/-- A request on an open stream has an effect: any session that shows it the same as this one
carries the effect out. -/
structure Request.HasEffect (r : Request) (e : Effect) (w : Word) (file : OpenFile StoredStream)
    (s : FileStore) (m : Memory) : Prop where
  of : e.Of r
  carries : ∀ {x : Turn FileStore StoredStream} {t : StreamTable StoredStream}
    {rest : List (Handler StoredStream)}, x.request = r →
      x.debugger.handlers = .streams t :: rest → t.get? w = some file →
      r.Sees file.stream.name s x.host.files m x.memory → x.CarriesOut e w file.stream.name

/-- Every request on an open stream has an effect. -/
theorem Request.exists_hasEffect (on : r.On w) (file : OpenFile StoredStream) (s : FileStore)
    (m : Memory) : ∃ e : Effect, r.HasEffect e w file s m := by
  obtain ⟨act, reacts, effect⟩ := exists_effect on
  obtain ⟨e, describes⟩ := effect file s m
  refine ⟨e, describes.of, fun {x t rest} asked h live sees => Turn.carriesOut_of_answer h ?_⟩
  subst asked
  rw [Turn.answer?_of_streams h (reacts t), describes.eq live sees]

end Semihosting
