import Semihosting.Proofs.HostFiles

/-!
# One file behind one handle

For as long as a guest keeps a stream on a stored file to itself, three things stay together: the
handle, the open file and the content. This module follows them over single calls, of which some
are about the handle and the others are not.

## Main definitions

* `Stage.Stores` — a file and its content
* `Stage.Carries` — a handle with its open file and the content behind it
* `Turn.Apart` — a call that is about neither the handle nor the file
* `Turn.Writes`, `Turn.Fetches` — a transfer that the guest has room for
* `OpenFile.writing`, `OpenFile.reading` — how far a guest has written, and how far it has asked

## Main results

* `Stage.Carries.apart` — calls that are apart change nothing
* `Stage.Carries.fwrite`, `Stage.Carries.fread`, `Stage.Carries.fgetc`, `Stage.Carries.flag` — what
  the other calls do
-/

namespace Semihosting

open Debugger (panel)

/-! ### Calls -/

namespace Turn

/-- The result of the call, or zero if there is none. -/
def returned {σ ς : Type} [FileHost σ ς] (x : Turn σ ς) : Word := x.result?.getD 0

variable {x : Turn FileStore StoredStream} {w : Word} {name : String}

/-- The call opens a path in a mode of one letter. -/
structure Opens (x : Turn FileStore StoredStream) (path : ByteArray) (letter : UInt8) : Prop where
  service : x.service? = some .fopen
  named : x.memory.HoldsString (x.arg 0) path
  spelled : x.memory.HoldsString (x.arg 1) ⟨#[letter]⟩

/-- The call asks for a flag of a handle. -/
def Asks (x : Turn FileStore StoredStream) (w : Word) : Prop :=
  (x.service? = some .feof ∨ x.service? = some .ferror) ∧ x.arg 0 = w

/-- The call writes to a handle a piece of memory, cut into items of some size. -/
structure Writes (x : Turn FileStore StoredStream) (w : Word) : Prop where
  service : x.service? = some .fwrite
  /-- It is about the handle. -/
  handle : x.arg 3 = w
  size : 0 < (x.arg 1).toNat
  /-- The piece is within the limit on transfers. -/
  small : x.length ≤ StreamTable.transferLimit
  /-- The piece lies in memory. -/
  held : x.memory.Holds (x.arg 0) x.length

/-- The call reads bytes from a handle into memory. -/
structure Fetches (x : Turn FileStore StoredStream) (w : Word) : Prop where
  service : x.service? = some .fread
  /-- It is about the handle. -/
  handle : x.arg 3 = w
  size : x.arg 1 = 1
  pos : 0 < (x.arg 2).toNat
  /-- It is within the limit on transfers. -/
  small : (x.arg 2).toNat ≤ StreamTable.transferLimit
  /-- The destination lies in memory. -/
  held : x.memory.Holds (x.arg 0) (x.arg 2).toNat

/-- The call is not about the handle, and leaves the file alone. -/
def Apart (x : Turn FileStore StoredStream) (w : Word) (name : String) : Prop :=
  x.request.handle? ≠ some w ∧ x.Spares name

/-- The bytes that the call gives to a stream. -/
def sent (x : Turn FileStore StoredStream) : List UInt8 :=
  match x.service? with
  | some .fwrite => (Bytes.window x.memory.bytes (x.arg 0).toNat x.length).data.toList
  | _ => []

/-- How many bytes the call wants from a stream. -/
def wanted (x : Turn FileStore StoredStream) : Nat :=
  match x.service? with
  | some .fread => (x.arg 2).toNat
  | some .fgetc => 1
  | _ => 0

/-- The bytes that the guest has of the call: as many in memory as the result of a read says, or the
result itself unless it says that there is no byte. -/
def delivered (x : Turn FileStore StoredStream) : List UInt8 :=
  match x.service? with
  | some .fread =>
    (Bytes.window x.serviced.machine.memory.bytes (x.arg 0).toNat x.returned.toNat).data.toList
  | some .fgetc => if x.returned < 256 then [x.returned.toUInt8] else []
  | _ => []

end Turn

namespace OpenFile

/-- A file opened for writing, after some bytes. -/
def writing (name : String) (position : Nat) : OpenFile StoredStream :=
  { stream := { name, mode := { purpose := .write }, position } }

/-- A file opened for reading, after some bytes were asked for. -/
def reading (name : String) (content : ByteArray) (asked : Nat) : OpenFile StoredStream :=
  { stream := { name, mode := { purpose := .read }, position := min asked content.size }
    eof := decide (content.size < asked) }

/-- Asking for more bytes delivers the next ones and remembers that they were asked for. -/
theorem fill_reading {s : FileStore} {name : String} {content : ByteArray} {asked wanted : Nat}
    (stored : s.get? name = some content) :
    (reading name content asked).fill s wanted =
      { data := Bytes.window content asked wanted
        file := reading name content (asked + wanted) } := by
  have found : s.content (reading name content asked).stream.name = content := by
    rw [FileStore.content, reading, stored]
    rfl
  -- Beyond the end of the content there is nothing, wherever one looks.
  have same : Bytes.window content (min asked content.size) wanted =
      Bytes.window content asked wanted := by
    apply Bytes.ext_toList
    rw [Bytes.toList_window, Bytes.toList_window]
    rcases Nat.le_total asked content.size with inside | outside
    · rw [Nat.min_eq_left inside]
    · rw [Nat.min_eq_right outside,
        List.drop_of_length_le (Nat.le_of_eq (Bytes.length_toList content)),
        List.drop_of_length_le (by rw [Bytes.length_toList]; exact outside)]
  have position : min asked content.size + (Bytes.window content asked wanted).size =
      min (asked + wanted) content.size := by
    rw [Bytes.size_window]
    omega
  have eof : (decide (content.size < asked) ||
      decide ((Bytes.window content asked wanted).size < wanted)) =
      decide (content.size < asked + wanted) := by
    rw [Bytes.size_window, ← Bool.decide_or]
    congr 1
    rw [eq_iff_iff]
    omega
  rw [FileStore.fill_eq rfl, found]
  simp only [reading, same, position, eof]

/-- Writing within the limit puts the data behind what is there. -/
theorem drain_writing {s : FileStore} {name : String} {content data : ByteArray}
    (stored : s.get? name = some content) (pos : 0 < data.size)
    (room : content.size + data.size ≤ s.limit) :
    (writing name content.size).drain s data =
      { count := data.size
        files := s.insert name (content ++ data)
        file := writing name (content ++ data).size } := by
  have found : s.content name = content := by
    rw [FileStore.content, stored]
    rfl
  have allowed : s.allowance (writing name content.size).stream data.size = data.size := by
    rw [FileStore.allowance_of_writable rfl, FileStore.writeStart_of_direct rfl]
    dsimp only [writing]
    omega
  -- The position of the stream is the end of the file.
  rw [FileStore.drain_eq, allowed, FileStore.writeStart_of_direct rfl]
  simp only [writing, found, Bytes.window_size, Bytes.overlay_size, ByteArray.size_append,
    if_neg (Nat.ne_of_gt pos), if_neg (Nat.lt_irrefl _), decide_eq_false (Nat.lt_irrefl _),
    Bool.or_false]

end OpenFile

/-- A read of single bytes stores everything that the stream delivers. -/
theorem StreamTable.fread_of_bytes {σ ς : Type} [FileHost σ ς] {t : StreamTable ς}
    {memory : Memory} {address count handle : Word} {file : OpenFile ς} (host : Host σ)
    (number : Word) (pos : 0 < count.toNat) (small : count.toNat ≤ transferLimit)
    (live : t.get? handle = some file) (held : memory.Holds address count.toNat) :
    ∃ m, memory.store address (file.fill host.files count.toNat).data = .ok m ∧
      t.fread number address 1 count handle memory host =
        { outcome := .ok (UInt64.ofNat (file.fill host.files count.toNat).data.size)
          handler := t.put handle (file.fill host.files count.toNat).file
          memory := m
          host
          events := (file.fill host.files count.toNat).failure.toList.map .readFailed } := by
  have one : (1 : Word).toNat * count.toNat = count.toNat := Nat.one_mul _
  -- Items of one byte are always whole, so none of the bytes is dropped.
  have whole : items host file 1 count = (file.fill host.files count.toNat).data := by
    rw [items, one, UInt64.toNat_one, Nat.div_one, Nat.mul_one, Bytes.window_size]
  have fits : memory.Holds address (file.fill host.files count.toNat).data.size :=
    Nat.le_trans (Nat.add_le_add_left (OpenFile.size_fill_le _ _ _) _) held
  cases stored : memory.store address (file.fill host.files count.toNat).data with
  | error fault => exact absurd fits (Memory.store_eq_error_iff.mp stored).1
  | ok m =>
    refine ⟨m, rfl, ?_⟩
    rw [fread_of_live (by rw [one]; exact pos) (by rw [one]; exact small) live, whole, one]
    simp only [UInt64.toNat_one, Nat.div_one, stored]

/-- The result of a read of one byte: the byte, or minus one if there is none. -/
def StreamTable.byteResult : Option UInt8 → Word
  | some byte => byte.toUInt64
  | none => failure

/-- A read of one byte looks at the window of one byte. -/
theorem StreamTable.byteResult_eq {content : ByteArray} {asked : Nat} :
    byteResult content.data.toList[asked]? =
      match (Bytes.window content asked 1).data.toList with
      | [byte] => byte.toUInt64
      | _ => failure := by
  rw [Bytes.toList_window]
  cases h : content.data.toList[asked]? with
  | none =>
    rw [List.drop_of_length_le (List.getElem?_eq_none_iff.mp h)]
    rfl
  | some byte =>
    obtain ⟨inside, rfl⟩ := List.getElem?_eq_some_iff.mp h
    rw [List.drop_eq_getElem_cons inside]
    rfl

/-- Minus one is no byte, so the guest can tell whether one was delivered. -/
theorem Turn.delivered_of_fgetc {x : Turn FileStore StoredStream} {bytes : List UInt8}
    {asked : Nat} (hs : x.service? = some .fgetc)
    (result : x.result? = some (StreamTable.byteResult bytes[asked]?)) :
    x.delivered = (bytes.drop asked).take 1 := by
  rw [delivered, hs]
  dsimp only
  rw [returned, result]
  cases h : bytes[asked]? with
  | none =>
    rw [List.drop_of_length_le (List.getElem?_eq_none_iff.mp h)]
    rfl
  | some byte =>
    obtain ⟨inside, rfl⟩ := List.getElem?_eq_some_iff.mp h
    -- A byte is never as great as minus one, which is no byte.
    have small : bytes[asked].toUInt64 < 256 := by
      rw [UInt64.lt_iff_toNat_lt, UInt8.toNat_toUInt64]
      exact bytes[asked].toNat_lt
    rw [List.drop_eq_getElem_cons inside, List.take_succ_cons, List.take_zero]
    simp only [StreamTable.byteResult, Option.getD_some, if_pos small, UInt8.toUInt8_toUInt64]

/-! ### The invariant -/

namespace Stage

variable {s : Stage FileStore StoredStream} {x : Turn FileStore StoredStream}
variable {w : Word} {opens limit : Nat} {file : OpenFile StoredStream} {name : String}
variable {content : ByteArray}

/-- A debugging session has a store with a limit, and a file with some content in it. -/
structure Stores (s : Stage FileStore StoredStream) (limit : Nat) (name : String)
    (content : ByteArray) : Prop where
  /-- It is a debugging session. -/
  session : ∃ t f c, s.debugger.handlers = panel t f c
  /-- The store has its limit. -/
  limit : s.host.files.limit = limit
  /-- The file has its content. -/
  stored : s.host.files.get? name = some content

/-- A session has an open file under a handle, and the content behind the open file. -/
structure Carries (s : Stage FileStore StoredStream) (w : Word) (opens limit : Nat)
    (file : OpenFile StoredStream) (content : ByteArray) : Prop
    extends s.Stores limit file.stream.name content where
  /-- The handle has the open file. -/
  live : s.debugger.table.get? w = some file
  /-- So many handles were handed out since. -/
  next : s.debugger.table.next = w + 1 + UInt64.ofNat opens

/-- A call that spares the file changes nothing about it. -/
theorem Stores.after (stores : x.toStage.Stores limit name content) (spares : x.Spares name) :
    x.after.Stores limit name content := by
  obtain ⟨t, f, c, h⟩ := stores.session
  refine ⟨Turn.exists_panel_after h, ?_, Turn.get?_after h spares stores.stored⟩
  rw [Turn.limit_after h]
  exact stores.limit

/-- So does a whole run of them. -/
theorem Stores.run {s' : Stage FileStore StoredStream} {turns : List (Turn FileStore StoredStream)}
    (run : Transcript s turns s') (stores : s.Stores limit name content)
    (spares : ∀ x ∈ turns, x.Spares name) : s'.Stores limit name content := by
  induction run with
  | nil => exact stores
  | @snoc turns s' run machine ih =>
    have there := ih fun x hx => spares x (List.mem_append_left _ hx)
    exact Stores.after (x := ⟨s', machine⟩) there (spares _ (by simp))

/-- What the invariant says of the stream table of the session. -/
theorem Carries.exists_panel (carries : s.Carries w opens limit file content) :
    ∃ t f c, s.debugger.handlers = Debugger.panel t f c ∧ t.get? w = some file ∧
      t.next = w + 1 + UInt64.ofNat opens := by
  obtain ⟨t, f, c, h⟩ := carries.session
  have table : s.debugger.table = t := Debugger.table_eq h
  refine ⟨t, f, c, h, ?_, ?_⟩
  · rw [← table]
    exact carries.live
  · rw [← table]
    exact carries.next

/-- Calls that are apart change nothing, even if they open other streams. -/
theorem Carries.apart (carries : x.toStage.Carries w opens limit file content)
    (apart : x.Apart w file.stream.name) (few : opens + x.opened?.toList.length < 2 ^ 64) :
    x.after.Carries w (opens + x.opened?.toList.length) limit file content := by
  obtain ⟨t, f, c, h, live, next⟩ := carries.exists_panel
  obtain ⟨t', rest', h', step⟩ := Turn.exists_tableStep h
  obtain ⟨unnamed, spares⟩ := apart
  -- The counter does not come round to the handle again.
  have fresh : x.opened? ≠ some w := by
    intro handed
    have same : w = w + 1 + UInt64.ofNat opens := (step.eq_next handed).trans next
    rw [handed, Option.toList_some, List.length_singleton] at few
    have := congrArg UInt64.toNat same
    rw [UInt64.toNat_add, UInt64.toNat_add, UInt64.toNat_one,
      UInt64.toNat_ofNat_of_lt' (by rw [UInt64.size]; omega)] at this
    have := w.toNat_lt
    omega
  refine ⟨carries.toStores.after spares, ?_, ?_⟩
  · rw [Debugger.table_eq h', step.get?_eq unnamed fresh]
    exact live
  · rw [Debugger.table_eq h', step.next_eq, next, UInt64.ofNat_add, UInt64.add_assoc]

/-! ### Calls on the handle -/

/-- What an answer of the stream table makes of the invariant. -/
theorem Carries.of_answer {t : StreamTable StoredStream} {f : InputFeed} {c : Console}
    {answer : Answer (StreamTable StoredStream) FileStore} {file' : OpenFile StoredStream}
    {content' : ByteArray} (carries : x.toStage.Carries w opens limit file content)
    (h : x.debugger.handlers = panel t f c)
    (answered : x.answer? = some (answer.map (panel · f c)))
    (live : answer.handler.get? w = some file') (next : answer.handler.next = t.next)
    (kept : answer.host.files.limit = limit)
    (stored : answer.host.files.get? file'.stream.name = some content') :
    x.after.Carries w opens limit file' content' := by
  have handlers : x.after.debugger.handlers = panel answer.handler f c :=
    Turn.handlers_after answered
  have host : x.after.host = answer.host := Turn.host_after answered
  have before : t.next = w + 1 + UInt64.ofNat opens := by
    rw [← carries.next, Debugger.table_eq h]
  have stores : x.after.Stores limit file'.stream.name content' := by
    refine ⟨⟨_, _, _, handlers⟩, ?_, ?_⟩
    · rw [host]
      exact kept
    · rw [host]
      exact stored
  refine ⟨stores, ?_, ?_⟩
  · rw [Debugger.table_eq handlers]
    exact live
  · rw [Debugger.table_eq handlers, next]
    exact before

/-- Asking for a flag changes nothing. -/
theorem Carries.flag (carries : x.toStage.Carries w opens limit file content) (asks : x.Asks w) :
    (x.service? = some .feof → x.result? = some (if file.eof then 1 else 0)) ∧
      (x.service? = some .ferror → x.result? = some (if file.error then 1 else 0)) ∧
      x.after.Carries w opens limit file content := by
  obtain ⟨t, f, c, h, live, -⟩ := carries.exists_panel
  obtain ⟨service, rfl⟩ := asks
  -- The two flags are asked for alike.
  have answered (flag : OpenFile StoredStream → Bool)
      (hact : t.react? (σ := FileStore) x.request = some (t.flag (x.arg 0) flag)) :
      x.result? = some (if flag file then 1 else 0) ∧
        x.after.Carries (x.arg 0) opens limit file content := by
    have answer := Turn.answer?_streams h hact
    refine ⟨?_, carries.of_answer h answer live rfl carries.limit carries.stored⟩
    rw [Turn.result?_eq answer, Answer.map, StreamTable.flag, live]
    rfl
  refine ⟨fun hs => (answered _ (Turn.react?_of_service hs)).1,
    fun hs => (answered _ (Turn.react?_of_service hs)).1, ?_⟩
  rcases service with hs | hs
  · exact (answered _ (Turn.react?_of_service hs)).2
  · exact (answered _ (Turn.react?_of_service hs)).2

/-- Reading one byte delivers the next one, or minus one at the end. -/
theorem Carries.fgetc {asked : Nat}
    (carries : x.toStage.Carries w opens limit (.reading name content asked) content)
    (hs : x.service? = some .fgetc) (handle : x.arg 0 = w) :
    x.result? = some (StreamTable.byteResult content.data.toList[asked]?) ∧
      x.after.Carries w opens limit (.reading name content (asked + 1)) content := by
  obtain ⟨t, f, c, h, live, -⟩ := carries.exists_panel
  subst handle
  have stored : x.host.files.get? name = some content := carries.stored
  have answer := Turn.answer?_streams h (Turn.react?_of_service hs)
  rw [StreamTable.fgetc_of_live live, OpenFile.fill_reading stored] at answer
  refine ⟨?_, carries.of_answer h answer ?_ rfl carries.limit stored⟩
  · rw [Turn.result?_eq answer, StreamTable.byteResult_eq]
    rfl
  · exact (StreamTable.get?_put ..).trans (if_pos rfl)

/-- Reading bytes stores as many of the next ones as there are. -/
theorem Carries.fread {asked : Nat}
    (carries : x.toStage.Carries w opens limit (.reading name content asked) content)
    (fetches : x.Fetches w) :
    x.result? = some (UInt64.ofNat (min (x.arg 2).toNat (content.size - asked))) ∧
      x.delivered = (content.data.toList.drop asked).take (x.arg 2).toNat ∧
      x.after.Carries w opens limit (.reading name content (asked + (x.arg 2).toNat)) content := by
  obtain ⟨t, f, c, h, live, -⟩ := carries.exists_panel
  obtain ⟨hs, rfl, size, pos, small, held⟩ := fetches
  have stored : x.host.files.get? name = some content := carries.stored
  have answer := Turn.answer?_streams h (Turn.react?_of_service hs)
  obtain ⟨m, filled, read⟩ :=
    StreamTable.fread_of_bytes x.host x.request.number pos small live held
  rw [OpenFile.fill_reading stored] at filled read
  rw [size, read] at answer
  have short : (Bytes.window content asked (x.arg 2).toNat).size =
      min (x.arg 2).toNat (content.size - asked) := Bytes.size_window ..
  have result := Turn.result?_eq answer
  refine ⟨by rw [result, ← short]; rfl, ?_, ?_⟩
  · -- As many bytes as the result says stand in memory, and they are the ones delivered.
    have count : x.returned.toNat = (Bytes.window content asked (x.arg 2).toNat).size := by
      have below : (Bytes.window content asked (x.arg 2).toNat).size < UInt64.size := by
        rw [short]
        exact Nat.lt_of_le_of_lt (Nat.min_le_left _ _) (x.arg 2).toNat_lt
      rw [Turn.returned, result]
      exact UInt64.toNat_ofNat_of_lt' below
    have memory : x.serviced.machine.memory = m := Turn.memory_serviced answer
    have written := (Memory.store_eq_ok_iff.mp filled).2
    rw [Turn.delivered, hs]
    dsimp only
    rw [memory, count, written, Bytes.window_overlay, Bytes.toList_window]
  · refine carries.of_answer h answer ?_ rfl carries.limit stored
    exact (StreamTable.get?_put ..).trans (if_pos rfl)

/-- Writing a piece of memory puts it behind what was written before. -/
theorem Carries.fwrite
    (carries : x.toStage.Carries w opens limit (.writing name content.size) content)
    (writes : x.Writes w) (room : content.size + x.length ≤ limit) :
    x.result? = some (x.arg 2) ∧
      ∃ content', content'.data.toList = content.data.toList ++ x.sent ∧
        x.after.Carries w opens limit (.writing name content'.size) content' := by
  obtain ⟨t, f, c, h, live, -⟩ := carries.exists_panel
  obtain ⟨hs, rfl, size, small, held⟩ := writes
  have stored : x.host.files.get? name = some content := carries.stored
  have answer := Turn.answer?_streams h (Turn.react?_of_service hs)
  have sent : x.sent = (Bytes.window x.memory.bytes (x.arg 0).toNat x.length).data.toList := by
    rw [Turn.sent, hs]
  rcases Nat.eq_zero_or_pos x.length with nothing | pos
  · -- An empty piece has no items, and none are written.
    rw [StreamTable.fwrite_of_idle small (Or.inl nothing)] at answer
    have none : x.arg 2 = 0 := by
      rw [Turn.length, Nat.mul_eq_zero] at nothing
      rw [← UInt64.toNat_inj]
      exact nothing.resolve_left (Nat.ne_of_gt size)
    refine ⟨by rw [Turn.result?_eq answer, none]; rfl, content, ?_,
      carries.of_answer h answer live rfl carries.limit stored⟩
    rw [sent, nothing, Bytes.toList_window, List.take_zero, List.append_nil]
  · obtain ⟨data, hdata⟩ : ∃ data, data = Bytes.window x.memory.bytes (x.arg 0).toNat x.length :=
      ⟨_, rfl⟩
    have full : data.size = x.length := by rw [hdata, held.size_window]
    -- The piece is within the limit, so the store takes all of it.
    have drained : (OpenFile.writing name content.size).drain x.host.files data = _ :=
      OpenFile.drain_writing stored (by omega) (by rw [full, carries.limit]; exact room)
    rw [StreamTable.fwrite_of_held pos small live held] at answer
    dsimp only at answer
    rw [← Turn.length, ← hdata, drained] at answer
    refine ⟨?_, content ++ data, ?_, carries.of_answer h answer ?_ rfl carries.limit ?_⟩
    · have items : data.size / (x.arg 1).toNat = (x.arg 2).toNat := by
        rw [full, Turn.length, Nat.mul_div_cancel_left _ size]
      rw [Turn.result?_eq answer]
      simp only [Answer.map, Except.toOption, items, UInt64.ofNat_toNat]
    · rw [sent, ← hdata, ByteArray.data_append, Array.toList_append]
    · exact (StreamTable.get?_put ..).trans (if_pos rfl)
    · exact (FileStore.get?_insert ..).trans (if_pos rfl)

end Stage

end Semihosting
