import Semihosting.Proofs.CarriedFile
import Semihosting.Proofs.GuestFootprint
import Semihosting.Proofs.StoredNames

/-!
# Items read from stored files and written to them

A transfer is counted in items, but a stream moves by bytes. A write takes as many bytes as its
stream may write below the limit, and a read takes as many as are left of the file. The guest is
told the number of whole items among them. Of an item that was cut short, a write leaves the first
bytes in the file, and a read drops them.

Both are stated here with the whole effect of the call: on the content of the file, on the open
file, on guest memory, and on nothing else.

## Main definitions

* `Bytes.laid` — bytes with others laid over them, zeros being put into a gap
* `Turn.Lays` — a write lays the first of the bytes sent over a file
* `Turn.Advances` — a read moves its stream and nothing else
* `Turn.StoresItems` — whole items get into guest memory, or the call faults

## Main results

* `Turn.fwrite_lays` — what a write makes of a stored file
* `Turn.advances_of_pulls` — what comes of a read, of items or of one byte
-/

namespace Semihosting

open Debugger (panel)

/-! ### Bytes laid over others -/

namespace Bytes

/-- The bytes with others laid over them from a position on. If they do not reach the position,
zeros fill the gap; what lies behind is kept. -/
def laid (bytes : List UInt8) (start : Nat) (data : List UInt8) : List UInt8 :=
  (bytes ++ List.replicate (start - bytes.length) 0).take start ++
    (data ++ bytes.drop (start + data.length))

theorem toList_overlay_eq_laid (bytes : ByteArray) (start : Nat) (data : ByteArray) :
    (overlay bytes start data).data.toList =
      laid bytes.data.toList start data.data.toList := by
  rw [toList_overlay, laid, length_toList, length_toList]

/-- A window that ends with the bytes is the same, however long it was asked to be. -/
theorem window_min (bytes : ByteArray) (start wanted : Nat) :
    window bytes start (min wanted (bytes.size - start)) = window bytes start wanted := by
  apply ext_toList
  rw [toList_window, toList_window, List.take_eq_take_iff, List.length_drop, length_toList]
  omega

end Bytes

/-- A store lays its data over what was in memory. -/
theorem Memory.toList_of_store {m n : Memory} {address : Word} {data : ByteArray}
    (stored : m.store address data = .ok n) :
    n.bytes.data.toList =
      Bytes.laid m.bytes.data.toList address.toNat data.data.toList := by
  rw [(store_eq_ok_iff.mp stored).2, Bytes.toList_overlay_eq_laid]

/-! ### Open files -/

namespace OpenFile

variable {s : FileStore} {file : OpenFile StoredStream} {content : ByteArray} {wanted : Nat}

/-- The open file after a write that has taken some of the bytes offered, from a position on. Only a
write that has taken something moves the stream. -/
def written (file : OpenFile StoredStream) (start taken offered : Nat) : OpenFile StoredStream :=
  { stream :=
      { file.stream with position := if taken = 0 then file.stream.position else start + taken }
    eof := file.eof
    error := file.error || decide (taken < offered) }

/-- The open file after a read that has taken some of the bytes wanted. Too few are the end of the
file, unless the stream cannot be read at all. -/
def advanced (file : OpenFile StoredStream) (taken wanted : Nat) : OpenFile StoredStream :=
  { stream := { file.stream with position := file.stream.position + taken }
    eof := file.eof || (file.stream.mode.readable && decide (taken < wanted))
    error := file.error || !file.stream.mode.readable }

/-- How many of the bytes wanted a stream can read from a file of some length. -/
def left (file : OpenFile StoredStream) (length wanted : Nat) : Nat :=
  if file.stream.mode.readable then min wanted (length - file.stream.position) else 0

theorem fill_eq_advanced (stored : s.get? file.stream.name = some content) (pos : 0 < wanted) :
    (file.fill s wanted).data =
        Bytes.window content file.stream.position (file.left content.size wanted) ∧
      (file.fill s wanted).file = file.advanced (file.left content.size wanted) wanted := by
  have found : s.content file.stream.name = content := by
    rw [FileStore.content, stored, Option.getD_some]
  cases readable : file.stream.mode.readable with
  | false =>
    have none : file.left content.size wanted = 0 := if_neg (by simp [readable])
    rw [FileStore.fill_of_unreadable readable pos, none]
    refine ⟨Bytes.window_zero.symm, ?_⟩
    simp [advanced, readable]
  | true =>
    have some : file.left content.size wanted = min wanted (content.size - file.stream.position) :=
      if_pos readable
    rw [FileStore.fill_eq readable, found, some, Bytes.window_min]
    refine ⟨rfl, ?_⟩
    simp [advanced, readable]

/-- A write takes the first bytes of its data, as many as the stream is allowed. -/
theorem drain_eq_written (stored : s.get? file.stream.name = some content) (data : ByteArray) :
    (file.drain s data).count = s.allowance file.stream data.size ∧
      (file.drain s data).file = file.written (s.writeStart file.stream)
        (s.allowance file.stream data.size) data.size ∧
      ∃ new : ByteArray,
        new.data.toList =
          (if s.allowance file.stream data.size = 0 then content.data.toList
            else Bytes.laid content.data.toList (s.writeStart file.stream)
              (data.data.toList.take (s.allowance file.stream data.size))) ∧
          (file.drain s data).files = s.insert file.stream.name new := by
  have found : s.content file.stream.name = content := by
    rw [FileStore.content, stored, Option.getD_some]
  rw [FileStore.drain_eq]
  rcases Nat.eq_zero_or_pos (s.allowance file.stream data.size) with none | pos
  · -- To put the content in its place again changes nothing.
    refine ⟨rfl, by simp [written, none], content, by rw [if_pos none], ?_⟩
    rw [FileStore.insert, Table.insert_of_get?_eq_some stored]
    exact if_pos none
  · have some := Nat.ne_of_gt pos
    refine ⟨rfl, by simp only [written, if_neg some], _, ?_, if_neg some⟩
    rw [if_neg some, found, Bytes.toList_overlay_eq_laid, Bytes.toList_window, List.drop_zero]

end OpenFile

/-! ### The effect of a transfer -/

namespace Turn

variable {x : Turn FileStore StoredStream} {w : Word} {file : OpenFile StoredStream}
variable {content : ByteArray} {start taken wanted : Nat}

/-- Of the bytes sent, a write has laid the first ones over the content of the file. -/
structure Lays (x : Turn FileStore StoredStream) (file : OpenFile StoredStream)
    (content : ByteArray) (start taken : Nat) : Prop where
  /-- The result is the number of whole items among the bytes taken. -/
  result : x.result?.map UInt64.toNat = some (taken / (x.arg 1).toNat)
  memory : x.serviced.machine.memory = x.memory
  /-- Every other handle has the open file that it had. -/
  table : x.after.debugger.table =
    x.debugger.table.put (x.arg 3) (file.written start taken x.length)
  /-- A write that takes nothing fills no gap either. Every other file is as it was. -/
  files : ∃ new : ByteArray,
    new.data.toList =
        (if taken = 0 then content.data.toList
          else Bytes.laid content.data.toList start (x.sent.take taken)) ∧
      x.after.host = { x.host with files := x.host.files.insert file.stream.name new }

/-- A read has moved its stream, and has changed no other handle and no file. -/
structure Advances (x : Turn FileStore StoredStream) (w : Word) (file : OpenFile StoredStream)
    (taken wanted : Nat) : Prop where
  table : x.after.debugger.table = x.debugger.table.put w (file.advanced taken wanted)
  host : x.after.host = x.host

/-- Of some bytes, the whole items get to the destination of the read, and the result is their
number. If they do not fit there, the call faults and memory stays as it is. -/
def StoresItems (x : Turn FileStore StoredStream) (bytes : List UInt8) : Prop :=
  let items := bytes.length / (x.arg 1).toNat
  let stored := items * (x.arg 1).toNat
  items ≤ (x.arg 2).toNat ∧
    if x.memory.Holds (x.arg 0) stored then
      x.result?.map UInt64.toNat = some items ∧
        x.serviced.machine.memory.bytes.data.toList =
          Bytes.laid x.memory.bytes.data.toList (x.arg 0).toNat (bytes.take stored)
    else
      x.serviced.outcome = .error (.outOfBounds (x.arg 0) (UInt64.ofNat stored)) ∧
        x.serviced.machine.memory = x.memory

/-- The result is the byte of the file at the position of the stream, or minus one if there is none
or the stream cannot be read. Memory stays as it is. -/
structure ReturnsByte (x : Turn FileStore StoredStream) (file : OpenFile StoredStream)
    (content : ByteArray) : Prop where
  result : x.result? = some (StreamTable.byteResult
    (if file.stream.mode.readable then content.data.toList[file.stream.position]? else none))
  memory : x.serviced.machine.memory = x.memory

/-- Where the streams of a session are backed, an open file has a content. -/
theorem exists_content (reachable : x.toStage.Reachable)
    (live : x.debugger.table.get? w = some file) :
    ∃ content, x.host.files.get? file.stream.name = some content := by
  obtain ⟨given, host, turns, run⟩ := reachable
  obtain ⟨t, rest, handlers, backed⟩ := run.backed rfl
  exact Option.isSome_iff_exists.mp (backed w file live)

section Streams

variable {t : StreamTable StoredStream} {rest : List (Handler StoredStream)}

/-- A call that puts an open file into the table changes no other handle. -/
theorem table_after_of_put {answer : Answer (List (Handler StoredStream)) FileStore}
    (h : x.debugger.handlers = .streams t :: rest) (answered : x.answer? = some answer)
    (puts : answer.handler = .streams (t.put w file) :: rest) :
    x.after.debugger.table = x.debugger.table.put w file := by
  rw [Debugger.table_eq ((handlers_after answered).trans puts), Debugger.table_eq h]

/-- What a write leaves behind, from the handlers of the session. -/
theorem lays_of_fwrite (h : x.debugger.handlers = .streams t :: rest)
    (hs : x.service? = some .fwrite) (live : t.get? (x.arg 3) = some file)
    (pos : 0 < x.length) (small : x.length ≤ StreamTable.transferLimit)
    (held : x.memory.Holds (x.arg 0) x.length)
    (stored : x.host.files.get? file.stream.name = some content) :
    x.Lays file content (x.host.files.writeStart file.stream)
      (x.host.files.allowance file.stream x.length) := by
  have answer := answer?_of_streams h (react?_of_service hs)
  rw [StreamTable.fwrite_of_held pos small live held] at answer
  have size := held.size_window
  obtain ⟨count, moved, new, laid, files⟩ := OpenFile.drain_eq_written stored
    (Bytes.window x.memory.bytes (x.arg 0).toNat x.length)
  rw [size] at count moved laid
  have few : x.host.files.allowance file.stream x.length / (x.arg 1).toNat < UInt64.size := by
    have le : x.host.files.allowance file.stream x.length ≤ x.length := FileStore.allowance_le
    have fewer := Nat.div_le_self (x.host.files.allowance file.stream x.length) (x.arg 1).toNat
    unfold StreamTable.transferLimit at small
    rw [UInt64.size]
    omega
  refine ⟨?_, memory_serviced answer, ?_, new, ?_, ?_⟩
  · rw [result?_eq answer]
    simp only [Answer.map, Except.toOption, Option.map_some]
    rw [← length, count, UInt64.toNat_ofNat_of_lt' few]
  · exact table_after_of_put h answer (by rw [← moved]; rfl)
  · rw [laid, sent, hs]
  · rw [host_after answer, Answer.map]
    exact congrArg (fun files => { x.host with files }) files

/-- What a read of items leaves behind. -/
theorem advances_of_fread (h : x.debugger.handlers = .streams t :: rest)
    (hs : x.service? = some .fread) (live : t.get? (x.arg 3) = some file)
    (pos : 0 < x.length) (small : x.length ≤ StreamTable.transferLimit)
    (stored : x.host.files.get? file.stream.name = some content) :
    x.Advances (x.arg 3) file (file.left content.size x.length) x.length ∧
      x.StoresItems
        ((content.data.toList.drop file.stream.position).take
          (file.left content.size x.length)) := by
  obtain ⟨data, moved⟩ := OpenFile.fill_eq_advanced stored pos
  have le : (file.fill x.host.files x.length).data.size ≤ x.length := OpenFile.size_fill_le ..
  have bytes := Bytes.toList_window content file.stream.position (file.left content.size x.length)
  rw [← data] at bytes
  rw [← bytes, StoresItems, Bytes.length_toList]
  -- Of the bytes that the stream delivers, these are stored.
  have size : (StreamTable.items x.host file (x.arg 1) (x.arg 2)).size =
      (file.fill x.host.files x.length).data.size / (x.arg 1).toNat * (x.arg 1).toNat :=
    StreamTable.size_items ..
  have items : (StreamTable.items x.host file (x.arg 1) (x.arg 2)).data.toList =
      (file.fill x.host.files x.length).data.data.toList.take
        ((file.fill x.host.files x.length).data.size / (x.arg 1).toNat * (x.arg 1).toNat) := by
    rw [StreamTable.items, Bytes.toList_window, List.drop_zero]
    rfl
  have few : (file.fill x.host.files x.length).data.size / (x.arg 1).toNat ≤ (x.arg 2).toNat :=
    Nat.div_le_of_le_mul le
  have answer := answer?_of_streams h (react?_of_service hs)
  cases fits : x.memory.store (x.arg 0) (StreamTable.items x.host file (x.arg 1) (x.arg 2)) with
  | ok m =>
    have held : x.memory.Holds (x.arg 0) _ := (Memory.store_eq_ok_iff.mp fits).1
    rw [size] at held
    rw [StreamTable.fread_of_stored pos small live fits] at answer
    refine ⟨⟨?_, host_after answer⟩, few, ?_⟩
    · exact table_after_of_put h answer (by rw [← moved]; rfl)
    · rw [if_pos held, result?_eq answer, memory_serviced answer]
      refine ⟨congrArg some (StreamTable.toNat_items x.host file small), ?_⟩
      rw [← items]
      exact Memory.toList_of_store fits
  | error fault =>
    rw [StreamTable.fread_of_unstored pos small live fits] at answer
    obtain ⟨outside, rfl⟩ := Memory.store_eq_error_iff.mp fits
    refine ⟨⟨?_, host_after answer⟩, few, ?_⟩
    · exact table_after_of_put h answer (by rw [← moved]; rfl)
    · rw [size] at outside
      rw [if_neg outside, memory_serviced answer, outcome_eq_error_iff answer, size]
      exact ⟨rfl, rfl⟩

/-- What a read of one byte leaves behind. -/
theorem advances_of_fgetc (h : x.debugger.handlers = .streams t :: rest)
    (hs : x.service? = some .fgetc) (live : t.get? (x.arg 0) = some file)
    (stored : x.host.files.get? file.stream.name = some content) :
    x.Advances (x.arg 0) file (file.left content.size 1) 1 ∧ x.ReturnsByte file content := by
  obtain ⟨data, moved⟩ := OpenFile.fill_eq_advanced stored Nat.one_pos
  have answer := answer?_of_streams h (react?_of_service hs)
  rw [StreamTable.fgetc_of_live live] at answer
  dsimp only at answer
  rw [data] at answer
  refine ⟨⟨?_, host_after answer⟩, ?_, memory_serviced answer⟩
  · exact table_after_of_put h answer (by rw [← moved]; rfl)
  · rw [result?_eq answer]
    cases readable : file.stream.mode.readable with
    | false =>
      have none : file.left content.size 1 = 0 := if_neg (by simp [readable])
      rw [none, Bytes.window_zero]
      rfl
    | true =>
      have some : file.left content.size 1 = min 1 (content.size - file.stream.position) :=
        if_pos readable
      rw [some, Bytes.window_min, if_pos rfl, StreamTable.byteResult_eq]
      rfl

end Streams

end Turn

/-! ### A gap at the limit

A stream is moved beyond the end of a file and writes two items of two bytes there. The limit lets
through three bytes. -/

namespace GapAtLimit

/-- The path `f`, the mode `r+`, and four bytes to write. -/
def memory : Memory := ⟨⟨#[0x66, 0, 0x72, 0x2b, 0, 0x61, 0x62, 0x63, 0x64]⟩, by decide⟩

def store : FileStore := { files := .ofList [("f", ⟨#[0x31]⟩)], limit := 6 }

def opening : Turn FileStore StoredStream :=
  ⟨.initial none { files := store }, .asking .fopen [0, 2] memory⟩

def seeking : Turn FileStore StoredStream := ⟨opening.after, .asking .fseek [1, 3, 0] memory⟩

def writing : Turn FileStore StoredStream := ⟨seeking.after, .asking .fwrite [5, 2, 2, 1] memory⟩

theorem reachable : writing.toStage.Reachable :=
  ⟨none, _, [opening, seeking], (Transcript.nil.snoc _).snoc _⟩

/-- The open file, three bytes into its file. -/
def file : OpenFile StoredStream :=
  { stream := { name := "f", mode := { purpose := .read, update := true }, position := 3 } }

end GapAtLimit

/-- A write lays the first of its bytes over the file, from the position of the stream on or from
the end of the file if the stream appends: as many as there is room for below the limit, and none
if the stream may not write. A write of nothing changes nothing, wherever its bytes would lie. -/
theorem Turn.fwrite_lays {x : Turn FileStore StoredStream} (reachable : x.toStage.Reachable)
    (hs : x.service? = some .fwrite) :
    (x.length = 0 → x.Idle 0) ∧
      ∀ file, x.debugger.table.get? (x.arg 3) = some file → 0 < x.length →
        x.length ≤ StreamTable.transferLimit → x.memory.Holds (x.arg 0) x.length →
        ∃ content start taken,
          x.host.files.get? file.stream.name = some content ∧
            start = (if file.stream.mode.appends then content.size else file.stream.position) ∧
            taken = (if file.stream.mode.writable then min x.length (x.host.files.limit - start)
              else 0) ∧
            x.Lays file content start taken := by
  obtain ⟨t, f, c, h⟩ := reachable.exists_panel
  constructor
  · intro none
    refine idle_of_streams h (react?_of_service hs) (StreamTable.fwrite_of_idle ?_ (Or.inl none))
    exact Nat.le_trans (Nat.le_of_eq none) (Nat.zero_le _)
  · intro file live pos small held
    obtain ⟨content, stored⟩ := exists_content reachable live
    rw [Debugger.table_eq h] at live
    have found : x.host.files.content file.stream.name = content := by
      rw [FileStore.content, stored, Option.getD_some]
    refine ⟨content, _, _, stored, ?_, rfl, lays_of_fwrite h hs live pos small held stored⟩
    rw [FileStore.writeStart, found]

/-- Three of the four bytes are taken, which is one whole item, and the gap is filled. -/
theorem Turn.fwrite_lays_gapAtLimit :
    GapAtLimit.writing.result?.map UInt64.toNat = some 1 ∧
      (GapAtLimit.writing.after.host.files.content "f").data.toList =
        [0x31, 0, 0, 0x61, 0x62, 0x63] ∧
      GapAtLimit.writing.after.debugger.table.get? 1 =
        some (GapAtLimit.file.written 3 3 4) := by
  obtain ⟨-, lays⟩ := Turn.fwrite_lays GapAtLimit.reachable (by decide +kernel)
  obtain ⟨content, start, taken, stored, starts, takes, laid⟩ :=
    lays GapAtLimit.file (by decide +kernel) (by decide +kernel) (by decide +kernel)
      (by decide +kernel)
  have content_eq : GapAtLimit.writing.host.files.get? "f" = some ⟨#[0x31]⟩ := by decide +kernel
  obtain rfl : content = ⟨#[0x31]⟩ := Option.some.inj (stored.symm.trans content_eq)
  obtain rfl : start = 3 := starts
  obtain rfl : taken = 3 := takes.trans (by decide +kernel)
  obtain ⟨new, new_eq, host⟩ := laid.files
  have written : GapAtLimit.writing.after.host.files.content "f" = new := by
    rw [host]
    exact (FileStore.content_insert ..).trans (if_pos rfl)
  refine ⟨laid.result.trans (by decide +kernel), ?_, ?_⟩
  · rw [written, new_eq]
    decide +kernel
  · rw [laid.table, StreamTable.get?_put]
    decide +kernel

/-! ### An item and a half, and then one byte

The file `f` holds five bytes. Two items of three bytes are asked for, and then one more byte. -/

namespace CutItem

/-- The path `f` and the mode `r`, and room for six bytes. -/
def memory : Memory := ⟨⟨#[0x66, 0, 0x72, 0, 0x2a, 0x2a, 0x2a, 0x2a, 0x2a, 0x2a]⟩, by decide⟩

def store : FileStore := { files := .ofList [("f", ⟨#[1, 2, 3, 4, 5]⟩)] }

def opening : Turn FileStore StoredStream :=
  ⟨.initial none { files := store }, .asking .fopen [0, 2] memory⟩

def reading : Turn FileStore StoredStream := ⟨opening.after, .asking .fread [4, 3, 2, 1] memory⟩

theorem reachable : reading.toStage.Reachable := ⟨none, _, [opening], Transcript.nil.snoc _⟩

def file : OpenFile StoredStream := { stream := { name := "f", mode := { purpose := .read } } }

theorem pulls : reading.Pulls 1 6 :=
  Or.inr (by decide +kernel)

end CutItem

/-- A read takes as many bytes as are wanted and left of the file, and none if the stream may not be
read. It moves its stream that far. A read of items stores the whole ones among the bytes, and a
read of one byte returns it. A read of no bytes changes nothing. -/
theorem Turn.advances_of_pulls {x : Turn FileStore StoredStream} (reachable : x.toStage.Reachable) :
    (x.service? = some .fread → x.length = 0 → x.Idle 0) ∧
      ∀ w file wanted, x.debugger.table.get? w = some file → x.Pulls w wanted →
        ∃ content taken,
          x.host.files.get? file.stream.name = some content ∧
            taken = (if file.stream.mode.readable then
              min wanted (content.size - file.stream.position) else 0) ∧
            x.Advances w file taken wanted ∧
            (x.service? = some .fread →
              x.StoresItems ((content.data.toList.drop file.stream.position).take taken)) ∧
            (x.service? = some .fgetc → x.ReturnsByte file content) := by
  obtain ⟨t, f, c, h⟩ := reachable.exists_panel
  constructor
  · intro hs none
    refine idle_of_streams h (react?_of_service hs) (StreamTable.fread_of_idle ?_ (Or.inl none))
    exact Nat.le_trans (Nat.le_of_eq none) (Nat.zero_le _)
  · intro w file wanted live pulls
    obtain ⟨content, stored⟩ := exists_content reachable live
    rw [Debugger.table_eq h] at live
    refine ⟨content, _, stored, rfl, ?_⟩
    rcases pulls with ⟨hs, rfl, rfl⟩ | ⟨hs, rfl, rfl, pos, small⟩
    · obtain ⟨advances, returns⟩ := advances_of_fgetc h hs live stored
      refine ⟨advances, fun other => ?_, fun _ => returns⟩
      rw [hs] at other
      cases other
    · obtain ⟨advances, items⟩ := advances_of_fread h hs live pos small stored
      refine ⟨advances, fun _ => items, fun other => ?_⟩
      rw [hs] at other
      cases other

/-- The first item is stored, and what there is of the second one is passed over. -/
theorem Turn.advances_of_pulls_cutItem :
    CutItem.reading.result?.map UInt64.toNat = some 1 ∧
      CutItem.reading.serviced.machine.memory.bytes.data.toList =
        [0x66, 0, 0x72, 0, 1, 2, 3, 0x2a, 0x2a, 0x2a] ∧
      CutItem.reading.after.debugger.table.get? 1 = some (CutItem.file.advanced 5 6) := by
  obtain ⟨-, advances⟩ := Turn.advances_of_pulls CutItem.reachable
  obtain ⟨content, taken, stored, takes, advanced, items, -⟩ :=
    advances 1 CutItem.file 6 (by decide +kernel) CutItem.pulls
  have content_eq : CutItem.reading.host.files.get? "f" = some ⟨#[1, 2, 3, 4, 5]⟩ := by
    decide +kernel
  obtain rfl : content = ⟨#[1, 2, 3, 4, 5]⟩ := Option.some.inj (stored.symm.trans content_eq)
  obtain rfl : taken = 5 := takes.trans (by decide +kernel)
  obtain ⟨-, stores⟩ := items (by decide +kernel)
  rw [if_pos (by decide +kernel)] at stores
  refine ⟨stores.1.trans (by decide +kernel), stores.2.trans (by decide +kernel), ?_⟩
  rw [advanced.table, StreamTable.get?_put]
  exact if_pos rfl

end Semihosting
