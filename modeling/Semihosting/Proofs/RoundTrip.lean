import Semihosting.Proofs.CarriedFile
import Semihosting.Proofs.HandleLife

/-!
# Writing a file and reading it back

A guest opens a file for writing, writes it in any number of pieces, closes it, opens it again for
reading and reads it in any number of pieces. Calls that are about neither the handles nor the file
may come in between at any time, from any number of other streams.

## Main definitions

* `calls` — the calls of a run that are about a handle
* `written`, `asked`, `received` — the bytes that they wrote, asked for and received
* `RoundTrip` — a run that writes a file and reads it back
* `RoundTrip.Faithful` — the guest reads what it has written

## Main results

* `Stage.Carries.writes`, `Stage.Carries.reads` — a whole run of pieces, on either side
* `RoundTrip.faithful` — every round trip within the limit of the store is faithful
-/

namespace Semihosting

open Debugger (panel)

/-- The calls of a run that are about a handle. -/
def calls (w : Word) (turns : List (Turn FileStore StoredStream)) :
    List (Turn FileStore StoredStream) :=
  turns.filter fun x => x.request.handle? = some w

/-- The bytes that a run gives to a handle. -/
def written (w : Word) (turns : List (Turn FileStore StoredStream)) : List UInt8 :=
  (calls w turns).flatMap Turn.sent

/-- How many bytes a run wants from a handle. -/
def asked (w : Word) (turns : List (Turn FileStore StoredStream)) : Nat :=
  ((calls w turns).map Turn.wanted).sum

/-- The bytes that a guest has of a handle. -/
def received (w : Word) (turns : List (Turn FileStore StoredStream)) : List UInt8 :=
  (calls w turns).flatMap Turn.delivered

section Append

variable {w : Word} {xs ys : List (Turn FileStore StoredStream)}

theorem written_append : written w (xs ++ ys) = written w xs ++ written w ys := by
  simp [written, calls]

theorem asked_append : asked w (xs ++ ys) = asked w xs + asked w ys := by
  simp [asked, calls]

theorem received_append : received w (xs ++ ys) = received w xs ++ received w ys := by
  simp [received, calls]

end Append

namespace Turn

variable {x : Turn FileStore StoredStream} {w : Word}

theorem Writes.named (h : x.Writes w) : x.request.handle? = some w := by
  rw [handle?_eq h.service, ← h.handle]

theorem Fetches.named (h : x.Fetches w) : x.request.handle? = some w := by
  rw [handle?_eq h.service, ← h.handle]

theorem Asks.named (h : x.Asks w) : x.request.handle? = some w := by
  obtain ⟨hs | hs, rfl⟩ := h
  · exact handle?_eq hs
  · exact handle?_eq hs

/-- The whole piece is sent. -/
theorem Writes.length_sent (h : x.Writes w) : x.sent.length = x.length := by
  rw [sent, h.service]
  dsimp only
  rw [Bytes.length_toList, h.held.size_window]

/-- Asking for a flag moves no bytes. -/
theorem Asks.moves_nothing (h : x.Asks w) : x.sent = [] ∧ x.wanted = 0 ∧ x.delivered = [] := by
  obtain ⟨hs | hs, -⟩ := h
  · exact ⟨by rw [sent, hs], by rw [wanted, hs], by rw [delivered, hs]⟩
  · exact ⟨by rw [sent, hs], by rw [wanted, hs], by rw [delivered, hs]⟩

/-- The call reads from a handle, or asks for a flag of it. -/
inductive Reads (x : Turn FileStore StoredStream) (w : Word) : Prop
  /-- It reads bytes into memory. -/
  | fread (fetches : x.Fetches w)
  | fgetc (service : x.service? = some .fgetc) (handle : x.arg 0 = w)
  /-- It asks for a flag. -/
  | flag (asks : x.Asks w)

theorem Reads.named (h : x.Reads w) : x.request.handle? = some w := by
  cases h with
  | fread fetches => exact fetches.named
  | fgetc service handle => rw [handle?_eq service, handle]
  | flag asks => exact asks.named

end Turn

/-! ### Runs of pieces -/

namespace Stage

variable {s s' : Stage FileStore StoredStream} {turns : List (Turn FileStore StoredStream)}
variable {w : Word} {limit : Nat} {name : String} {content : ByteArray}

/-- One more call of a guest that writes, or that is about something else. -/
theorem Carries.write_step {x : Turn FileStore StoredStream} {opens : Nat}
    (carries : x.toStage.Carries w opens limit (.writing name content.size) content)
    (call : x.Writes w ∨ x.Asks w ∨ x.Apart w name)
    (few : opens + x.opened?.toList.length < 2 ^ 64)
    (room : x.Writes w → content.size + x.length ≤ limit) :
    ∃ content', content'.data.toList = content.data.toList ++ written w [x] ∧
      x.after.Carries w (opens + x.opened?.toList.length) limit
        (.writing name content'.size) content' := by
  -- Only a piece makes the file longer.
  rcases call with writes | asks | apart
  · obtain ⟨-, content', joined, after⟩ := carries.fwrite writes (room writes)
    rw [Turn.opened?_of_named writes.named]
    exact ⟨content', by simp [joined, written, calls, writes.named], after⟩
  · obtain ⟨-, -, after⟩ := carries.flag asks
    rw [Turn.opened?_of_named asks.named]
    exact ⟨content, by simp [written, calls, asks.named, asks.moves_nothing], after⟩
  · exact ⟨content, by simp [written, calls, apart.1], carries.apart apart few⟩

/-- However a guest cuts what it writes, and whatever else it does meanwhile, the pieces stand one
behind the other in the file. -/
theorem Carries.writes (run : Transcript s turns s')
    (carries : s.Carries w 0 limit (.writing name content.size) content)
    (call : ∀ x ∈ turns, x.Writes w ∨ x.Asks w ∨ x.Apart w name)
    (few : (handles turns).length < 2 ^ 64)
    (room : content.size + (written w turns).length ≤ limit) :
    ∃ content', content'.data.toList = content.data.toList ++ written w turns ∧
      s'.Carries w (handles turns).length limit (.writing name content'.size) content' := by
  -- The run is taken call by call, with the file as it is after each of them.
  induction run with
  | nil => exact ⟨content, by simp [written, calls], carries⟩
  | @snoc turns s' run machine ih =>
    rw [handles_snoc, List.length_append] at few ⊢
    rw [written_append, List.length_append] at room
    obtain ⟨content', joined, there⟩ :=
      ih (fun x hx => call x (List.mem_append_left _ hx)) (by omega) (by omega)
    -- What was written so far and the next piece are within the limit together.
    have length := congrArg List.length joined
    rw [List.length_append, Bytes.length_toList, Bytes.length_toList] at length
    obtain ⟨content'', joined', after⟩ := Carries.write_step (x := ⟨s', machine⟩) there
      (call _ (by simp)) few fun writes => by
        have sent : (written w [⟨s', machine⟩]).length = Turn.length ⟨s', machine⟩ := by
          simp [written, calls, writes.named, writes.length_sent]
        omega
    exact ⟨content'', by rw [joined', joined, written_append, List.append_assoc], after⟩

/-- One more call of a guest that reads, or that is about something else. -/
theorem Carries.read_step {x : Turn FileStore StoredStream} {opens count : Nat}
    (carries : x.toStage.Carries w opens limit (.reading name content count) content)
    (call : x.Reads w ∨ x.Apart w name) (few : opens + x.opened?.toList.length < 2 ^ 64) :
    received w [x] = (content.data.toList.drop count).take (asked w [x]) ∧
      x.after.Carries w (opens + x.opened?.toList.length) limit
        (.reading name content (count + asked w [x])) content := by
  rcases call with reads | apart
  · have named := reads.named
    have received : received w [x] = x.delivered := by simp [received, calls, named]
    have asked : asked w [x] = x.wanted := by simp [asked, calls, named]
    rw [Turn.opened?_of_named named, received, asked]
    cases reads with
    | fread fetches =>
      obtain ⟨-, delivered, after⟩ := carries.fread fetches
      rw [Turn.wanted, fetches.service]
      exact ⟨delivered, after⟩
    | fgetc service handle =>
      obtain ⟨result, after⟩ := carries.fgetc service handle
      rw [Turn.wanted, service]
      exact ⟨Turn.delivered_of_fgetc service result, after⟩
    | flag asks =>
      obtain ⟨-, wanted, delivered⟩ := asks.moves_nothing
      rw [wanted, delivered, List.take_zero]
      exact ⟨rfl, (carries.flag asks).2.2⟩
  · -- A call on another handle asks for nothing of this one.
    simp only [received, asked, calls, List.filter_cons, apart.1, decide_false, List.filter_nil,
      List.flatMap_nil, List.map_nil, List.sum_nil, List.take_zero, Nat.add_zero,
      Bool.false_eq_true, if_false, true_and]
    exact carries.apart apart few

/-- However a guest cuts what it reads, the pieces are the content as far as it was asked for. -/
theorem Carries.reads (run : Transcript s turns s')
    (carries : s.Carries w 0 limit (.reading name content 0) content)
    (call : ∀ x ∈ turns, x.Reads w ∨ x.Apart w name) (few : (handles turns).length < 2 ^ 64) :
    received w turns = content.data.toList.take (asked w turns) ∧
      s'.Carries w (handles turns).length limit (.reading name content (asked w turns))
        content := by
  induction run with
  | nil => exact ⟨rfl, carries⟩
  | @snoc turns s' run machine ih =>
    rw [handles_snoc, List.length_append] at few ⊢
    obtain ⟨received, there⟩ := ih (fun x hx => call x (List.mem_append_left _ hx)) (by omega)
    obtain ⟨more, after⟩ := Carries.read_step (x := ⟨s', machine⟩) there (call _ (by simp)) few
    -- What was received before and what is received now follow each other in the content.
    rw [received_append, asked_append, received, more, List.take_add]
    exact ⟨rfl, after⟩

end Stage

/-! ### Single calls of a run -/

namespace Stage

variable {s s' : Stage FileStore StoredStream} {before after : List (Turn FileStore StoredStream)}
variable {x : Turn FileStore StoredStream} {w : Word} {limit : Nat} {name : String}
variable {content : ByteArray}

/-- At every call of a writing run the pieces so far stand in the file. -/
theorem Carries.at_piece (run : Transcript s (before ++ x :: after) s')
    (carries : s.Carries w 0 limit (.writing name content.size) content)
    (call : ∀ y ∈ before ++ x :: after, y.Writes w ∨ y.Asks w ∨ y.Apart w name)
    (few : (handles (before ++ x :: after)).length < 2 ^ 64)
    (room : content.size + (written w (before ++ x :: after)).length ≤ limit) :
    ∃ content', content'.data.toList = content.data.toList ++ written w before ∧
      x.toStage.Carries w (handles before).length limit (.writing name content'.size) content' := by
  obtain ⟨m, first, rest⟩ := Transcript.append_iff.mp run
  rw [handles_append, List.length_append] at few
  rw [written_append, List.length_append] at room
  rw [rest.toStage_eq]
  exact carries.writes first (fun y hy => call y (List.mem_append_left _ hy)) (by omega) (by omega)

/-- Every piece is written whole. -/
theorem Carries.result?_of_writes (run : Transcript s (before ++ x :: after) s')
    (carries : s.Carries w 0 limit (.writing name content.size) content)
    (call : ∀ y ∈ before ++ x :: after, y.Writes w ∨ y.Asks w ∨ y.Apart w name)
    (few : (handles (before ++ x :: after)).length < 2 ^ 64)
    (room : content.size + (written w (before ++ x :: after)).length ≤ limit)
    (writes : x.Writes w) : x.result? = some (x.arg 2) := by
  obtain ⟨content', joined, there⟩ := carries.at_piece run call few room
  have length := congrArg List.length joined
  rw [List.length_append, Bytes.length_toList, Bytes.length_toList] at length
  have split : before ++ x :: after = (before ++ [x]) ++ after := by simp
  have sent : (written w [x]).length = x.length := by
    simp [written, calls, writes.named, writes.length_sent]
  rw [split, written_append, written_append, List.length_append, List.length_append, sent] at room
  exact (there.fwrite writes (by omega)).1

/-- Meanwhile neither flag is set. -/
theorem Carries.result?_of_asks (run : Transcript s (before ++ x :: after) s')
    (carries : s.Carries w 0 limit (.writing name content.size) content)
    (call : ∀ y ∈ before ++ x :: after, y.Writes w ∨ y.Asks w ∨ y.Apart w name)
    (few : (handles (before ++ x :: after)).length < 2 ^ 64)
    (room : content.size + (written w (before ++ x :: after)).length ≤ limit)
    (asks : x.Asks w) : x.result? = some 0 := by
  obtain ⟨content', -, there⟩ := carries.at_piece run call few room
  obtain ⟨eof, error, -⟩ := there.flag asks
  rcases asks.1 with hs | hs
  · exact eof hs
  · exact error hs

/-- At every call of a reading run the content was received as far as it was asked for. -/
theorem Carries.at_call (run : Transcript s (before ++ x :: after) s')
    (carries : s.Carries w 0 limit (.reading name content 0) content)
    (call : ∀ y ∈ before ++ x :: after, y.Reads w ∨ y.Apart w name)
    (few : (handles (before ++ x :: after)).length < 2 ^ 64) :
    x.toStage.Carries w (handles before).length limit (.reading name content (asked w before))
      content := by
  obtain ⟨m, first, rest⟩ := Transcript.append_iff.mp run
  rw [handles_append, List.length_append] at few
  rw [rest.toStage_eq]
  exact (carries.reads first (fun y hy => call y (List.mem_append_left _ hy)) (by omega)).2

end Stage

/-! ### Opening and closing -/

namespace Stage

variable {x : Turn FileStore StoredStream} {w : Word} {opens limit : Nat} {path : ByteArray}
variable {file : OpenFile StoredStream} {content : ByteArray}

/-- A stream that is opened is kept under the handle that is handed out. -/
theorem Carries.of_fopen {files : FileStore} {stream : StoredStream}
    (session : ∃ t f c, x.debugger.handlers = panel t f c) (hs : x.service? = some .fopen)
    (grant : x.granted? = some (files, stream)) (stored : files.get? stream.name = some content) :
    x.opened? = some x.returned ∧ x.after.Carries x.returned 0 files.limit { stream } content := by
  obtain ⟨t, f, c, h⟩ := session
  have answer := Turn.answer?_streams h (Turn.react?_of_service hs)
  rw [StreamTable.fopen_of_grant grant] at answer
  obtain ⟨result, found⟩ := Turn.result?_of_fopen h hs grant
  have returned : x.returned = t.next := by
    rw [Turn.returned, result]
    rfl
  have handlers := Turn.handlers_after answer
  have host := Turn.host_after answer
  refine ⟨?_, ⟨⟨_, _, _, handlers⟩, ?_, ?_⟩, ?_, ?_⟩
  · rw [Turn.opened?, if_pos ⟨hs, by rw [grant]; rfl⟩, result, returned]
  · rw [host]
    rfl
  · rw [host]
    exact stored
  · rw [returned]
    exact found
  · rw [Debugger.table_eq handlers, returned]
    exact (UInt64.add_zero _).symm

/-- A file that is opened for writing is empty. -/
theorem Carries.of_opens_write (session : ∃ t f c, x.debugger.handlers = panel t f c)
    (opens : x.Opens path 0x77) :
    x.opened? = some x.returned ∧ x.after.Carries x.returned 0 x.host.files.limit
      (.writing (Utf8.decode path) ByteArray.empty.size) .empty := by
  -- Whether or not there was such a file, there is an empty one now.
  have grant : x.granted? = some (x.host.files.insert (Utf8.decode path) .empty,
      { name := Utf8.decode path, mode := { purpose := .write } }) :=
    StreamTable.grant?_eq_some_iff.mpr
      ⟨path, _, _, opens.named, opens.spelled, rfl, FileStore.openFile_write _ _⟩
  have carried := Carries.of_fopen session opens.service grant
    ((FileStore.get?_insert ..).trans (if_pos rfl))
  exact carried

/-- A file that is opened for reading is read from its beginning. -/
theorem Carries.of_opens_read (stores : x.toStage.Stores limit (Utf8.decode path) content)
    (opens : x.Opens path 0x72) :
    x.opened? = some x.returned ∧ x.after.Carries x.returned 0 limit
      (.reading (Utf8.decode path) content 0) content := by
  have grant : x.granted? = some (x.host.files,
      { name := Utf8.decode path, mode := { purpose := .read } }) :=
    StreamTable.grant?_eq_some_iff.mpr
      ⟨path, _, _, opens.named, opens.spelled, rfl, FileStore.openFile_read stores.stored⟩
  have start : OpenFile.reading (Utf8.decode path) content 0 =
      { stream := { name := Utf8.decode path, mode := { purpose := .read } } } := by
    simp [OpenFile.reading]
  have limit := stores.limit
  rw [start, ← limit]
  exact Carries.of_fopen stores.session opens.service grant stores.stored

/-- Closing a handle leaves the file behind. -/
theorem Carries.fclose (carries : x.toStage.Carries w opens limit file content)
    (hs : x.service? = some .fclose) (handle : x.arg 0 = w) :
    x.result? = some 0 ∧ x.after.Stores limit file.stream.name content := by
  obtain ⟨t, f, c, h, live, -⟩ := carries.exists_panel
  subst handle
  have answer := Turn.answer?_streams h (Turn.react?_of_service hs)
  have host := Turn.host_after answer
  refine ⟨?_, ⟨_, _, _, Turn.handlers_after answer⟩, ?_, ?_⟩
  · rw [Turn.result?_eq answer, Answer.map, StreamTable.fclose, live]
    rfl
  · rw [host]
    exact carries.limit
  · rw [host]
    exact carries.stored

end Stage

/-! ### Round trips -/

/-- A run that opens a file for writing, writes to it, closes it, opens it again for reading and
reads from it. Other calls may be made at any time, if they are about neither the handle in use nor
the file. -/
structure RoundTrip (path : ByteArray) (opening : Turn FileStore StoredStream)
    (writes : List (Turn FileStore StoredStream)) (closing : Turn FileStore StoredStream)
    (between : List (Turn FileStore StoredStream)) (reopening : Turn FileStore StoredStream)
    (reads : List (Turn FileStore StoredStream)) : Prop where
  /-- The session may have done anything before. -/
  reachable : opening.toStage.Reachable
  /-- The file is opened for writing. -/
  opens : opening.Opens path 0x77
  writing : Transcript opening.after writes closing.toStage
  /-- Every call meanwhile is a piece, asks for a flag or is apart. -/
  write : ∀ x ∈ writes, x.Writes opening.returned ∨ x.Asks opening.returned ∨
    x.Apart opening.returned (Utf8.decode path)
  /-- Everything together is within the limit of the store. -/
  room : (written opening.returned writes).length ≤ opening.host.files.limit
  closes : closing.service? = some .fclose ∧ closing.arg 0 = opening.returned
  /-- The guest does something else. -/
  resting : Transcript closing.after between reopening.toStage
  /-- No call meanwhile harms the file. -/
  rest : ∀ x ∈ between, x.Spares (Utf8.decode path)
  /-- The file is opened for reading. -/
  reopens : reopening.Opens path 0x72
  reading : ∃ last, Transcript reopening.after reads last
  /-- Every call meanwhile reads, asks for a flag or is apart. -/
  read : ∀ x ∈ reads, x.Reads reopening.returned ∨ x.Apart reopening.returned (Utf8.decode path)
  /-- The counter of handles does not come round while a handle is in use. -/
  few : (handles writes).length < 2 ^ 64 ∧ (handles reads).length < 2 ^ 64

/-- A guest reads from a handle what it has written: at any time it has received the content as far
as it has asked for it, and is told of the end of the file when it has asked for more. -/
structure Faithful (content : List UInt8) (r : Word)
    (reads : List (Turn FileStore StoredStream)) : Prop where
  /-- What was received so far is the content, as far as it was asked for. -/
  received : ∀ {before after}, reads = before ++ after →
    received r before = content.take (asked r before)
  /-- A read tells how many bytes it has stored. -/
  fread : ∀ {before x after}, reads = before ++ x :: after → x.Fetches r →
    x.result? = some (UInt64.ofNat (min (x.arg 2).toNat (content.length - asked r before)))
  /-- A byte is not mistaken for the end of the file, nor the end for a byte. -/
  fgetc : ∀ {before x after}, reads = before ++ x :: after → x.service? = some .fgetc →
    x.arg 0 = r → x.result? = some (StreamTable.byteResult content[asked r before]?)
  /-- The end of the file is met by asking for more than there is. -/
  feof : ∀ {before x after}, reads = before ++ x :: after → x.service? = some .feof →
    x.arg 0 = r → x.result? = some (if asked r before ≤ content.length then 0 else 1)
  /-- There is never an error. -/
  ferror : ∀ {before x after}, reads = before ++ x :: after → x.service? = some .ferror →
    x.arg 0 = r → x.result? = some 0

theorem Stage.Carries.faithful_reads {s s' : Stage FileStore StoredStream} {r : Word} {limit : Nat}
    {name : String} {content : ByteArray} {reads : List (Turn FileStore StoredStream)}
    (run : Transcript s reads s') (carries : s.Carries r 0 limit (.reading name content 0) content)
    (call : ∀ x ∈ reads, x.Reads r ∨ x.Apart r name) (few : (handles reads).length < 2 ^ 64) :
    Faithful content.data.toList r reads := by
  refine ⟨?_, ?_, ?_, ?_, ?_⟩
  · rintro before after rfl
    obtain ⟨m, first, -⟩ := Transcript.append_iff.mp run
    rw [handles_append, List.length_append] at few
    exact (carries.reads first (fun x hx => call x (List.mem_append_left _ hx)) (by omega)).1
  · rintro before x after rfl fetches
    rw [Bytes.length_toList]
    exact ((carries.at_call run call few).fread fetches).1
  · rintro before x after rfl hs handle
    exact ((carries.at_call run call few).fgetc hs handle).1
  · rintro before x after rfl hs handle
    rw [((carries.at_call run call few).flag ⟨Or.inl hs, handle⟩).1 hs, Bytes.length_toList]
    -- The flag is set by the first call that asks for more than there is.
    by_cases inside : asked r before ≤ content.size
    · simp [OpenFile.reading, inside]
    · simp [OpenFile.reading, inside, Nat.lt_of_not_le inside]
  · rintro before x after rfl hs handle
    exact ((carries.at_call run call few).flag ⟨Or.inr hs, handle⟩).2.1 hs

/-! ### Six bytes in two pieces

The guest writes `f` in two pieces, opens another file in between, and reads three bytes back. -/

namespace Pieces

/-- Sixteen bytes: the path `f`, the modes `w` and `r`, the data and the path `g`. -/
def memory : Memory :=
  ⟨⟨#[0x66, 0, 0x77, 0, 0x72, 0, 1, 2, 3, 4, 5, 6, 0x67, 0, 0, 0]⟩, by decide⟩

def opening : Turn FileStore StoredStream :=
  ⟨.initial none { files := {} }, .asking .fopen [0, 2] memory⟩

/-- Two items of two bytes. -/
def first : Turn FileStore StoredStream := ⟨opening.after, .asking .fwrite [6, 2, 2, 1] memory⟩

def other : Turn FileStore StoredStream := ⟨first.after, .asking .fopen [12, 2] memory⟩

/-- Two items of one byte. -/
def second : Turn FileStore StoredStream := ⟨other.after, .asking .fwrite [10, 1, 2, 1] memory⟩

def closing : Turn FileStore StoredStream := ⟨second.after, .asking .fclose [1] memory⟩

def reopening : Turn FileStore StoredStream := ⟨closing.after, .asking .fopen [0, 4] memory⟩

def fetching : Turn FileStore StoredStream :=
  ⟨reopening.after, .asking .fread [14, 1, 2, 3] memory⟩

def getting : Turn FileStore StoredStream := ⟨fetching.after, .asking .fgetc [3] memory⟩

theorem returned_opening : opening.returned = 1 := by cbv

theorem returned_reopening : reopening.returned = 3 := by cbv

theorem name_eq : Utf8.decode ⟨#[0x66]⟩ = "f" := by cbv

theorem writes_first : first.Writes 1 :=
  ⟨by cbv, by cbv, by decide +kernel, by decide +kernel, by decide +kernel⟩

theorem apart_other : other.Apart 1 "f" :=
  ⟨by decide +kernel, fun _ => by cbv⟩

theorem writes_second : second.Writes 1 :=
  ⟨by cbv, by cbv, by decide +kernel, by decide +kernel, by decide +kernel⟩

theorem fetches_fetching : fetching.Fetches 3 :=
  ⟨by cbv, by cbv, by cbv, by decide +kernel, by decide +kernel, by decide +kernel⟩

theorem written_eq : written 1 [first, other, second] = [1, 2, 3, 4, 5, 6] := by cbv

theorem asked_eq : asked 3 [fetching, getting] = 3 := by cbv

theorem roundTrip :
    RoundTrip ⟨#[0x66]⟩ opening [first, other, second] closing [] reopening
      [fetching, getting] where
  reachable := ⟨none, { files := {} }, [], .nil⟩
  opens :=
    ⟨by cbv, Memory.loadString_eq_ok_iff.mp (by cbv), Memory.loadString_eq_ok_iff.mp (by cbv)⟩
  writing := ((Transcript.nil.snoc _).snoc _).snoc _
  write := by
    rw [returned_opening, name_eq]
    intro x hx
    simp only [List.mem_cons, List.not_mem_nil, or_false] at hx
    rcases hx with rfl | rfl | rfl
    · exact Or.inl writes_first
    · exact Or.inr (Or.inr apart_other)
    · exact Or.inl writes_second
  room := by
    rw [returned_opening, written_eq]
    decide
  closes := ⟨by cbv, by rw [returned_opening]; cbv⟩
  resting := .nil
  rest := by simp
  reopens :=
    ⟨by cbv, Memory.loadString_eq_ok_iff.mp (by cbv), Memory.loadString_eq_ok_iff.mp (by cbv)⟩
  reading := ⟨_, (Transcript.nil.snoc _).snoc _⟩
  read := by
    rw [returned_reopening]
    intro x hx
    simp only [List.mem_cons, List.not_mem_nil, or_false] at hx
    rcases hx with rfl | rfl
    · exact Or.inl (.fread fetches_fetching)
    · exact Or.inl (.fgetc (by cbv) (by cbv))
  few := ⟨by decide +kernel, by decide +kernel⟩

end Pieces

/-- In every round trip both opens succeed, every piece is written whole and neither flag is set
meanwhile, closing succeeds, and the guest reads exactly what it has written. -/
theorem RoundTrip.faithful {path : ByteArray}
    {opening closing reopening : Turn FileStore StoredStream}
    {writes between reads : List (Turn FileStore StoredStream)}
    (trip : RoundTrip path opening writes closing between reopening reads) :
    opening.opened? = some opening.returned ∧
      (∀ x ∈ writes, x.Writes opening.returned → x.result? = some (x.arg 2)) ∧
      (∀ x ∈ writes, x.Asks opening.returned → x.result? = some 0) ∧
      closing.result? = some 0 ∧
      reopening.opened? = some reopening.returned ∧
      Faithful (written opening.returned writes) reopening.returned reads := by
  -- The file is empty when it is opened, and full when it is closed.
  obtain ⟨opened, start⟩ := Stage.Carries.of_opens_write trip.reachable.exists_panel trip.opens
  have room : ByteArray.empty.size + (written opening.returned writes).length ≤
      opening.host.files.limit := by
    rw [ByteArray.size_empty, Nat.zero_add]
    exact trip.room
  obtain ⟨content, joined, full⟩ := start.writes trip.writing trip.write trip.few.1 room
  obtain ⟨closed, left⟩ := full.fclose trip.closes.1 trip.closes.2
  -- It is still full when it is opened again.
  have kept := left.run trip.resting trip.rest
  obtain ⟨reopened, again⟩ := Stage.Carries.of_opens_read kept trip.reopens
  obtain ⟨last, reading⟩ := trip.reading
  have same : content.data.toList = written opening.returned writes := joined
  refine ⟨opened, fun x hx piece => ?_, fun x hx asks => ?_, closed, reopened, ?_⟩
  · obtain ⟨before, after, rfl⟩ := List.append_of_mem hx
    exact start.result?_of_writes trip.writing trip.write trip.few.1 room piece
  · obtain ⟨before, after, rfl⟩ := List.append_of_mem hx
    exact start.result?_of_asks trip.writing trip.write trip.few.1 room asks
  · rw [← same]
    exact again.faithful_reads reading trip.read trip.few.2

/-- Of the six bytes written in two pieces, with another open in between, the guest has the first
three once it has asked for three. -/
theorem faithful_pieces :
    Faithful (written Pieces.opening.returned [Pieces.first, Pieces.other, Pieces.second])
        Pieces.reopening.returned [Pieces.fetching, Pieces.getting] ∧
      written 1 [Pieces.first, Pieces.other, Pieces.second] = [1, 2, 3, 4, 5, 6] ∧
      received 3 [Pieces.fetching, Pieces.getting] = [1, 2, 3] := by
  obtain ⟨-, -, -, -, -, faithful⟩ := RoundTrip.faithful Pieces.roundTrip
  have received := faithful.received (List.append_nil _).symm
  rw [Pieces.returned_opening, Pieces.returned_reopening, Pieces.written_eq,
    Pieces.asked_eq] at received
  exact ⟨faithful, Pieces.written_eq, received⟩

end Semihosting
