import Semihosting.Proofs.Exchanges
import Semihosting.Proofs.GuestCalls
import Semihosting.Proofs.LossyDecoding
import Semihosting.Proofs.MemoryWindows

/-!
# A guest's calls on streams

What the calls of a program on its streams do: the result, the stream, the files, and what was said
to the stream. Everything else that the program can notice stays.

## Main definitions

* `StreamTable.add` — the table with one more stream
* `StreamTable.Unused` — there is room in a table for two more streams
* `Turn.OpensFile`, `Turn.Says` — what a call opens, and what it says to which stream

## Main results

* `Guest.Has.fopen_of_ok`, `Guest.Has.fopen_of_error` — opening a file
* `Guest.Has.fread`, `Guest.Has.fwrite` — moving bytes between memory and a stream
* `Guest.Has.ferror`, `Guest.Has.fclose` — asking for the error flag, and closing
-/

namespace Semihosting

namespace StreamTable

variable {ς : Type}

/-- The table with one more stream, under the next handle. -/
def add (t : StreamTable ς) (file : OpenFile ς) : StreamTable ς :=
  { t.put t.next file with next := t.next + 1 }

@[simp] theorem next_add (t : StreamTable ς) (file : OpenFile ς) :
    (t.add file).next = t.next + 1 := rfl

@[simp] theorem get?_add (t : StreamTable ς) (file : OpenFile ς) (key : Word) :
    (t.add file).get? key = if key = t.next then some file else t.get? key :=
  get?_put ..

/-- The next two handles are no nulls, and have no streams yet. -/
structure Unused (t : StreamTable ς) : Prop where
  nonzero : t.next ≠ 0
  nonzero' : t.next + 1 ≠ 0
  free : t.get? t.next = none
  free' : t.get? (t.next + 1) = none

/-- A fresh table hands out the handles one and two. -/
theorem unused_fresh : ({} : StreamTable ς).Unused where
  nonzero := show (1 : Word) ≠ 0 by decide
  nonzero' := show (1 : Word) + 1 ≠ 0 by decide
  free := rfl
  free' := rfl

end StreamTable

namespace Turn

variable {σ ς : Type} [FileHost σ ς] {x : Turn σ ς} {handle : Word} {log : List Exchange}

/-- The call opens the file of a name in a mode, under a handle. -/
structure OpensFile (x : Turn σ ς) (name letters : String) (handle : Word) : Prop where
  opened : x.opened? = some handle
  named : x.memory.HoldsString (x.arg 0) name.toUTF8
  asked : x.memory.HoldsString (x.arg 1) letters.toUTF8

/-- The call names a handle, and says so much to its stream. -/
structure Says (x : Turn σ ς) (handle : Word) (log : List Exchange) : Prop where
  named : x.request.handle? = some handle
  said : x.exchanges = log

theorem Says.exchangesOn (h : x.Says handle log) (w : Word) :
    x.exchangesOn w = if w = handle then log else [] := by
  rw [exchangesOn_of_named h.named, h.said]

end Turn

namespace Guest

variable {σ ς : Type}

variable {g : Guest σ ς} {v : View σ ς}

theorem Has.table_turn (has : g.Has v) (r : Request) : (g.turn r).debugger.table = v.table :=
  Debugger.table_eq has.handlers

theorem Has.files_turn (has : g.Has v) (r : Request) : (g.turn r).host.files = v.host.files :=
  congrArg Host.files has.host

variable [FileHost σ ς] {file : OpenFile ς} {path mode handle buffer : Word}

/-! ### Opening -/

section Opening

variable {name letters : String} {parsed : OpenMode}

theorem reacts_fopen : (v.table.react? (.ofList Service.fopen.number [path, mode])).map
    (fun act => act v.memory v.host) = some (v.table.fopen path mode v.memory v.host) := by
  simp [StreamTable.react?, Request.service?_ofList, Request.getElem_ofList]

/-- A file that the host opens is open under the next handle. -/
theorem Has.fopen_of_ok (has : g.Has v) {files : σ} {stream : ς}
    (named : v.memory.HoldsString path name.toUTF8)
    (asked : v.memory.HoldsString mode letters.toUTF8)
    (parses : OpenMode.parse? letters.toUTF8 = some parsed)
    (opened : FileHost.openFile v.host.files name parsed = .ok (files, stream)) :
    ∃ g' x, Performs (call .fopen [path, mode]) g [x] (.ok v.table.next) g' ∧
      x.OpensFile name letters v.table.next ∧ x.exchanges = [] ∧ x.stdout = [] ∧
      g'.Has { v with
        table := v.table.add { stream }, host := { v.host with files }
        served := v.served + 1 } := by
  have grant : StreamTable.grant? v.memory v.host path mode = some (files, stream) :=
    StreamTable.grant?_eq_some_iff.mpr
      ⟨_, _, _, named, asked, parses, by rw [Utf8.decode_toUTF8]; exact opened⟩
  have answer := StreamTable.fopen_of_grant (t := v.table) grant
  obtain ⟨g', performs, has'⟩ := has.call_streams (reacts_fopen.trans (congrArg some answer)) rfl
  refine ⟨g', _, performs, ?_, ?_, stdout_turn g (by decide) _, has'⟩
  · have memory : (g.turn (.ofList Service.fopen.number [path, mode])).memory = v.memory :=
      has.memory
    have host : (g.turn (.ofList Service.fopen.number [path, mode])).host = v.host := has.host
    refine ⟨?_, ?_, ?_⟩
    · rw [Turn.opened?, Turn.granted?, service?_turn, arg_turn, arg_turn, memory, host]
      rw [if_pos ⟨rfl, by simp [grant]⟩]
      exact (result?_of_request performs.eq).1
    · rw [arg_turn, memory]
      exact named
    · rw [arg_turn, memory]
      exact asked
  · simp [Turn.exchanges, service?_turn]

/-- A file that the host does not open leaves everything as it is. -/
theorem Has.fopen_of_error (has : g.Has v) {reason : IoError}
    (named : v.memory.HoldsString path name.toUTF8)
    (asked : v.memory.HoldsString mode letters.toUTF8)
    (parses : OpenMode.parse? letters.toUTF8 = some parsed)
    (denied : FileHost.openFile v.host.files name parsed = .error reason) :
    ∃ g' x, Performs (call .fopen [path, mode]) g [x] (.ok 0) g' ∧ x.exchanges = [] ∧
      x.stdout = [] ∧ g'.Has { v with served := v.served + 1 } := by
  have grant : StreamTable.grant? v.memory v.host path mode = none := by
    simp only [StreamTable.grant?, Memory.loadString_eq_ok_iff.mpr named,
      Memory.loadString_eq_ok_iff.mpr asked, parses, Utf8.decode_toUTF8]
    rw [Option.bind_eq_bind, Option.bind_some, denied]
    rfl
  obtain ⟨event, answer⟩ := StreamTable.fopen_of_denied (t := v.table) ⟨⟨_, named⟩, _, asked⟩ grant
  obtain ⟨g', performs, has'⟩ := has.call_streams (reacts_fopen.trans (congrArg some answer)) rfl
  refine ⟨g', _, performs, ?_, stdout_turn g (by decide) _, has'⟩
  simp [Turn.exchanges, service?_turn]

end Opening

/-! ### Transfers -/

/-- A read of bytes leaves in memory what the stream delivers. -/
theorem Has.fread (has : g.Has v) {count : Word} (live : v.table.get? handle = some file)
    (pos : 0 < count.toNat) (small : count.toNat ≤ StreamTable.transferLimit)
    (room : v.memory.Holds buffer count.toNat) :
    ∃ g' x m, Performs (call .fread [buffer, 1, count, handle]) g [x]
        (.ok (UInt64.ofNat (file.fill v.host.files count.toNat).data.size)) g' ∧
      x.Says handle (file.readLog v.host.files count.toNat) ∧ x.stdout = [] ∧
      v.memory.store buffer (file.fill v.host.files count.toNat).data = .ok m ∧
      g'.Has { v with
        memory := m, table := v.table.put handle (file.fill v.host.files count.toNat).file
        served := v.served + 1 } := by
  have length : (1 : Word).toNat * count.toNat = count.toNat := Nat.one_mul _
  have items : StreamTable.items v.host file 1 count =
      (file.fill v.host.files count.toNat).data := by
    rw [StreamTable.items, length, UInt64.toNat_one, Nat.div_one, Nat.mul_one, Bytes.window_size]
  obtain ⟨m, stored⟩ : ∃ m, v.memory.store buffer (file.fill v.host.files count.toNat).data =
      .ok m := by
    refine Memory.exists_store_eq_ok ?_
    have le := OpenFile.size_fill_le v.host.files file count.toNat
    rw [Memory.Holds] at room ⊢
    omega
  have reacts : (v.table.react? (.ofList Service.fread.number [buffer, 1, count, handle])).map
      (fun act => act v.memory v.host) =
        some (v.table.fread Service.fread.number buffer 1 count handle v.memory v.host) := by
    simp [StreamTable.react?, Request.service?_ofList, Request.getElem_ofList]
  rw [StreamTable.fread_of_live (by rw [length]; exact pos) (by rw [length]; exact small) live,
    items, length, stored] at reacts
  obtain ⟨g', performs, has'⟩ := has.call_streams reacts rfl
  rw [UInt64.toNat_one, Nat.div_one] at performs
  refine ⟨g', _, m, performs, ⟨?_, ?_⟩, stdout_turn g (by decide) _, stored, has'⟩
  · rw [request_turn, Request.handle?_ofList]
    rfl
  have bytes : (g.turn (.ofList Service.fread.number [buffer, 1, count, handle])).length =
      count.toNat := by
    rw [Turn.length, arg_turn, arg_turn]
    exact length
  simp [Turn.exchanges, service?_turn, arg_turn, has.table_turn, has.files_turn, live, bytes, small]

/-- A write of bytes gives the stream what is in memory. -/
theorem Has.fwrite (has : g.Has v) {data : ByteArray} (live : v.table.get? handle = some file)
    (pos : 0 < data.size) (small : data.size ≤ StreamTable.transferLimit)
    (loaded : v.memory.load buffer (UInt64.ofNat data.size) = .ok data) :
    ∃ g' x, Performs (call .fwrite [buffer, 1, UInt64.ofNat data.size, handle]) g [x]
        (.ok (UInt64.ofNat (file.drain v.host.files data).count)) g' ∧
      x.Says handle (file.writeLog v.host.files data) ∧ x.stdout = [] ∧
      g'.Has { v with
        table := v.table.put handle (file.drain v.host.files data).file
        host := { v.host with files := (file.drain v.host.files data).files }
        served := v.served + 1 } := by
  have size : (UInt64.ofNat data.size).toNat = data.size := by
    refine UInt64.toNat_ofNat_of_lt' (Nat.lt_of_le_of_lt small ?_)
    decide
  have length : (1 : Word).toNat * (UInt64.ofNat data.size).toNat = data.size := by
    rw [size]
    exact Nat.one_mul _
  have reacts : (v.table.react?
      (.ofList Service.fwrite.number [buffer, 1, UInt64.ofNat data.size, handle])).map
      (fun act => act v.memory v.host) = some (v.table.fwrite Service.fwrite.number buffer 1
        (UInt64.ofNat data.size) handle v.memory v.host) := by
    simp [StreamTable.react?, Request.service?_ofList, Request.getElem_ofList]
  rw [StreamTable.fwrite_of_live (by rw [length]; exact pos) (by rw [length]; exact small) live,
    length, loaded] at reacts
  obtain ⟨g', performs, has'⟩ := has.call_streams reacts rfl
  rw [UInt64.toNat_one, Nat.div_one] at performs
  refine ⟨g', _, performs, ⟨?_, ?_⟩, stdout_turn g (by decide) _, has'⟩
  · rw [request_turn, Request.handle?_ofList]
    rfl
  have bytes : (g.turn (.ofList Service.fwrite.number
      [buffer, 1, UInt64.ofNat data.size, handle])).length = data.size := by
    rw [Turn.length, arg_turn, arg_turn]
    exact length
  obtain ⟨held, window⟩ := Memory.load_eq_ok_iff.mp loaded
  rw [size] at held window
  have memory : (g.turn (.ofList Service.fwrite.number
      [buffer, 1, UInt64.ofNat data.size, handle])).memory = v.memory := has.memory
  have holds : v.memory.Holds buffer data.size := held
  simp [Turn.exchanges, service?_turn, arg_turn, has.table_turn, has.files_turn, live, bytes, small,
    memory, holds, ← window]

/-! ### Flags and closing -/

/-- The error flag of a stream. -/
theorem Has.ferror (has : g.Has v) (live : v.table.get? handle = some file) :
    ∃ g' x, Performs (call .ferror [handle]) g [x] (.ok (if file.error then 1 else 0)) g' ∧
      x.exchanges = [] ∧ x.stdout = [] ∧ g'.Has { v with served := v.served + 1 } := by
  have reacts : (v.table.react? (.ofList Service.ferror.number [handle])).map
      (fun act => act v.memory v.host) =
        some (.idle (if file.error then 1 else 0) v.table v.memory v.host) := by
    simp [StreamTable.react?, Request.service?_ofList, Request.getElem_ofList, StreamTable.flag,
      live, Answer.idle]
  obtain ⟨g', performs, has'⟩ := has.call_streams reacts rfl
  refine ⟨g', _, performs, ?_, stdout_turn g (by decide) _, has'⟩
  simp [Turn.exchanges, service?_turn]

/-- Closing a stream tells whether what was written has reached its file. -/
theorem Has.fclose (has : g.Has v) (live : v.table.get? handle = some file) :
    ∃ g' x, Performs (call .fclose [handle]) g [x]
        (.ok (if (FileHost.flush v.host.files file.stream).1.isOk then 0
          else StreamTable.failure)) g' ∧
      x.Says handle [.flush (FileHost.flush v.host.files file.stream).1] ∧ x.stdout = [] ∧
      g'.Has { v with table := v.table.close handle, served := v.served + 1 } := by
  have reacts : (v.table.react? (.ofList Service.fclose.number [handle])).map
      (fun act => act v.memory v.host) =
        some (.idle (if (FileHost.flush v.host.files file.stream).1.isOk then 0
          else StreamTable.failure) (v.table.close handle) v.memory v.host) := by
    simp [StreamTable.react?, Request.service?_ofList, Request.getElem_ofList, StreamTable.fclose,
      live, Answer.idle]
    cases (FileHost.flush v.host.files file.stream).1 <;> rfl
  obtain ⟨g', performs, has'⟩ := has.call_streams reacts rfl
  refine ⟨g', _, performs, ⟨?_, ?_⟩, stdout_turn g (by decide) _, has'⟩
  · rw [request_turn, Request.handle?_ofList]
    rfl
  · simp [Turn.exchanges, service?_turn, arg_turn, has.table_turn, has.files_turn, live]

end Guest

end Semihosting
