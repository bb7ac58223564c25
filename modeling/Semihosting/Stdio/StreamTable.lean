import Semihosting.Handler.Answer
import Semihosting.Stdio.OpenFile
import Semihosting.Table
import Semihosting.Text.Utf8

/-!
# Stdio streams

The guest names its streams by handles. A handle is never zero, and none is given out twice; zero
stands for no stream. Calls on a handle without a stream fail with a result code and change
nothing.

## Main definitions

* `StreamTable` — the open streams by handle
* `StreamTable.fopen`, …, `StreamTable.fwrite` — the services
* `StreamTable.react?` — the reaction to a request for one of them
-/

namespace Semihosting

/-- The open streams of a guest. -/
structure StreamTable (ς : Type) where
  streams : Table Word (OpenFile ς) := .empty
  /-- The handle of the next stream. -/
  next : Word := 1

namespace StreamTable

variable {σ ς : Type}

/-! ### Results and limits -/

/-- The result of a call that has nothing better to say: minus one. -/
def failure : Word := -1

/-- The most bytes that one call may transfer: three mebibytes. -/
def transferLimit : Nat := 3 * 1024 * 1024

/-- The length of a transfer of `count` items of `size` bytes, if it is within the limit. The fault
names the length, or the greatest word if the length is none. -/
def transferLength (number size count : Word) : Except Fault Nat :=
  -- The product is exact; only the report of it is cut down to a word.
  let length := size.toNat * count.toNat
  if length ≤ transferLimit then .ok length
  else .error (.transferTooLarge number (UInt64.ofNat (min length 0xffffffffffffffff)))

/-! ### Streams by handle -/

/-- The stream of a handle. -/
def get? (t : StreamTable ς) (handle : Word) : Option (OpenFile ς) := t.streams.get? handle

/-- The table with the stream of a handle replaced. -/
def put (t : StreamTable ς) (handle : Word) (file : OpenFile ς) : StreamTable ς :=
  { t with streams := t.streams.insert handle file }

/-- The table without the stream of a handle. -/
def close (t : StreamTable ς) (handle : Word) : StreamTable ς :=
  { t with streams := t.streams.erase handle }

/-- The number of open streams. -/
def openStreams (t : StreamTable ς) : Nat := t.streams.size

@[simp] theorem get?_put (t : StreamTable ς) (handle key : Word) (file : OpenFile ς) :
    (t.put handle file).get? key = if key = handle then some file else t.get? key :=
  Table.get?_insert ..

@[simp] theorem get?_close (t : StreamTable ς) (handle key : Word) :
    (t.close handle).get? key = if key = handle then none else t.get? key :=
  Table.get?_erase ..

/-- Closing a handle without a stream changes nothing. -/
theorem close_of_get?_eq_none {t : StreamTable ς} {handle : Word} (h : t.get? handle = none) :
    t.close handle = t := by
  rw [close, Table.erase_of_get?_eq_none h]

variable [FileHost σ ς]

/-! ### Opening

Both strings are read from guest memory before anything else, so a bad address is a fault
whatever the handle. -/

/-- Opens a file for a guest, or says why it cannot be. -/
def openFor (files : σ) (path mode : ByteArray) : Except Event (σ × OpenFile ς) :=
  let name := Utf8.decode path
  match OpenMode.parse? mode with
  | none => .error (.modeRejected (Utf8.decode mode) name)
  | some mode =>
    match FileHost.openFile files name mode with
    | .ok (files, stream) => .ok (files, { stream })
    | .error reason => .error (.openFailed name reason)

/-- Opens a stream under a fresh handle; the result is the handle, or zero. -/
def fopen (t : StreamTable ς) (path mode : Word) : Reaction (StreamTable ς) σ :=
  fun memory host =>
    match memory.loadString path, memory.loadString mode with
    | .error fault, _ | .ok _, .error fault =>
      { outcome := .error fault, handler := t, memory, host }
    | .ok path, .ok mode =>
      match openFor host.files path mode with
      | .ok (files, file) =>
        { outcome := .ok t.next, handler := { t.put t.next file with next := t.next + 1 }, memory
          host := { host with files } }
      -- The counter stays, so the next open that succeeds has this handle.
      | .error event => { outcome := .ok 0, handler := t, memory, host, events := [event] }

/-- Closes a stream and opens another one under its handle. The result is the handle, or zero, in
which case no stream is left under it. -/
def freopen (t : StreamTable ς) (path mode handle : Word) : Reaction (StreamTable ς) σ :=
  fun memory host =>
    match memory.loadString path, memory.loadString mode with
    | .error fault, _ | .ok _, .error fault =>
      { outcome := .error fault, handler := t, memory, host }
    | .ok path, .ok mode =>
      match t.get? handle with
      | none => { outcome := .ok 0, handler := t, memory, host }
      | some _ =>
        match openFor host.files path mode with
        | .ok (files, file) =>
          { outcome := .ok handle, handler := t.put handle file, memory
            host := { host with files } }
        -- The old stream is gone even though there is no new one.
        | .error event =>
          { outcome := .ok 0, handler := t.close handle, memory, host, events := [event] }

/-! ### Transfers

The limit is checked first. A transfer of no bytes, or on a handle without a stream, is nothing
to do and ends well whatever the address. -/

/-- Reads items into guest memory. The result is the number of whole items; the bytes of a last
incomplete one are read and dropped. -/
def fread (t : StreamTable ς) (number address size count handle : Word) :
    Reaction (StreamTable ς) σ :=
  fun memory host =>
    match transferLength number size count, t.get? handle with
    | .error fault, _ => { outcome := .error fault, handler := t, memory, host }
    | .ok 0, _ | .ok _, none => { outcome := .ok 0, handler := t, memory, host }
    | .ok length, some file =>
      let filled := file.fill host.files length
      let items := filled.data.size / size.toNat
      -- The stream has moved on even if the address turns out to be bad.
      let handler := t.put handle filled.file
      let events := filled.failure.toList.map .readFailed
      match memory.store address (Bytes.window filled.data 0 (items * size.toNat)) with
      | .ok memory => { outcome := .ok (UInt64.ofNat items), handler, memory, host, events }
      | .error fault => { outcome := .error fault, handler, memory, host, events }

/-- Writes items from guest memory. The result is the number of items written whole. -/
def fwrite (t : StreamTable ς) (number address size count handle : Word) :
    Reaction (StreamTable ς) σ :=
  fun memory host =>
    match transferLength number size count, t.get? handle with
    | .error fault, _ => { outcome := .error fault, handler := t, memory, host }
    | .ok 0, _ | .ok _, none => { outcome := .ok 0, handler := t, memory, host }
    | .ok length, some file =>
      match memory.load address (UInt64.ofNat length) with
      | .error fault => { outcome := .error fault, handler := t, memory, host }
      | .ok data =>
        -- The host is taken apart so that its files can be changed in place.
        let ⟨files, printed, entropy, clock⟩ := host
        let drained := file.drain files data
        { outcome := .ok (UInt64.ofNat (drained.count / size.toNat))
          handler := t.put handle drained.file
          memory
          host := { files := drained.files, printed, entropy, clock }
          events := drained.failure.toList.map .writeFailed }

/-- Reads one byte. The result is the byte, or minus one. -/
def fgetc (t : StreamTable ς) (handle : Word) : Reaction (StreamTable ς) σ :=
  fun memory host =>
    match t.get? handle with
    | none => { outcome := .ok failure, handler := t, memory, host }
    | some file =>
      let filled := file.fill host.files 1
      -- One byte was asked for, so there is one or none.
      { outcome := .ok (match filled.data.data.toList with
          | [byte] => byte.toUInt64
          | _ => failure)
        handler := t.put handle filled.file
        memory
        host
        events := filled.failure.toList.map .readFailed }

/-! ### Closing, positions and flags -/

/-- Closes a stream. The result is zero, or minus one if nothing was open or what was written did
not all reach the file. -/
def fclose (t : StreamTable ς) (handle : Word) : Reaction (StreamTable ς) σ :=
  fun memory host =>
    { outcome := .ok (match t.get? handle with
        | some file =>
          match (FileHost.flush host.files file.stream).1 with
          | .ok () => 0
          | .error _ => failure
        | none => failure)
      handler := t.close handle
      memory
      host }

/-- The position of a stream, or minus one. -/
def ftell (t : StreamTable ς) (handle : Word) : Reaction (StreamTable ς) σ :=
  fun memory host =>
    match t.get? handle with
    | none => { outcome := .ok failure, handler := t, memory, host }
    | some file =>
      -- To move by nothing is to ask where the stream is.
      let (answer, stream) := FileHost.seek host.files file.stream (.current 0)
      { outcome := .ok (match answer with
          | .ok position => UInt64.ofNat position
          | .error _ => failure)
        handler := t.put handle { file with stream }
        memory
        host }

/-- The seek that an offset and an origin (0, 1 or 2) ask for. -/
def seek? (offset origin : Word) : Option Seek :=
  if origin = 0 then if 0 ≤ offset.signed then some (.start offset.toNat) else none
  else if origin = 1 then some (.current offset.signed)
  else if origin = 2 then some (.fromEnd offset.signed)
  else none

/-- Moves a stream. The result is zero, and the stream is no longer at the end of its file, or
minus one. -/
def fseek (t : StreamTable ς) (handle offset origin : Word) : Reaction (StreamTable ς) σ :=
  fun memory host =>
    match t.get? handle, seek? offset origin with
    | none, _ | some _, none => { outcome := .ok failure, handler := t, memory, host }
    | some file, some seek =>
      match FileHost.seek host.files file.stream seek with
      | (.ok _, stream) =>
        { outcome := .ok 0, handler := t.put handle { file with stream, eof := false }, memory
          host }
      -- A stream that did not move stays at the end if it was there.
      | (.error _, stream) =>
        { outcome := .ok failure, handler := t.put handle { file with stream }, memory, host }

/-- A flag of a stream: one if it is set, else zero. -/
def flag (t : StreamTable ς) (handle : Word) (of : OpenFile ς → Bool) :
    Reaction (StreamTable ς) σ :=
  fun memory host =>
    { outcome := .ok (if (t.get? handle).any of then 1 else 0), handler := t, memory, host }

/-! ### Requests -/

/-- The reaction to a request for a stream service. -/
def react? (t : StreamTable ς) (r : Request) : Option (Reaction (StreamTable ς) σ) :=
  match r.service? with
  | some .fopen => some (t.fopen (r.arg 0) (r.arg 1))
  | some .freopen => some (t.freopen (r.arg 0) (r.arg 1) (r.arg 2))
  | some .fread => some (t.fread r.number (r.arg 0) (r.arg 1) (r.arg 2) (r.arg 3))
  | some .feof => some (t.flag (r.arg 0) OpenFile.eof)
  | some .ferror => some (t.flag (r.arg 0) OpenFile.error)
  | some .fgetc => some (t.fgetc (r.arg 0))
  | some .fclose => some (t.fclose (r.arg 0))
  | some .ftell => some (t.ftell (r.arg 0))
  | some .fseek => some (t.fseek (r.arg 0) (r.arg 1) (r.arg 2))
  | some .fwrite => some (t.fwrite r.number (r.arg 0) (r.arg 1) (r.arg 2) (r.arg 3))
  | _ => none

end StreamTable

end Semihosting
