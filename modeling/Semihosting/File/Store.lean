import Semihosting.Bytes
import Semihosting.File.Host
import Semihosting.Table

/-!
# File stores

A host that keeps its files in a table from names to contents. Nothing leaves the process, which
suits runs that must not touch the machine they run on. No write makes a file longer than the
store's limit.

## Main definitions

* `FileStore` — contents by name, and the limit on their length
* `StoredStream` — a stream on a stored file
* `FileStore.host` — the store as a file host
-/

namespace Semihosting

/-- Files kept by name. -/
structure FileStore where
  files : Table String ByteArray := .empty
  /-- Writing to a stream does not extend a file beyond this many bytes. -/
  limit : Nat := 64 * 1024 * 1024

/-- A stream on a stored file. It sees the file through the store, so streams on one file see each
other's writes at once. -/
structure StoredStream where
  name : String
  /-- How the file was opened. -/
  mode : OpenMode
  /-- The position of the next byte to read or to overwrite. -/
  position : Nat := 0
deriving DecidableEq, Repr

namespace FileStore

/-! ### Files -/

/-- The content of a file. -/
def get? (s : FileStore) (name : String) : Option ByteArray := s.files.get? name

/-- The store with a whole file put in place, whatever the limit. -/
def insert (s : FileStore) (name : String) (data : ByteArray) : FileStore :=
  { s with files := s.files.insert name data }

/-- The files in order of their names. -/
def listing (s : FileStore) : List (String × ByteArray) :=
  s.files.entries.mergeSort fun a b => decide (a.1 ≤ b.1)

/-- The content of a file, or nothing if there is none. -/
def content (s : FileStore) (name : String) : ByteArray := (s.get? name).getD .empty

/-- The store with the content of a file changed. -/
def change (s : FileStore) (name : String) (f : ByteArray → ByteArray) : FileStore :=
  let ⟨files, limit⟩ := s
  { files := files.alter name fun old => f (old.getD .empty), limit }

/-- To change a file is to put it in place with its content changed. -/
theorem change_eq_insert (s : FileStore) (name : String) (f : ByteArray → ByteArray) :
    s.change name f = s.insert name (f (s.content name)) := by
  simp only [change, insert, content, get?, Table.alter_eq_insert]

/-- The whole content of a file that must exist. -/
def wholeFile (s : FileStore) (name : String) : Except IoError ByteArray :=
  match s.get? name with
  | some data => .ok data
  | none => .error (.notFound name)

/-! ### Streams -/

/-- Opens a stream at the start of a file, creating or emptying the file as the mode asks. -/
def openFile (s : FileStore) (name : String) (mode : OpenMode) :
    Except IoError (FileStore × StoredStream) :=
  match s.get? name with
  | some _ =>
    if mode.exclusive then .error (.alreadyExists name)
    else .ok (if mode.truncates then s.insert name .empty else s, { name, mode })
  | none =>
    if mode.creates then .ok (s.insert name .empty, { name, mode })
    else .error (.notFound name)

/-- Reads from the position of a stream. -/
def read (s : FileStore) (stream : StoredStream) (count : Nat) :
    Except IoError ByteArray × StoredStream :=
  if stream.mode.readable then
    let data := Bytes.window (s.content stream.name) stream.position count
    (.ok data, { stream with position := stream.position + data.size })
  else (.error (.os .badDescriptor), stream)

/-- Where the next write of a stream begins: at the end of the file if the stream appends, else at
its position. -/
def writeStart (s : FileStore) (stream : StoredStream) : Nat :=
  if stream.mode.appends then (s.content stream.name).size else stream.position

/-- How many of `count` bytes the limit lets through from `start` on. -/
def room (s : FileStore) (start count : Nat) : Nat := min count (s.limit - start)

/-- Writes at the position of a stream, or at the end of its file if the mode says so, as far as
the limit allows. A gap between the end of the file and the position becomes zeros. -/
def write (s : FileStore) (stream : StoredStream) (data : ByteArray) :
    Except IoError Nat × FileStore × StoredStream :=
  if !stream.mode.writable then (.error (.os .badDescriptor), s, stream)
  else if data.size = 0 then (.ok 0, s, stream)
  else if s.limit ≤ s.writeStart stream then (.error (.os .fileTooLarge), s, stream)
  else
    let start := s.writeStart stream
    let count := s.room start data.size
    (.ok count,
      s.change stream.name fun old => Bytes.overlay old start (Bytes.window data 0 count),
      { stream with position := start + count })

/-- Moves a stream to any position that fits in a word. -/
def seek (s : FileStore) (stream : StoredStream) (seek : Seek) :
    Except IoError Nat × StoredStream :=
  match seek.target? 0x10000000000000000 stream.position (s.content stream.name).size with
  | some position => (.ok position, { stream with position })
  | none => (.error .seekOutOfRange, stream)

/-- The number of stored bytes. -/
def volume (s : FileStore) : Nat :=
  s.files.entries.foldr (fun entry rest => entry.2.size + rest) 0

/-! ### Laws of a file host -/

theorem size_le_of_read {s : FileStore} {stream after : StoredStream} {count : Nat}
    {data : ByteArray} (h : s.read stream count = (.ok data, after)) : data.size ≤ count := by
  unfold read at h
  split at h
  · cases h
    rw [Bytes.size_window]
    omega
  · cases h

theorem le_size_of_write {s s' : FileStore} {stream after : StoredStream} {data : ByteArray}
    {count : Nat} (h : s.write stream data = (.ok count, s', after)) : count ≤ data.size := by
  unfold write at h
  split at h
  · cases h
  · split at h
    · cases h
      exact Nat.zero_le _
    · split at h
      · cases h
      · cases h
        exact Nat.min_le_left ..

theorem read_ne_interrupted {s : FileStore} {stream after : StoredStream} {count : Nat} :
    s.read stream count ≠ (.error .interrupted, after) := by
  unfold read
  split <;> simp

theorem write_ne_interrupted {s s' : FileStore} {stream after : StoredStream}
    {data : ByteArray} : s.write stream data ≠ (.error .interrupted, s', after) := by
  unfold write
  split
  · simp
  · split
    · simp
    · split <;> simp

/-- A store is a file host whose requests are never interrupted. -/
instance host : FileHost FileStore StoredStream where
  openFile := openFile
  save s name data := .ok (s.insert name data)
  read := read
  write := write
  seek := seek
  flush _ stream := (.ok (), stream)
  readDelays _ := 0
  writeDelays _ := 0
  volume := volume
  size_le_of_read := size_le_of_read
  le_size_of_write := le_size_of_write
  readDelays_le _ _ _ := Nat.le_refl 0
  writeDelays_le _ _ _ := Nat.le_refl 0
  readDelays_lt h := absurd h read_ne_interrupted
  writeDelays_lt h := absurd h write_ne_interrupted

end FileStore

end Semihosting
