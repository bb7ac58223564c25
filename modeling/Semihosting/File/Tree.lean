import Semihosting.Bytes
import Semihosting.File.Host
import Semihosting.Table

/-!
# Directory trees

Files and directories in a tree, with the rules by which an operating system finds and opens them.
A file name is a path from the working directory, or from the root if it begins with a slash.

## Main definitions

* `DirTree` — files and directories by path
* `DirTree.locate` — following a file name through the tree
* `TreeStream` — a stream on an entry of the tree
* `DirTree.host` — the tree as a file host
-/

namespace Semihosting

/-- The names that lead from the root of a tree to an entry. -/
abbrev Path := List String

/-- An entry of a directory tree. -/
inductive Node where
  /-- A file and its content. -/
  | file (data : ByteArray)
  | directory
deriving DecidableEq

/-- The content of an entry, or nothing if it is no file. Inlined, so that the entry can be taken
apart and its content be changed in place. -/
@[inline] def Node.content : Option Node → ByteArray
  | some (file data) => data
  | some directory | none => .empty

/-- A tree of directories and files. -/
structure DirTree where
  /-- The entries by path; the root is always a directory and not among them. -/
  nodes : Table Path Node := .empty
  workdir : Path := []

/-- A stream on an entry of a tree. -/
structure TreeStream where
  path : Path
  mode : OpenMode
  /-- The position of the next byte to read or to overwrite. -/
  position : Nat := 0
deriving DecidableEq, Repr

/-- Where a file name leads. -/
structure Location where
  /-- The path of the entry, which may be missing. -/
  path : Path
  /-- The name ends in a slash and so can only mean a directory. -/
  slash : Bool := false
deriving DecidableEq, Repr

namespace DirTree

/-! ### Entries -/

/-- The entry at a path. -/
def node? (t : DirTree) (path : Path) : Option Node :=
  if path.isEmpty then some .directory else t.nodes.get? path

/-- The content of the file at a path, or nothing if there is none. -/
def content (t : DirTree) (path : Path) : ByteArray := Node.content (t.node? path)

/-- The tree with a file's content set. -/
def put (t : DirTree) (path : Path) (data : ByteArray) : DirTree :=
  { t with nodes := t.nodes.insert path (.file data) }

/-- The tree with a file's content changed. -/
def change (t : DirTree) (path : Path) (f : ByteArray → ByteArray) : DirTree :=
  let ⟨nodes, workdir⟩ := t
  { nodes := nodes.alter path fun old => .file (f (Node.content old)), workdir }

/-- To change a file is to set its content to what becomes of it. -/
theorem change_eq_put (t : DirTree) {path : Path} (h : path.isEmpty = false)
    (f : ByteArray → ByteArray) : t.change path f = t.put path (f (t.content path)) := by
  simp [change, put, content, node?, h, Table.alter_eq_insert]

/-- The tree with a directory at `path`, unless there is an entry already. -/
def putDirectory (t : DirTree) (path : Path) : DirTree :=
  if (t.node? path).isSome then t else { t with nodes := t.nodes.insert path .directory }

/-- The tree with directories on the whole way from `path` along `names`. -/
def putDirectories (t : DirTree) (path : Path) : List String → DirTree
  | [] => t
  | name :: rest => (t.putDirectory (path ++ [name])).putDirectories (path ++ [name]) rest

/-- The tree of a working directory without entries. -/
def ofWorkdir (workdir : Path) : DirTree :=
  DirTree.putDirectories { workdir } [] workdir

/-- The names of which a file name is made up. -/
def parts (name : String) : List String := (name.splitOn "/").filter (!·.isEmpty)

/-- The tree with a file below the working directory, and the directories above it. -/
def addFile (t : DirTree) (name : String) (data : ByteArray) : DirTree :=
  (t.putDirectories t.workdir (parts name).dropLast).put (t.workdir ++ parts name) data

/-- The tree with a directory below the working directory, and the directories above it. -/
def addDirectory (t : DirTree) (name : String) : DirTree :=
  t.putDirectories t.workdir (parts name)

/-- The entries below the working directory by their names from there, in order of the names; a
directory has no content. -/
def listing (t : DirTree) : List (String × Option ByteArray) :=
  let below := t.nodes.entries.filter fun (path, _) =>
    t.workdir.isPrefixOf path && path ≠ t.workdir
  let named := below.map fun (path, node) =>
    ("/".intercalate (path.drop t.workdir.length), match node with
      | .file data => some data
      | .directory => none)
  named.mergeSort fun a b => decide (a.1 ≤ b.1)

/-! ### File names -/

/-- The longest name that an entry of a directory can have, in bytes. -/
def longestName : Nat := 255

/-- The entry at a path, unless the last name on it is too long for any entry. -/
def lookUp (t : DirTree) (path : Path) : Except IoError (Option Node) :=
  if path.getLast?.any (longestName < ·.utf8ByteSize) then .error (.os .nameTooLong)
  else .ok (t.node? path)

/-- Follows the parts of a file name from the directory `here`. All parts but the last must be
directories; empty parts and `.` stay where they are, and `..` goes up, from the root nowhere. The
last part is not looked up yet. -/
def walk (t : DirTree) (here : Path) : List String → Except IoError Location
  | [] => .ok { path := here }
  | part :: rest =>
    if part = "" ∨ part = "." then t.walk here rest
    else if part = ".." then t.walk here.dropLast rest
    else
      let path := here ++ [part]
      -- Only slashes may follow the last part; they ask for a directory.
      if rest.all String.isEmpty then .ok { path, slash := !rest.isEmpty }
      else match t.lookUp path with
        | .ok (some .directory) => t.walk path rest
        | .ok (some (.file _)) => .error (.os .notDirectory)
        | .ok none => .error (.os .noEntry)
        | .error reason => .error reason

/-- Where a file name leads. -/
def locate (t : DirTree) (name : String) : Except IoError Location :=
  if name.contains '\x00' then .error .zeroInName
  else if name.isEmpty then .error (.os .noEntry)
  else if 4096 ≤ name.utf8ByteSize then .error (.os .nameTooLong)
  else match name.splitOn "/" with
    | "" :: fromRoot => t.walk [] fromRoot
    | fromWorkdir => t.walk t.workdir fromWorkdir

/-! ### Streams -/

/-- Opens an entry. A directory can be opened for reading only, and is not created. -/
def openFile (t : DirTree) (name : String) (mode : OpenMode) :
    Except IoError (DirTree × TreeStream) := do
  let place ← t.locate name
  let stream : TreeStream := { path := place.path, mode }
  if mode.creates then
    -- No file can be created under a name that means a directory, however long the name is.
    if place.slash then throw (.os .isDirectory)
    match ← t.lookUp place.path with
    | some node =>
      -- An entry in the way is reported before what kind of entry it is.
      if mode.exclusive then throw (.os .entryExists)
      if node = .directory then throw (.os .isDirectory)
      return (if mode.truncates then t.put place.path .empty else t, stream)
    | none => return (t.put place.path .empty, stream)
  else
    match ← t.lookUp place.path with
    | some .directory => if mode.writable then throw (.os .isDirectory) else return (t, stream)
    | some (.file _) => if place.slash then throw (.os .notDirectory) else return (t, stream)
    | none => throw (.os .noEntry)

/-- The whole content of a file. -/
def wholeFile (t : DirTree) (name : String) : Except IoError ByteArray := do
  let (_, stream) ← t.openFile name { purpose := .read }
  match t.node? stream.path with
  | some (.file data) => return data
  | _ => throw (.os .isDirectory)

/-- Replaces or creates a whole file. -/
def save (t : DirTree) (name : String) (data : ByteArray) : Except IoError DirTree := do
  let (t, stream) ← t.openFile name { purpose := .write }
  return t.put stream.path data

/-- No file reaches beyond this position. -/
def lastPosition : Nat := 0x7fffffffffffffff

/-- Reads from the position of a stream. What is asked for may not reach beyond the last position,
however short the file is. -/
def read (t : DirTree) (stream : TreeStream) (count : Nat) :
    Except IoError ByteArray × TreeStream :=
  if !stream.mode.readable then (.error (.os .badDescriptor), stream)
  else if lastPosition < stream.position + count then (.error (.os .invalidArgument), stream)
  else if t.node? stream.path = some .directory then (.error (.os .isDirectory), stream)
  else
    let data := Bytes.window (t.content stream.path) stream.position count
    (.ok data, { stream with position := stream.position + data.size })

/-- The end of an entry, as far as seeks are concerned; that of a directory is the last position
there is. -/
def endOf (t : DirTree) (path : Path) : Nat :=
  match t.node? path with
  | some (.file data) => data.size
  | some .directory => lastPosition
  | none => 0

/-- Where the next write of a stream begins: at the end of the file if the stream appends, else at
its position. -/
def writeStart (t : DirTree) (stream : TreeStream) : Nat :=
  if stream.mode.appends then (t.content stream.path).size else stream.position

/-- Writes at the position of a stream, or at the end of its file if the mode says so. A gap
between the end of the file and the position becomes zeros. -/
def write (t : DirTree) (stream : TreeStream) (data : ByteArray) :
    Except IoError Nat × DirTree × TreeStream :=
  if !stream.mode.writable then (.error (.os .badDescriptor), t, stream)
  else if lastPosition < stream.position + data.size then
    (.error (.os .invalidArgument), t, stream)
  else if data.size = 0 then (.ok 0, t, stream)
  else
    let start := t.writeStart stream
    (.ok data.size, t.change stream.path fun old => Bytes.overlay old start data,
      { stream with position := start + data.size })

/-- Moves a stream to any position that a file can have. -/
def seek (t : DirTree) (stream : TreeStream) (seek : Seek) : Except IoError Nat × TreeStream :=
  match seek.target? (lastPosition + 1) stream.position (t.endOf stream.path) with
  | some position => (.ok position, { stream with position })
  | none => (.error (.os .invalidArgument), stream)

/-- The number of bytes in the tree's files. -/
def volume (t : DirTree) : Nat :=
  t.nodes.entries.foldr (fun entry rest => (t.content entry.1).size + rest) 0

/-! ### Laws of a file host -/

theorem size_le_of_read {t : DirTree} {stream after : TreeStream} {count : Nat}
    {data : ByteArray} (h : t.read stream count = (.ok data, after)) : data.size ≤ count := by
  unfold read at h
  split at h
  · cases h
  · split at h
    · cases h
    · split at h
      · cases h
      · cases h
        rw [Bytes.size_window]
        omega

theorem le_size_of_write {t t' : DirTree} {stream after : TreeStream} {data : ByteArray}
    {count : Nat} (h : t.write stream data = (.ok count, t', after)) : count ≤ data.size := by
  unfold write at h
  split at h
  · cases h
  · split at h
    · cases h
    · split at h
      · cases h
        exact Nat.zero_le _
      · cases h
        exact Nat.le_refl _

theorem read_ne_interrupted {t : DirTree} {stream after : TreeStream} {count : Nat} :
    t.read stream count ≠ (.error .interrupted, after) := by
  unfold read
  split
  · simp
  · split
    · simp
    · split <;> simp

theorem write_ne_interrupted {t t' : DirTree} {stream after : TreeStream} {data : ByteArray} :
    t.write stream data ≠ (.error .interrupted, t', after) := by
  unfold write
  split
  · simp
  · split
    · simp
    · split <;> simp

/-- A directory tree is a file host whose requests are never interrupted. -/
instance host : FileHost DirTree TreeStream where
  openFile := openFile
  save := save
  read := read
  write := write
  seek := seek
  flush _ stream := (.ok (), stream)
  readDelays _ := 0
  writeDelays _ := 0
  volume := volume
  size_le_of_read := size_le_of_read
  le_size_of_write := le_size_of_write
  readDelays_le _ _ _ := Nat.le_refl 0
  writeDelays_le _ _ _ := Nat.le_refl 0
  readDelays_lt h := absurd h read_ne_interrupted
  writeDelays_lt h := absurd h write_ne_interrupted

end DirTree

end Semihosting
