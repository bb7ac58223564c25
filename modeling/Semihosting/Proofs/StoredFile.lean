import Semihosting.File.Store
import Semihosting.Proofs.Transfer

/-!
# Transfers on stored files

A store answers every request at once: a read delivers what is left of the file, as far as it is
wanted, and a write takes everything that the limit lets through. So a whole transfer comes down
to one window of the content, whatever the number of requests.

## Main definitions

* `FileStore.allowance` — how many of some bytes a stream can write

## Main results

* `FileStore.fill_eq` — what a read from a stored file leaves behind
* `FileStore.drain_eq` — what a write to a stored file leaves behind, cut short at the limit
* `FileStore.drain_keeps` — a write leaves the limit and all other files alone
-/

namespace Semihosting

/-! ### Windows of byte strings -/

namespace Bytes

variable {bytes data : ByteArray} {start count : Nat}

theorem ext_toList {a b : ByteArray} (h : a.data.toList = b.data.toList) : a = b :=
  ByteArray.ext (Array.toList_inj.mp h)

theorem length_toList (bytes : ByteArray) : bytes.data.toList.length = bytes.size := by
  rw [Array.length_toList, ByteArray.size_data]

/-- What was written to the end of a byte string is put behind it. -/
theorem overlay_size : overlay bytes bytes.size data = bytes ++ data := by
  apply ext_toList
  rw [toList_overlay, Nat.sub_self, List.replicate_zero, List.append_nil,
    List.take_of_length_le (Nat.le_of_eq (length_toList bytes)),
    List.drop_of_length_le (by rw [length_toList]; omega), List.append_nil,
    ByteArray.data_append, Array.toList_append]

/-- What was written is found where it was written. -/
theorem window_overlay : window (overlay bytes start data) start data.size = data := by
  apply ext_toList
  -- Whatever was shorter than the start was made up with zeros.
  have before : (bytes.data.toList ++ List.replicate (start - bytes.size) 0).length ≥ start := by
    rw [List.length_append, List.length_replicate, length_toList]
    omega
  rw [toList_window, toList_overlay, List.drop_left' (List.length_take_of_le before),
    List.take_left' (length_toList data)]

theorem window_zero : window bytes start 0 = .empty := by
  apply ext_toList
  rw [toList_window, List.take_zero]
  rfl

theorem window_size : window bytes 0 bytes.size = bytes := by
  apply ext_toList
  rw [toList_window, List.drop_zero, List.take_of_length_le (Nat.le_of_eq (length_toList bytes))]

end Bytes

namespace FileStore

variable {s : FileStore} {file : OpenFile StoredStream} {data : ByteArray} {wanted : Nat}

theorem get?_insert (s : FileStore) (key name : String) (content : ByteArray) :
    (s.insert key content).get? name = if name = key then some content else s.get? name :=
  Table.get?_insert ..

theorem content_insert (s : FileStore) (key name : String) (bytes : ByteArray) :
    (s.insert key bytes).content name = if name = key then bytes else s.content name := by
  rw [content, get?_insert]
  split <;> rfl

/-! ### Reading -/

theorem read_eq (readable : file.stream.mode.readable) :
    FileHost.read s file.stream wanted =
      let data := Bytes.window (s.content file.stream.name) file.stream.position wanted
      (.ok data, { file.stream with position := file.stream.position + data.size }) :=
  if_pos readable

/-- At the end of a file the next request ends the read. -/
theorem fillFrom_of_end {rounds : Nat} {delivered : ByteArray}
    (readable : file.stream.mode.readable) (pos : 0 < wanted)
    (ended : (s.content file.stream.name).size ≤ file.stream.position) :
    OpenFile.fillFrom s (rounds + 1) file wanted delivered =
      { data := delivered, file := { file with eof := true } } := by
  have none : (Bytes.window (s.content file.stream.name) file.stream.position wanted).size = 0 := by
    rw [Bytes.size_window]
    omega
  unfold OpenFile.fillFrom
  rw [if_neg (Nat.ne_of_gt pos), read_eq readable]
  simp only [none, if_pos, Nat.add_zero]

/-- A request that finds something delivers it and leaves the rest to the next ones. -/
theorem fillFrom_of_some {rounds : Nat} (readable : file.stream.mode.readable) (pos : 0 < wanted)
    (left : file.stream.position < (s.content file.stream.name).size) :
    OpenFile.fillFrom s (rounds + 1) file wanted .empty =
      let data := Bytes.window (s.content file.stream.name) file.stream.position wanted
      OpenFile.fillFrom s rounds
        { file with
          stream := { file.stream with position := file.stream.position + data.size } }
        (wanted - data.size) data := by
  have some : (Bytes.window (s.content file.stream.name) file.stream.position wanted).size ≠ 0 := by
    rw [Bytes.size_window]
    omega
  rw [OpenFile.fillFrom, if_neg (Nat.ne_of_gt pos), read_eq readable]
  simp only [if_neg some, ByteArray.empty_append]

/-- Reading delivers the window of the content at the position of the stream, and meets the end of
the file exactly if the window is too short. -/
theorem fill_eq (readable : file.stream.mode.readable) :
    file.fill s wanted =
      let data := Bytes.window (s.content file.stream.name) file.stream.position wanted
      { data
        file :=
          { file with
            stream := { file.stream with position := file.stream.position + data.size }
            eof := file.eof || decide (data.size < wanted) } } := by
  have size : (Bytes.window (s.content file.stream.name) file.stream.position wanted).size =
      min wanted ((s.content file.stream.name).size - file.stream.position) := Bytes.size_window ..
  have unfolded : file.fill s wanted = OpenFile.fillFrom s wanted file wanted .empty := rfl
  rw [unfolded]
  rcases Nat.eq_zero_or_pos wanted with rfl | pos
  · simp [OpenFile.fillFrom_of_done, Bytes.window_zero]
  · -- The first request finds what there is, if there is anything left.
    obtain ⟨rounds, rfl⟩ : ∃ k, wanted = k + 1 := ⟨wanted - 1, by omega⟩
    rcases Nat.lt_or_ge file.stream.position (s.content file.stream.name).size with left | ended
    · rw [fillFrom_of_some readable pos left]
      dsimp only
      rcases Nat.lt_or_ge (Bytes.window (s.content file.stream.name) file.stream.position
        (rounds + 1)).size (rounds + 1) with short | whole
      · -- The window reaches the end of the file, where one more request is made.
        obtain ⟨more, rfl⟩ : ∃ k, rounds = k + 1 := ⟨rounds - 1, by omega⟩
        rw [fillFrom_of_end (by exact readable) (by omega) (by dsimp only; omega)]
        simp only [decide_eq_true short, Bool.or_true]
      · -- The window is as long as was wanted, so no request is left to make.
        have all : rounds + 1 - (Bytes.window (s.content file.stream.name) file.stream.position
            (rounds + 1)).size = 0 := by omega
        rw [all, OpenFile.fillFrom_of_done]
        simp only [decide_eq_false (Nat.not_lt.mpr whole), Bool.or_false]
    · have empty : Bytes.window (s.content file.stream.name) file.stream.position (rounds + 1) =
          .empty := by
        apply Bytes.ext_toList
        rw [Bytes.toList_window, List.drop_of_length_le (by rw [Bytes.length_toList]; exact ended)]
        rfl
      rw [fillFrom_of_end readable pos ended]
      simp [empty]

/-- A stream that may not be read refuses at once, unless nothing is wanted. -/
theorem fill_of_unreadable (unreadable : file.stream.mode.readable = false) (pos : 0 < wanted) :
    file.fill s wanted =
      { data := .empty, file := { file with error := true }
        failure := some (.os .badDescriptor) } := by
  have unfolded : file.fill s wanted = OpenFile.fillFrom s wanted file wanted .empty := rfl
  have refused : FileHost.read s file.stream wanted = (.error (.os .badDescriptor), file.stream) :=
    if_neg (by simp [unreadable])
  obtain ⟨rounds, rfl⟩ : ∃ k, wanted = k + 1 := ⟨wanted - 1, by omega⟩
  rw [unfolded, OpenFile.fillFrom, if_neg (Nat.succ_ne_zero rounds), refused]

/-! ### Writing -/

/-- How many of `count` bytes a stream can write: none if it may not write, else as many as the
limit lets through. -/
def allowance (s : FileStore) (stream : StoredStream) (count : Nat) : Nat :=
  if stream.mode.writable then s.room (s.writeStart stream) count else 0

variable {stream : StoredStream}

theorem allowance_le {count : Nat} :
    s.allowance stream count ≤ count := by
  unfold allowance
  split
  · exact Nat.min_le_left ..
  · exact Nat.zero_le _

theorem allowance_of_writable {count : Nat} (writable : stream.mode.writable) :
    s.allowance stream count = min count (s.limit - s.writeStart stream) :=
  if_pos writable

theorem allowance_of_unwritable {count : Nat} (unwritable : stream.mode.writable = false) :
    s.allowance stream count = 0 :=
  if_neg (by simp [unwritable])

theorem writeStart_of_appends (appends : stream.mode.appends) :
    s.writeStart stream = (s.content stream.name).size :=
  if_pos appends

theorem writeStart_of_direct (direct : stream.mode.appends = false) :
    s.writeStart stream = stream.position :=
  if_neg (by simp [direct])

/-- A stream without an allowance refuses, and tells why. -/
theorem write_of_zero (pos : 0 < data.size) (zero : s.allowance stream data.size = 0) :
    FileHost.write s stream data =
      (.error (.os (if stream.mode.writable then .fileTooLarge else .badDescriptor)), s,
        stream) := by
  have unfolded : FileHost.write s stream data = s.write stream data := rfl
  rw [unfolded, write]
  cases writable : stream.mode.writable with
  | false => rfl
  | true =>
    have full : s.limit ≤ s.writeStart stream := by
      rw [allowance_of_writable writable] at zero
      omega
    rw [if_neg (by simp), if_neg (Nat.ne_of_gt pos), if_pos full]
    rfl

/-- Only a stream that may write has an allowance. -/
theorem writable_of_pos {count : Nat} (pos : 0 < s.allowance stream count) :
    stream.mode.writable := by
  cases writable : stream.mode.writable with
  | true => rfl
  | false =>
    rw [allowance_of_unwritable writable] at pos
    exact absurd pos (Nat.lt_irrefl 0)

/-- A write takes what the stream is allowed. -/
theorem write_of_pos (pos : 0 < s.allowance stream data.size) :
    FileHost.write s stream data =
      (.ok (s.allowance stream data.size),
        s.insert stream.name
          (Bytes.overlay (s.content stream.name) (s.writeStart stream)
            (Bytes.window data 0 (s.allowance stream data.size))),
        { stream with position := s.writeStart stream + s.allowance stream data.size }) := by
  have writable := writable_of_pos pos
  have allowed : s.allowance stream data.size = min data.size (s.limit - s.writeStart stream) :=
    allowance_of_writable writable
  have unfolded : FileHost.write s stream data = s.write stream data := rfl
  rw [unfolded, write, if_neg (by simp [writable]), if_neg (by omega), if_neg (by omega)]
  simp only [change_eq_insert, room, allowed]

/-- Once a write was cut short, the stream may write no more. -/
theorem allowance_of_short {count position : Nat} {bytes : ByteArray}
    (short : s.allowance stream data.size < data.size) (pos : 0 < s.allowance stream data.size)
    (reached : position = s.writeStart stream + s.allowance stream data.size)
    (behind : position ≤ bytes.size) :
    (s.insert stream.name bytes).allowance { stream with position } count = 0 := by
  have writable := writable_of_pos pos
  rw [allowance_of_writable writable] at short pos reached
  have found : (s.insert stream.name bytes).content stream.name = bytes := by
    rw [content_insert, if_pos rfl]
  -- The write has ended at the limit, and so will the next one begin there or behind it.
  have start : s.limit ≤ (s.insert stream.name bytes).writeStart { stream with position } := by
    unfold writeStart
    split
    · dsimp only
      rw [found]
      omega
    · dsimp only
      omega
  rw [allowance_of_writable (by exact writable)]
  dsimp only [insert] at start ⊢
  omega

/-- Writing takes what the stream is allowed, and fails exactly if that is not everything. -/
theorem drain_eq :
    file.drain s data =
      let taken := s.allowance file.stream data.size
      { count := taken
        files :=
          if taken = 0 then s
          else s.insert file.stream.name
            (Bytes.overlay (s.content file.stream.name) (s.writeStart file.stream)
              (Bytes.window data 0 taken))
        file :=
          { stream :=
              if taken = 0 then file.stream
              else { file.stream with position := s.writeStart file.stream + taken }
            eof := file.eof
            error := file.error || decide (taken < data.size) }
        failure :=
          if taken < data.size then
            some (.os (if file.stream.mode.writable then .fileTooLarge else .badDescriptor))
          else none } := by
  have whole : data.extract 0 data.size = data := by simp
  have unfolded : file.drain s data = OpenFile.drainFrom data data.size s file 0 := rfl
  have le : s.allowance file.stream data.size ≤ data.size := allowance_le
  rw [unfolded]
  rcases Nat.eq_zero_or_pos data.size with none | pos
  · have zero : s.allowance file.stream 0 = 0 := Nat.le_zero.mp allowance_le
    rw [none]
    simp [OpenFile.drainFrom, zero]
  · -- There is a request for every byte, and the first one takes all that is allowed.
    obtain ⟨rounds, hrounds⟩ : ∃ k, data.size = k + 1 := ⟨data.size - 1, by omega⟩
    conv => lhs; rw [hrounds]
    rw [OpenFile.drainFrom, if_neg (by omega), whole]
    rcases Nat.eq_zero_or_pos (s.allowance file.stream data.size) with zero | some
    · rw [write_of_zero pos zero]
      simp only [zero, if_pos, pos, decide_true, Bool.or_true]
    · rw [write_of_pos some]
      simp only [if_neg (Nat.ne_of_gt some), Nat.zero_add]
      rcases Nat.eq_or_lt_of_le le with all | short
      · -- Nothing is left to write.
        have done : ¬ s.allowance file.stream data.size < data.size := by omega
        rw [if_neg done, decide_eq_false done, Bool.or_false]
        cases rounds with
        | zero => rfl
        | succ rounds => exact if_pos (Nat.le_of_eq all.symm)
      · -- The next request finds the file full.
        obtain ⟨more, rfl⟩ : ∃ k, rounds = k + 1 := ⟨rounds - 1, by omega⟩
        have spent : (s.insert file.stream.name
            (Bytes.overlay (s.content file.stream.name) (s.writeStart file.stream)
              (Bytes.window data 0 (s.allowance file.stream data.size)))).allowance
            { file.stream with
              position := s.writeStart file.stream + s.allowance file.stream data.size }
            (data.extract (s.allowance file.stream data.size) data.size).size = 0 := by
          refine allowance_of_short short some rfl ?_
          rw [Bytes.size_overlay, Bytes.size_window]
          omega
        rw [OpenFile.drainFrom, if_neg (by omega),
          write_of_zero (by rw [ByteArray.size_extract]; omega) spent]
        simp only [if_pos short, decide_eq_true short, Bool.or_true]

/-! ### What stays -/

section Frame

variable {stream : StoredStream} {name : String} {content : ByteArray}

/-- A write keeps the name of its stream, the limit, and every other file. -/
theorem write_keeps (s : FileStore) (stream : StoredStream) (data : ByteArray) :
    (FileHost.write s stream data).2.2.name = stream.name ∧
      (FileHost.write s stream data).2.1.limit = s.limit ∧
      ∀ name, name ≠ stream.name → (FileHost.write s stream data).2.1.get? name = s.get? name := by
  have unfolded : FileHost.write s stream data = s.write stream data := rfl
  rw [unfolded, write]
  split
  · exact ⟨rfl, rfl, fun _ _ => rfl⟩
  · split
    · exact ⟨rfl, rfl, fun _ _ => rfl⟩
    · split
      · exact ⟨rfl, rfl, fun _ _ => rfl⟩
      · refine ⟨rfl, rfl, fun name other => ?_⟩
        dsimp only
        -- Only the content of the one file has been put in place.
        rw [change_eq_insert, get?_insert, if_neg other]

/-- A whole transfer keeps them as well. -/
theorem drain_keeps (s : FileStore) (file : OpenFile StoredStream) (data : ByteArray) :
    (file.drain s data).files.limit = s.limit ∧
      ∀ name, name ≠ file.stream.name → (file.drain s data).files.get? name = s.get? name := by
  have kept : (file.drain s data).file.stream.name = file.stream.name ∧
      (file.drain s data).files.limit = s.limit ∧
      ∀ name, name ≠ file.stream.name → (file.drain s data).files.get? name = s.get? name := by
    -- Each request keeps them of the stream and the files that it finds.
    refine OpenFile.drain_keeps (P := fun (files : FileStore) (stream : StoredStream) =>
      stream.name = file.stream.name ∧ files.limit = s.limit ∧
        ∀ name, name ≠ file.stream.name → files.get? name = s.get? name)
      (fun files stream data h => ?_) ⟨rfl, rfl, fun _ _ => rfl⟩
    obtain ⟨same, limit, others⟩ := h
    obtain ⟨same', limit', others'⟩ := write_keeps files stream data
    refine ⟨same'.trans same, limit'.trans limit, fun name other => ?_⟩
    rw [others' name (by rw [same]; exact other), others name other]
  exact kept.2

end Frame

/-! ### Streams stay on their files -/

/-- A read keeps the file and the mode of its stream. -/
theorem fill_keeps_mode (s : FileStore) (file : OpenFile StoredStream) (wanted : Nat) :
    (file.fill s wanted).file.stream.name = file.stream.name ∧
      (file.fill s wanted).file.stream.mode = file.stream.mode := by
  refine OpenFile.fill_keeps (P := fun stream : StoredStream =>
    stream.name = file.stream.name ∧ stream.mode = file.stream.mode) (fun stream count same => ?_)
    ⟨rfl, rfl⟩
  have unfolded : FileHost.read s stream count = s.read stream count := rfl
  rw [unfolded, read]
  split <;> exact same

/-- So does a write. -/
theorem drain_keeps_mode (s : FileStore) (file : OpenFile StoredStream) (data : ByteArray) :
    (file.drain s data).file.stream.name = file.stream.name ∧
      (file.drain s data).file.stream.mode = file.stream.mode := by
  rw [drain_eq]
  dsimp only
  split <;> exact ⟨rfl, rfl⟩

/-- So does a stream that moves, or refuses to. -/
theorem seek_keeps_mode (s : FileStore) (stream : StoredStream) (seek : Seek) :
    (FileHost.seek s stream seek).2.name = stream.name ∧
      (FileHost.seek s stream seek).2.mode = stream.mode := by
  have unfolded : FileHost.seek s stream seek = s.seek stream seek := rfl
  rw [unfolded, FileStore.seek]
  split <;> exact ⟨rfl, rfl⟩

/-! ### Opening -/

section Opening

variable {name : String} {mode : OpenMode} {files : FileStore} {stream : StoredStream}

/-- A stream begins at the start of the file that was asked for. Either nothing else has happened,
or the file was emptied as the mode asks, or created. -/
theorem openFile_cases (opened : FileHost.openFile s name mode = .ok (files, stream)) :
    stream = { name, mode } ∧
      (files = s ∨
        files = s.insert name .empty ∧ (mode.truncates = true ∨ s.get? name = none)) := by
  have unfolded : FileHost.openFile s name mode = s.openFile name mode := rfl
  rw [unfolded, openFile] at opened
  split at opened
  · split at opened
    · cases opened
    · cases opened
      refine ⟨rfl, ?_⟩
      split
      · next truncates => exact Or.inr ⟨rfl, Or.inl truncates⟩
      · exact Or.inl rfl
  · next missing =>
    split at opened
    · cases opened
      exact ⟨rfl, Or.inr ⟨rfl, Or.inr missing⟩⟩
    · cases opened

/-- Opening a file keeps the limit, and the content of every file that it does not empty. -/
theorem openFile_keeps (opened : FileHost.openFile s name mode = .ok (files, stream)) :
    files.limit = s.limit ∧ ∀ other content, s.get? other = some content →
      (other = name → mode.truncates = false) → files.get? other = some content := by
  rcases (openFile_cases opened).2 with rfl | ⟨rfl, cleared⟩
  · exact ⟨rfl, fun other content stored _ => stored⟩
  · refine ⟨rfl, fun other content stored spared => ?_⟩
    rw [get?_insert, if_neg]
    · exact stored
    · rintro rfl
      rcases cleared with truncates | missing
      · simp [spared rfl] at truncates
      · rw [missing] at stored
        cases stored

/-- Opening a file changes no content but that of a file that it empties; one that it creates has
none. -/
theorem content_of_openFile (opened : FileHost.openFile s name mode = .ok (files, stream))
    {other : String} (spared : other = name → mode.truncates = false) :
    files.content other = s.content other := by
  rcases (openFile_cases opened).2 with rfl | ⟨rfl, cleared⟩
  · rfl
  · rw [content_insert]
    split
    · next same =>
      rcases cleared with truncates | missing
      · simp [spared same] at truncates
      · rw [same, content, missing, Option.getD_none]
    · rfl

end Opening

/-- A file that is opened for writing is there and empty. -/
theorem openFile_write (s : FileStore) (name : String) :
    FileHost.openFile s name { purpose := .write } =
      .ok (s.insert name .empty, { name, mode := { purpose := .write } }) := by
  have unfolded : FileHost.openFile s name { purpose := .write } =
    s.openFile name { purpose := .write } := rfl
  rw [unfolded, openFile]
  split <;> rfl

/-- A file that is opened for reading stays as it is. -/
theorem openFile_read {name : String} {content : ByteArray} (stored : s.get? name = some content) :
    FileHost.openFile s name { purpose := .read } =
      .ok (s, { name, mode := { purpose := .read } }) := by
  have unfolded : FileHost.openFile s name { purpose := .read } =
    s.openFile name { purpose := .read } := rfl
  rw [unfolded, openFile, stored]
  rfl

/-- A file that is not there cannot be opened for reading. -/
theorem openFile_read_of_none {name : String} (missing : s.get? name = none) :
    FileHost.openFile s name { purpose := .read } = .error (.notFound name) := by
  have unfolded : FileHost.openFile s name { purpose := .read } =
    s.openFile name { purpose := .read } := rfl
  rw [unfolded, openFile, missing]
  rfl

end FileStore

end Semihosting
