import Semihosting.Proofs.CatProgram
import Semihosting.Proofs.CopyRehearsed
import Semihosting.Proofs.MemoryContents

/-!
# Enough rounds

The two programs that move data allow themselves one round more than there can be pieces of data.
That is enough: if more rounds are allowed, they do the same. Each round of a copy uses up bytes of
a stored source, or cues of a scripted one, and each round of the cat program uses up input. So
neither loop is ever left because its rounds have run out.

## Main definitions

* `Relay.Terminates` — a copy comes to its end within the volume of its files

## Main results

* `Relay.terminates_of_stored`, `Relay.terminates_of_rehearsed` — a copy between the streams that
  two names open, in a store and in a rehearsal
* `Guest.Has.copyChunks_of_stored`, `Guest.Has.copyChunks_of_rehearsed` — the rounds that the copy
  program allows itself there are enough
* `Guest.Has.catChunks_of_supply` — so are those of the cat program, on any host
-/

namespace Semihosting

open Program (chunk)

/-! ### What is left of a stored file -/

namespace FileStore

variable {s s' : FileStore} {file : OpenFile StoredStream}

/-- How much is left to read from a stream. -/
def unread (s : FileStore) (stream : StoredStream) : Nat :=
  (s.content stream.name).size - stream.position

/-- What a read delivers is left no longer. -/
theorem size_fill_add_unread {wanted : Nat} (some : (file.fill s wanted).data.size ≠ 0) :
    (file.fill s wanted).data.size + s.unread (file.fill s wanted).file.stream =
      s.unread file.stream := by
  have pos : 0 < wanted :=
    Nat.lt_of_lt_of_le (Nat.pos_of_ne_zero some) (OpenFile.size_fill_le s file wanted)
  have readable : file.stream.mode.readable := by
    cases readable : file.stream.mode.readable with
    | true => rfl
    | false =>
      rw [fill_of_unreadable readable pos] at some
      exact absurd rfl some
  rw [fill_eq readable]
  dsimp only [unread]
  rw [Bytes.size_window]
  omega

/-- Where nothing is left, nothing is delivered. -/
theorem size_fill_of_unread {wanted : Nat} (none : s.unread file.stream = 0) :
    (file.fill s wanted).data.size = 0 := by
  by_contra some
  have all := size_fill_add_unread some
  omega

/-- Nothing is left of a file that was emptied. -/
theorem unread_insert_empty (s : FileStore) (stream : StoredStream) :
    (s.insert stream.name .empty).unread stream = 0 := by
  rw [unread, content_insert, if_pos rfl]
  exact Nat.zero_sub _

/-- As far as a stream is concerned, its own file is all that matters. -/
theorem unread_congr {stream : StoredStream} (same : s'.get? stream.name = s.get? stream.name) :
    s'.unread stream = s.unread stream := by
  rw [unread, unread, content, content, same]

theorem unread_le_volume (s : FileStore) (stream : StoredStream) :
    s.unread stream ≤ FileHost.volume s := by
  refine Nat.le_trans (Nat.sub_le ..) ?_
  rw [content]
  cases stored : s.get? stream.name with
  | none => exact Nat.zero_le _
  | some content => exact size_le_volume stored

end FileStore

/-! ### Rehearsals -/

namespace Rehearsal

variable {r r' : Rehearsal} {name : String} {mode : OpenMode} {stream : RehearsedStream}

/-- A name opens a script from its start, or a stream on the file that is stored under it. -/
theorem openFile_cases (opened : FileHost.openFile r name mode = .ok (r', stream)) :
    (∃ script, r.scripts.get? name = some script ∧ r' = r ∧ stream = .scripted script) ∨
      r.scripts.get? name = none ∧ ∃ store stored,
        FileHost.openFile r.store name mode = .ok (store, stored) ∧
        r' = { r with store } ∧ stream = .stored stored := by
  have unfolded : FileHost.openFile r name mode = r.openFile name mode := rfl
  rw [unfolded, openFile] at opened
  split at opened
  · cases opened
  · split at opened
    · next script found =>
      cases opened
      exact Or.inl ⟨script, found, rfl, rfl⟩
    · next missing =>
      cases result : r.store.openFile name mode with
      | error reason =>
        rw [result] at opened
        cases opened
      | ok found =>
        rw [result] at opened
        cases opened
        exact Or.inr ⟨missing, found.1, found.2, result, rfl, rfl⟩

/-- The stored bytes count towards the volume. -/
theorem volume_store_le (r : Rehearsal) : FileHost.volume r.store ≤ FileHost.volume r :=
  Table.le_foldr r.scripts (fun entry => entry.2.reads.length) _

end Rehearsal

/-- The stream is on no file of this name. -/
def RehearsedStream.Spares (stream : RehearsedStream) (name : String) : Prop :=
  ∀ stored, stream = .stored stored → name ≠ stored.name

/-- A write leaves every other file alone. -/
theorem OpenFile.drain_spares {r : Rehearsal} {file : OpenFile RehearsedStream} {name : String}
    (spares : file.stream.Spares name) (data : ByteArray) :
    (file.drain r data).files.store.get? name = r.store.get? name ∧
      (file.drain r data).file.stream.Spares name := by
  refine OpenFile.drain_keeps (P := fun (files : Rehearsal) (stream : RehearsedStream) =>
    files.store.get? name = r.store.get? name ∧ stream.Spares name)
    (fun files stream data kept => ?_) ⟨rfl, spares⟩
  obtain ⟨same, spares⟩ := kept
  cases stream with
  | scripted script => exact ⟨same, nofun⟩
  | stored stream =>
    obtain ⟨name_eq, -, others⟩ := FileStore.write_keeps files.store stream data
    refine ⟨(others name (spares stream rfl)).trans same, ?_⟩
    rintro _ ⟨⟩
    exact fun same => spares stream rfl (same.trans name_eq)

/-! ### Rounds between two streams -/

namespace Relay

/-- A copy comes to its end, and no more rounds of it read something than the files have volume. -/
def Terminates {σ ς : Type} [FileHost σ ς] (r : Relay σ ς) : Prop :=
  ∃ chunks log ending r', r.Runs chunks log ending r' ∧ chunks.length ≤ FileHost.volume r.files

/-- A copy that finds nothing to read is over at once. -/
theorem Terminates.of_dry {σ ς : Type} [FileHost σ ς] {r : Relay σ ς}
    (none : r.filled.data.size = 0) : r.Terminates :=
  ⟨_, _, _, _, .dry none, Nat.zero_le _⟩

section Stored

variable {s s₁ s₂ : FileStore} {input output : StoredStream} {a b : String}

/-- Every round between two stored files uses up bytes of the first one. -/
theorem terminates_of_apart {r : Relay FileStore StoredStream}
    (apart : r.input.stream.name ≠ r.output.stream.name) : r.Terminates := by
  have runs : ∃ chunks log ending r',
      r.Runs chunks log ending r' ∧ chunks.length ≤ r.files.unread r.input.stream := by
    refine exists_runs_of_left (P := fun n (r : Relay FileStore StoredStream) =>
      r.input.stream.name ≠ r.output.stream.name ∧ r.files.unread r.input.stream = n)
      (fun {n r} left some => ?_) ⟨apart, rfl⟩
    obtain ⟨apart, rfl⟩ := left
    have same : r.filled.file.stream.name = r.input.stream.name := (FileStore.fill_keeps_mode ..).1
    have same' : r.drained.file.stream.name = r.output.stream.name :=
      (FileStore.drain_keeps_mode ..).1
    rw [← same] at apart
    have kept : r.next.files.unread r.next.input.stream = r.files.unread r.filled.file.stream :=
      FileStore.unread_congr ((FileStore.drain_keeps ..).2 _ apart)
    have less : r.filled.data.size + r.files.unread r.filled.file.stream =
      r.files.unread r.input.stream := FileStore.size_fill_add_unread some
    refine ⟨_, ?_, show r.filled.file.stream.name ≠ r.drained.file.stream.name from ?_, rfl⟩
    · rw [kept]
      omega
    · rw [same']
      exact apart
  obtain ⟨chunks, log, ending, r', runs, few⟩ := runs
  exact ⟨chunks, log, ending, r', runs, Nat.le_trans few (FileStore.unread_le_volume ..)⟩

/-- A copy between two files of a store comes to its end, also if both are the same file. -/
theorem terminates_of_stored
    (opened : FileHost.openFile s a { purpose := .read } = .ok (s₁, input))
    (opened' : FileHost.openFile s₁ b { purpose := .write } = .ok (s₂, output)) :
    Terminates ⟨s₂, { stream := input }, { stream := output }⟩ := by
  obtain ⟨rfl, -⟩ := FileStore.openFile_cases opened
  rw [FileStore.openFile_write] at opened'
  cases opened'
  by_cases same : a = b
  · -- The file was emptied when it was opened for writing.
    subst same
    exact .of_dry (FileStore.size_fill_of_unread
      (FileStore.unread_insert_empty s₁ { name := a, mode := { purpose := .read } }))
  · exact terminates_of_apart same

end Stored

section Rehearsed

variable {s s₁ s₂ : Rehearsal} {input output : RehearsedStream} {a b : String}

/-- Every round from a script uses up cues. -/
theorem terminates_of_scripted {r : Relay Rehearsal RehearsedStream} {script : Script}
    (playing : r.input.stream = .scripted script)
    (scripted : r.files.scripts.get? a = some script) : r.Terminates := by
  obtain ⟨chunks, log, ending, r', runs, few⟩ := exists_runs_scripted playing
  exact ⟨chunks, log, ending, r', runs,
    Nat.le_trans few (Rehearsal.length_reads_le_volume scripted)⟩

/-- Every round from a stored file to another stream uses up bytes of the file. -/
theorem terminates_of_spares {r : Relay Rehearsal RehearsedStream} {file : OpenFile StoredStream}
    (staged : r.input = file.staged) (spares : r.output.stream.Spares file.stream.name) :
    r.Terminates := by
  have runs : ∃ chunks log ending r',
      r.Runs chunks log ending r' ∧ chunks.length ≤ r.files.store.unread file.stream := by
    refine exists_runs_of_left (P := fun n (r : Relay Rehearsal RehearsedStream) =>
      ∃ file : OpenFile StoredStream, r.input = file.staged ∧
        r.output.stream.Spares file.stream.name ∧ r.files.store.unread file.stream = n)
      (fun {n r} left some => ?_) ⟨file, staged, spares, rfl⟩
    obtain ⟨file, staged, spares, rfl⟩ := left
    have filled : r.filled = _ := (congrArg (·.fill r.files chunk.toNat) staged).trans
      (OpenFile.fill_staged r.files file chunk.toNat)
    rw [filled] at some
    have less := FileStore.size_fill_add_unread some
    have same : (file.fill r.files.store chunk.toNat).file.stream.name = file.stream.name :=
      (FileStore.fill_keeps_mode ..).1
    rw [← same] at spares
    obtain ⟨kept, spares⟩ := OpenFile.drain_spares (r := r.files) spares r.filled.data
    refine ⟨_, ?_, _, congrArg Filled.file filled, spares, rfl⟩
    rw [show r.next.files.store.unread _ = _ from FileStore.unread_congr kept]
    dsimp only at some
    omega
  obtain ⟨chunks, log, ending, r', runs, few⟩ := runs
  exact ⟨chunks, log, ending, r', runs, Nat.le_trans few
    (Nat.le_trans (FileStore.unread_le_volume ..) (Rehearsal.volume_store_le _))⟩

/-- A copy in a rehearsal comes to its end, whether its streams are scripted or stored. -/
theorem terminates_of_rehearsed
    (opened : FileHost.openFile s a { purpose := .read } = .ok (s₁, input))
    (opened' : FileHost.openFile s₁ b { purpose := .write } = .ok (s₂, output)) :
    Terminates ⟨s₂, { stream := input }, { stream := output }⟩ := by
  rcases Rehearsal.openFile_cases opened with
    ⟨script, scripted, rfl, rfl⟩ | ⟨-, store, stored, read, rfl, rfl⟩
  · -- Opening the second stream has changed no script.
    have scripts : s₂.scripts = s₁.scripts := by
      rcases Rehearsal.openFile_cases opened' with ⟨_, _, rfl, -⟩ | ⟨-, _, _, -, rfl, -⟩ <;> rfl
    rw [← scripts] at scripted
    exact terminates_of_scripted rfl scripted
  · obtain ⟨rfl, -⟩ := FileStore.openFile_cases read
    rcases Rehearsal.openFile_cases opened' with
      ⟨script, -, rfl, rfl⟩ | ⟨-, store', stored', written, rfl, rfl⟩
    · exact terminates_of_spares
        (show _ = OpenFile.staged { stream := { name := a, mode := { purpose := .read } } }
          from rfl) nofun
    · rw [FileStore.openFile_write] at written
      cases written
      by_cases same : a = b
      · subst same
        refine .of_dry ((congrArg (·.data.size) (OpenFile.fill_staged _
          { stream := { name := a, mode := { purpose := .read } } } _)).trans ?_)
        exact FileStore.size_fill_of_unread (FileStore.unread_insert_empty store
          { name := a, mode := { purpose := .read } })
      · refine terminates_of_spares
          (show _ = OpenFile.staged { stream := { name := a, mode := { purpose := .read } } }
            from rfl) ?_
        rintro _ ⟨⟩
        exact same

end Rehearsed

end Relay

/-! ### The two programs -/

namespace Guest

section Copy

variable {source target a b : String} {buffer handle handle' : Word} {rounds : Nat}

/-- If a copy comes to its end, the rounds that the program allows itself are enough. -/
theorem Has.copyChunks_of_terminates {σ ς : Type} [FileHost σ ς] {g : Guest σ ς} {v : View σ ς}
    {r : Relay σ ς} (has : g.Has v) (copies : Copies v r buffer handle handle' source target)
    (ends : r.Terminates) (more : g.supply < rounds) :
    Program.copyChunks source target buffer handle handle' rounds g =
      Program.copyChunks source target buffer handle handle' (g.supply + 1) g := by
  obtain ⟨chunks, log, ending, r', runs, few⟩ := ends
  have volume : FileHost.volume r.files ≤ g.supply := by
    rw [supply, has.host, copies.files]
    exact Nat.le_add_right _ _
  exact has.copyChunks_eq runs copies (by omega) (by omega)

/-- On a store, the rounds of a copy are enough, whichever two names it has opened. -/
theorem Has.copyChunks_of_stored {g : Guest FileStore StoredStream}
    {v : View FileStore StoredStream} {s s₁ s₂ : FileStore} {input output : StoredStream}
    (has : g.Has v)
    (opened : FileHost.openFile s a { purpose := .read } = .ok (s₁, input))
    (opened' : FileHost.openFile s₁ b { purpose := .write } = .ok (s₂, output))
    (copies : Copies v ⟨s₂, { stream := input }, { stream := output }⟩ buffer handle handle' source
      target) (more : g.supply < rounds) :
    Program.copyChunks source target buffer handle handle' rounds g =
      Program.copyChunks source target buffer handle handle' (g.supply + 1) g :=
  has.copyChunks_of_terminates copies (Relay.terminates_of_stored opened opened') more

/-- In a rehearsal they are enough as well, whatever the scripts. -/
theorem Has.copyChunks_of_rehearsed {g : Guest Rehearsal RehearsedStream}
    {v : View Rehearsal RehearsedStream} {s s₁ s₂ : Rehearsal} {input output : RehearsedStream}
    (has : g.Has v)
    (opened : FileHost.openFile s a { purpose := .read } = .ok (s₁, input))
    (opened' : FileHost.openFile s₁ b { purpose := .write } = .ok (s₂, output))
    (copies : Copies v ⟨s₂, { stream := input }, { stream := output }⟩ buffer handle handle' source
      target) (more : g.supply < rounds) :
    Program.copyChunks source target buffer handle handle' rounds g =
      Program.copyChunks source target buffer handle handle' (g.supply + 1) g :=
  has.copyChunks_of_terminates copies (Relay.terminates_of_rehearsed opened opened') more

end Copy

section Cat

variable {σ ς : Type} [FileHost σ ς] {g : Guest σ ς} {v : View σ ς} {buffer length : Word}

/-- As many bytes as a buffer holds can be written from it, whatever they are. -/
theorem Has.writeBuffer (has : g.Has v) {count : Nat} (le : count ≤ chunk.toNat)
    (held : v.memory.Holds buffer chunk.toNat) :
    ∃ g' x c host, Performs (call .write [1, buffer, UInt64.ofNat count]) g [x]
        (.ok (UInt64.ofNat count)) g' ∧
      g'.Has { v with console := c, host, served := v.served + 1 } := by
  rw [Memory.Holds] at held
  have room : v.memory.Holds buffer (UInt64.ofNat count).toNat := by
    rw [toNat_ofNat_of_le_size (m := v.memory) (by omega), Memory.Holds]
    omega
  obtain ⟨data, found, size, -⟩ := Memory.exists_load_eq_ok room
  have back : UInt64.ofNat data.size = UInt64.ofNat count := by rw [size, UInt64.ofNat_toNat]
  rw [← back] at found
  obtain ⟨g', x, written, -, -, has'⟩ := has.call_write found
  rw [back] at written
  exact ⟨g', x, _, _, written, has'⟩

/-- A round of the cat program is its last one, or it leads to the next one with less input left.
-/
theorem Has.catChunks_succ (has : g.Has v) (held : v.memory.Holds buffer chunk.toNat)
    (held' : v.memory.Holds length 8) :
    (∃ result, ∀ rounds, Program.catChunks buffer length (rounds + 1) g = result) ∨
      ∃ g' v', (∀ rounds, Program.catChunks buffer length (rounds + 1) g =
          Program.catChunks buffer length rounds g') ∧
        g'.Has v' ∧ v'.memory.size = v.memory.size ∧ v'.feed.left < v.feed.left := by
  obtain ⟨g₁, m₁, stated, stored, has₁⟩ := has.storeWord held' chunk
  have size₁ := Memory.size_of_store stored
  have asked : m₁.loadWord length = .ok chunk := Memory.loadWord_of_storeWord stored
  cases given : v.feed.content with
  | none =>
    have missing : v.feed.deliver buffer length m₁ v.host =
        { outcome := .ok (-1), handler := v.feed, memory := m₁, host := v.host
          events := [.inputMissing] } := by
      rw [InputFeed.deliver, given]
    obtain ⟨g₂, x, answered, -⟩ := has₁.call_readStream missing rfl
    exact Or.inl ⟨_, fun rounds => (bind_of_ok stated.eq).trans (bind_of_ok answered.eq)⟩
  | some content =>
    have held₁ : m₁.Holds buffer chunk.toNat := by
      rw [Memory.Holds, size₁]
      exact held
    rcases has₁.readStream_cases given asked held₁ with
      ⟨-, g₂, x, m₂, answered, -⟩ | ⟨more, g₂, x, filled, m₂, answered, piece_eq, told, has₂⟩
    · exact Or.inl ⟨_, fun rounds => (bind_of_ok stated.eq).trans (bind_of_ok answered.eq)⟩
    · dsimp only at more piece_eq told has₂
      have size₂ : m₂.size = v.memory.size := by
        rw [Memory.size_of_store told, Memory.size_of_store piece_eq, size₁]
      have held₂ : m₂.Holds buffer chunk.toNat := by
        rw [Memory.Holds, size₂]
        exact held
      obtain ⟨g₃, y, c, host, written, has₃⟩ :=
        has₂.writeBuffer (size_piece_le content v.feed.offset) held₂
      have loaded := has₂.loadWord (Memory.loadWord_of_storeWord told)
      refine Or.inr ⟨g₃, _, fun rounds => ?_, has₃, size₂, ?_⟩
      · exact (bind_of_ok stated.eq).trans ((bind_of_ok answered.eq).trans
          ((bind_of_ok loaded.eq).trans (bind_of_ok written.discard.eq)))
      · have chunk_eq : chunk.toNat = 4096 := rfl
        simp only [InputFeed.left, given, size_piece]
        omega

/-- A round more than there is input is enough for the cat program. -/
theorem Has.catChunks_eq (has : g.Has v) (held : v.memory.Holds buffer chunk.toNat)
    (held' : v.memory.Holds length 8) {rounds rounds' : Nat} (more : v.feed.left < rounds)
    (more' : v.feed.left < rounds') :
    Program.catChunks buffer length rounds g = Program.catChunks buffer length rounds' g := by
  induction rounds generalizing g v rounds' with
  | zero => omega
  | succ rounds ih =>
    obtain ⟨rounds', rfl⟩ : ∃ k, rounds' = k + 1 := ⟨rounds' - 1, by omega⟩
    rcases has.catChunks_succ held held' with ⟨result, last⟩ | ⟨g', v', next, has', size, fewer⟩
    · rw [last, last]
    · rw [Memory.Holds, ← size] at held held'
      rw [next, next]
      exact ih has' held held' (by omega) (by omega)

/-- The rounds that the cat program allows itself are enough, on any host and with any input. -/
theorem Has.catChunks_of_supply (has : g.Has v) (held : v.memory.Holds buffer chunk.toNat)
    (held' : v.memory.Holds length 8) {rounds : Nat} (more : g.supply < rounds) :
    Program.catChunks buffer length rounds g =
      Program.catChunks buffer length (g.supply + 1) g := by
  have supply : v.feed.left ≤ g.supply :=
    Nat.le_trans has.left_le_supply (Nat.le_add_left _ _)
  exact has.catChunks_eq held held' (by omega) (by omega)

end Cat

end Guest

end Semihosting
