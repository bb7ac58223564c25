import Semihosting.Proofs.ConsoleOutput
import Semihosting.Proofs.Faults
import Semihosting.Proofs.GuestHeap
import Semihosting.Proofs.InputDelivery

/-!
# Printing the input

The cat program asks for a chunk of the input, writes it to standard output, and goes on until it is
told that there is no more. Between two rounds, the console shows what the feed has delivered. Every
chunk but the last is as large as the buffer, and none is empty, so the number of calls follows from
the size of the input.

## Main definitions

* `Program.chunks` — how many chunks there are in so many bytes
* `Guest.Midway` — where the program is between two rounds
* `Guest.Echoes` — an action that ends well and leaves the given bytes on the console

## Main results

* `Guest.Has.readStream_cases` — the guest is told that nothing is left or is given a chunk
* `Guest.Has.catChunks` — the rounds of the program
* `Guest.Has.runCat` — the whole program
-/

namespace Semihosting

open Program (chunk)

/-- A delivery does not fault if the room that the guest states is there. -/
theorem InputFeed.deliver_ne_error {σ : Type} {f : InputFeed} {buffer length capacity : Word}
    {memory : Memory} {host : Host σ} (asked : memory.loadWord length = .ok capacity)
    (held : memory.Holds buffer capacity.toNat) (fault : Fault) :
    (f.deliver buffer length memory host).outcome ≠ .error fault := by
  intro error
  obtain ⟨inside, rfl⟩ := Memory.loadWord_eq_ok_iff.mp asked
  rcases outside_of_deliver_error error with ⟨-, outside, -⟩ | ⟨-, -, outside, -⟩
  · exact outside inside
  · exact outside (Nat.le_trans (Nat.add_le_add_left (Nat.min_le_right _ _) _) held)

/-- How many chunks there are in so many bytes. -/
def Program.chunks (count : Nat) : Nat := (count + 4095) / 4096

namespace Guest

variable {σ ς : Type} [FileHost σ ς] {g : Guest σ ς} {v : View σ ς}
variable {before : Array String} {content : ByteArray} {buffer length : Word} {offset : Nat}

/-! ### Between two rounds -/

/-- Between two rounds, the console shows what the feed has delivered. The guest has a buffer for a
chunk and, elsewhere, a word for its length. -/
structure Midway (v : View σ ς) (before : Array String) (content : ByteArray)
    (buffer length : Word) (offset : Nat) : Prop where
  buffer_held : v.memory.Holds buffer chunk.toNat
  length_held : v.memory.Holds length 8
  apart : Memory.Disjoint buffer chunk.toNat length 8
  feed : v.feed = { content := some content, offset }
  shows : Console.Shows before v.host.printed (content.data.toList.take offset) v.console

/-- The chunk behind an offset. -/
def piece (content : ByteArray) (offset : Nat) : ByteArray :=
  Bytes.window content offset (min (content.size - offset) chunk.toNat)

theorem size_piece (content : ByteArray) (offset : Nat) :
    (piece content offset).size = min (content.size - offset) chunk.toNat := by
  rw [piece, Bytes.size_window]
  exact Nat.min_eq_left (Nat.min_le_left _ _)

theorem size_piece_le (content : ByteArray) (offset : Nat) :
    (piece content offset).size ≤ chunk.toNat := by
  rw [size_piece]
  exact Nat.min_le_right _ _

/-- A chunk fewer. -/
theorem chunks_of_more (more : offset < content.size) :
    Program.chunks (content.size - offset) =
      Program.chunks (content.size - (offset + (piece content offset).size)) + 1 := by
  have chunk_eq : chunk.toNat = 4096 := rfl
  rw [Program.chunks, Program.chunks, size_piece]
  omega

/-- Before it asks, the guest states the size of its buffer. -/
theorem Has.stateRoom (has : g.Has v) (midway : Midway v before content buffer length offset) :
    ∃ g' m, Performs (Guest.storeWord length chunk) g [] (.ok ()) g' ∧
      m.size = v.memory.size ∧ m.loadWord length = .ok chunk ∧
      g'.Has { v with memory := m } := by
  obtain ⟨g', m, performs, stored, has'⟩ := has.storeWord midway.length_held chunk
  exact ⟨g', m, performs, Memory.size_of_store stored, Memory.loadWord_of_storeWord stored, has'⟩

/-- A guest that states the size of its buffer is told that nothing is left, or is given the next
chunk with its length. -/
theorem Has.readStream_cases (has : g.Has v) (given : v.feed.content = some content)
    (asked : v.memory.loadWord length = .ok chunk) (held : v.memory.Holds buffer chunk.toNat) :
    (content.size ≤ v.feed.offset ∧
      ∃ g' x m, Performs (call .readStream [buffer, length]) g [x] (.ok 1) g' ∧
        g'.Has { v with memory := m, served := v.served + 1 }) ∨
    (v.feed.offset < content.size ∧
      ∃ g' x filled m, Performs (call .readStream [buffer, length]) g [x] (.ok 0) g' ∧
        v.memory.store buffer (piece content v.feed.offset) = .ok filled ∧
        filled.storeWord length (UInt64.ofNat (piece content v.feed.offset).size) = .ok m ∧
        g'.Has { v with
          memory := m
          feed := { v.feed with offset := v.feed.offset + (piece content v.feed.offset).size }
          served := v.served + 1 }) := by
  rcases InputFeed.deliver_cases given buffer length v.memory v.host with
    ⟨fault, refused⟩ | ⟨all, left, -, idle⟩ |
      ⟨more, capacity, filled, left, count, read, count_eq, stored, told, delivered⟩
  · exact absurd (congrArg Answer.outcome refused) (InputFeed.deliver_ne_error asked held fault)
  · obtain ⟨g', x, performs, has'⟩ := has.call_readStream idle rfl
    exact Or.inl ⟨all, g', x, left, performs, has'⟩
  · obtain rfl : chunk = capacity := Except.ok.inj (asked.symm.trans read)
    rw [← size_piece] at count_eq
    subst count_eq
    obtain ⟨g', x, performs, has'⟩ := has.call_readStream delivered rfl
    refine Or.inr ⟨more, g', x, filled, left, performs, ?_, told, has'⟩
    rw [piece, ← size_piece]
    exact stored

/-- While there is more input, the guest is given the next chunk. -/
theorem Has.takeChunk (has : g.Has v) (midway : Midway v before content buffer length offset)
    (asked : v.memory.loadWord length = .ok chunk) (more : offset < content.size) :
    ∃ g' x m, Performs (call .readStream [buffer, length]) g [x] (.ok 0) g' ∧
      m.size = v.memory.size ∧
      m.loadWord length = .ok (UInt64.ofNat (piece content offset).size) ∧
      m.load buffer (UInt64.ofNat (piece content offset).size) = .ok (piece content offset) ∧
      g'.Has { v with
        memory := m
        feed := { content := some content, offset := offset + (piece content offset).size }
        served := v.served + 1 } := by
  have given : v.feed.content = some content := by rw [midway.feed]
  have start : v.feed.offset = offset := by rw [midway.feed]
  rcases has.readStream_cases given asked midway.buffer_held with
    ⟨all, -⟩ | ⟨-, g', x, filled, m, performs, stored, told, has'⟩
  · omega
  · rw [start] at stored told has'
    refine ⟨g', x, m, performs, ?_, Memory.loadWord_of_storeWord told, ?_, ?_⟩
    · rw [Memory.size_of_store told, Memory.size_of_store stored]
    · -- The length is stored apart from the chunk and leaves it alone.
      have loaded := Memory.load_of_store stored
      rw [← loaded]
      refine Memory.AgreesOn.load_eq (.of_store told fun i from_le lt => ?_)
      have small : (UInt64.ofNat (piece content offset).size).toNat = (piece content offset).size :=
        toNat_ofNat_of_le_size (m := v.memory)
          (Nat.le_trans (size_piece_le ..) (Nat.le_trans (Nat.le_add_left ..) midway.buffer_held))
      rw [small] at lt
      exact midway.apart i from_le
        (Nat.lt_of_lt_of_le lt (Nat.add_le_add_left (size_piece_le ..) _))
    · rw [midway.feed] at has'
      exact has'

/-- At the end of the input, the guest is told so. -/
theorem Has.findEnd (has : g.Has v) (midway : Midway v before content buffer length offset)
    (asked : v.memory.loadWord length = .ok chunk) (all : content.size ≤ offset) :
    ∃ g' x m, Performs (call .readStream [buffer, length]) g [x] (.ok 1) g' ∧
      g'.Has { v with memory := m, served := v.served + 1 } := by
  have given : v.feed.content = some content := by rw [midway.feed]
  have start : v.feed.offset = offset := by rw [midway.feed]
  rcases has.readStream_cases given asked midway.buffer_held with ⟨-, ended⟩ | ⟨more, -⟩
  · exact ended
  · omega

/-! ### Rounds -/

/-- The action ends with code zero after so many calls and changes no file. The console then shows
the given bytes. -/
def Echoes (act : Action σ ς Nat) (g : Guest σ ς) (v : View σ ς) (before : Array String)
    (bytes : List UInt8) (calls : Nat) : Prop :=
  ∃ g' turns v', Performs act g turns (.ok 0) g' ∧ turns.length = calls ∧ g'.Has v' ∧
    v'.served = v.served + calls ∧ v'.host.files = v.host.files ∧
    Console.Shows before v'.host.printed bytes v'.console

omit [FileHost σ ς] in
/-- Once a chunk is taken and written, the next one is due. -/
theorem Midway.next (midway : Midway v before content buffer length offset) {m : Memory}
    (size : m.size = v.memory.size) (served : Nat) :
    Midway { v with
      memory := m
      feed := { content := some content, offset := offset + (piece content offset).size }
      console := (v.console.feed (piece content offset)).2
      host := v.host.print (v.console.feed (piece content offset)).1
      served } before content buffer length (offset + (piece content offset).size) where
  buffer_held := by
    rw [Memory.Holds, size]
    exact midway.buffer_held
  length_held := by
    rw [Memory.Holds, size]
    exact midway.length_held
  apart := midway.apart
  feed := rfl
  shows := by
    have bytes : (content.data.toList.drop offset).take (piece content offset).size =
        (piece content offset).data.toList := by
      rw [size_piece, piece, Bytes.toList_window]
    rw [List.take_add, bytes]
    exact midway.shows.feed _

omit [FileHost σ ς] in
/-- Stating the room changes nothing that matters. -/
theorem Midway.stated (midway : Midway v before content buffer length offset) {m : Memory}
    (size : m.size = v.memory.size) :
    Midway { v with memory := m } before content buffer length offset := by
  obtain ⟨buffer_held, length_held, apart, feed, shows⟩ := midway
  rw [Memory.Holds, ← size] at buffer_held length_held
  exact ⟨buffer_held, length_held, apart, feed, shows⟩

/-- The last round. -/
theorem Has.catChunks_of_used_up (has : g.Has v)
    (midway : Midway v before content buffer length offset) (all : content.size ≤ offset)
    (rounds : Nat) :
    Echoes (Program.catChunks buffer length (rounds + 1)) g v before content.data.toList 1 := by
  obtain ⟨g₁, m₁, stated, size, asked, has₁⟩ := has.stateRoom midway
  obtain ⟨g₂, x, m₂, ended, has₂⟩ := has₁.findEnd (midway.stated size) asked all
  have shown : content.data.toList.take offset = content.data.toList :=
    List.take_of_length_le (by rw [Bytes.length_toList]; exact all)
  have shows := midway.shows
  rw [shown] at shows
  have round : Performs (Program.catChunks buffer length (rounds + 1)) g ([] ++ ([x] ++ []))
      (.ok 0) g₂ := stated.bind (ended.bind (.pure 0 g₂))
  exact ⟨g₂, _, _, round, rfl, has₂, rfl, rfl, shows⟩

/-- Every other round. -/
theorem Has.catChunks_of_more (has : g.Has v)
    (midway : Midway v before content buffer length offset) (more : offset < content.size)
    {rounds calls : Nat}
    (rest : ∀ {g' : Guest σ ς} {v' : View σ ς}, g'.Has v' →
      Midway v' before content buffer length (offset + (piece content offset).size) →
      Echoes (Program.catChunks buffer length rounds) g' v' before content.data.toList calls) :
    Echoes (Program.catChunks buffer length (rounds + 1)) g v before content.data.toList
      (calls + 2) := by
  obtain ⟨g₁, m₁, stated, size₁, asked, has₁⟩ := has.stateRoom midway
  obtain ⟨g₂, x, m₂, taken, size₂, told, found, has₂⟩ :=
    has₁.takeChunk (midway.stated size₁) asked more
  have loaded := has₂.loadWord told
  obtain ⟨g₃, y, written, -, -, has₃⟩ := has₂.call_write found
  obtain ⟨g', turns, v', performs, count, has', served, files, shows⟩ :=
    rest has₃ (midway.next (size₂.trans size₁) _)
  refine ⟨g', _, v', stated.bind (taken.bind (loaded.bind (written.discard.bind performs))), ?_,
    has', ?_, files, shows⟩
  · simp [count]
  · rw [served]
    dsimp only
    omega

/-- The rounds of the program echo the input. -/
theorem Has.catChunks (has : g.Has v) (midway : Midway v before content buffer length offset)
    {rounds : Nat} (enough : Program.chunks (content.size - offset) < rounds) :
    Echoes (Program.catChunks buffer length rounds) g v before content.data.toList
      (2 * Program.chunks (content.size - offset) + 1) := by
  induction rounds generalizing g v offset with
  | zero => omega
  | succ rounds ih =>
    rcases Nat.lt_or_ge offset content.size with more | all
    · rw [chunks_of_more more] at enough ⊢
      exact has.catChunks_of_more midway more fun has' midway' => ih has' midway' (by omega)
    · have none : Program.chunks (content.size - offset) = 0 := by
        rw [Nat.sub_eq_zero_of_le all]
        rfl
      rw [none]
      exact has.catChunks_of_used_up midway all rounds

/-! ### The whole program -/

omit [FileHost σ ς] in
/-- What the feed has left is part of what there is to deliver. -/
theorem Has.left_le_supply (has : g.Has v) : v.feed.left ≤ g.debugger.supply := by
  simp [Debugger.supply, has.handlers, Debugger.panel, Handler.supply]

/-- The program puts its buffer and the word behind it on the heap, and echoes the input. -/
theorem Has.runCat (has : g.Has v) (fresh : v.heap = heapStart)
    (room : 0x2008 ≤ v.memory.size) (given : v.feed = { content := some content })
    (quiet : v.console = {}) :
    Echoes Program.runCat g v v.host.printed content.data.toList
      (2 * Program.chunks content.size + 1) := by
  have start : roundUp v.heap (8 : Word).toNat = 0x1000 := by rw [fresh]; rfl
  have chunk_eq : chunk.toNat = 4096 := rfl
  have behind : roundUp (0x1000 + chunk.toNat) (8 : Word).toNat = 0x2000 := rfl
  obtain ⟨g₁, first, has₁⟩ := has.allocate chunk 8 (by rw [start]; omega)
  rw [start] at first has₁
  obtain ⟨g₂, second, has₂⟩ := has₁.allocate 8 8 (by
    dsimp only
    rw [behind]
    exact room)
  dsimp only at second has₂
  rw [behind] at second has₂
  have midway : Midway { v with heap := 0x2000 + (8 : Word).toNat } v.host.printed content
      (UInt64.ofNat 0x1000) (UInt64.ofNat 0x2000) 0 :=
    { buffer_held := Nat.le_trans (show 0x1000 + 4096 ≤ 0x2008 by decide) room
      length_held := room
      apart := .of_le (by decide)
      feed := given
      shows := by
        rw [quiet]
        exact ⟨by simp, rfl⟩ }
  -- There is a round for every byte that the feed has left.
  have supply : content.size ≤ g₂.supply := by
    have left : v.feed.left = content.size := by rw [given]; rfl
    have feed : v.feed.left ≤ g₂.debugger.supply := has₂.left_le_supply
    rw [supply]
    omega
  obtain ⟨g', turns, v', performs, count, has', served, files, shows⟩ :=
    has₂.catChunks midway (show Program.chunks (content.size - 0) < g₂.supply + 1 by
      rw [Program.chunks]
      omega)
  refine ⟨g', _, v', first.bind (second.bind (Performs.bind (.silent rfl rfl) performs)), count,
    has', served, files, shows⟩

end Guest

end Semihosting
