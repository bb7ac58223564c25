import Semihosting.Proofs.MemoryWindows
import Semihosting.Proofs.Servers
import Semihosting.Proofs.StreamServices

/-!
# How input is delivered

A guest takes the input of a session piece by piece. It says how much it has room for, and every
piece is the next part of the input, as far as there is room. A call that faults takes nothing, so
the guest can ask again.

## Main definitions

* `Turn.pieceLength`, `Turn.piece` — what a call has delivered, as the guest finds it in memory
* `Turn.Receives` — what a call delivers when some bytes were delivered before

## Main results

* `InputFeed.deliver_cases` — everything that a delivery can do
* `Turn.receives_of_input` — one call delivers the next piece
* `Transcript.input_delivered` — every call of a run delivers the next piece, and all pieces
  together are the input
-/

namespace Semihosting

/-! ### One delivery -/

namespace InputFeed

variable {σ : Type} {f : InputFeed} {buffer length : Word} {memory : Memory} {host : Host σ}
variable {content : ByteArray}

/-- A delivery faults and changes nothing, finds the input used up, or hands out the next piece. -/
theorem deliver_cases (given : f.content = some content) (buffer length : Word) (memory : Memory)
    (host : Host σ) :
    (∃ fault, f.deliver buffer length memory host = .refusal fault f memory host) ∨
      (content.size ≤ f.offset ∧ ∃ left, memory.storeWord length 0 = .ok left ∧
        f.deliver buffer length memory host = .idle 1 f left host) ∨
      (f.offset < content.size ∧ ∃ capacity filled left count,
        memory.loadWord length = .ok capacity ∧
        count = min (content.size - f.offset) capacity.toNat ∧
        memory.store buffer (Bytes.window content f.offset count) = .ok filled ∧
        filled.storeWord length (UInt64.ofNat count) = .ok left ∧
        f.deliver buffer length memory host =
          { outcome := .ok 0, handler := { f with offset := f.offset + count }, memory := left
            host, events := [.inputDelivered count (content.size - (f.offset + count))] }) := by
  cases read : memory.loadWord length with
  | error fault =>
    refine Or.inl ⟨fault, ?_⟩
    simp only [deliver, given, read, Answer.refusal]
  | ok capacity =>
    have held : memory.Holds length 8 := (Memory.loadWord_eq_ok_iff.mp read).1
    rcases Nat.lt_or_ge f.offset content.size with some_left | none_left
    · cases stored : memory.store buffer
          (Bytes.window content f.offset (min (content.size - f.offset) capacity.toNat)) with
      | error fault =>
        refine Or.inl ⟨fault, ?_⟩
        simp only [deliver, given, read, if_neg (Nat.not_le.mpr some_left), stored, Answer.refusal]
      | ok filled =>
        -- The length word was read from here, so it can be stored here.
        have room : filled.Holds length 8 := by
          rw [Memory.Holds, Memory.size_of_store stored]
          exact held
        obtain ⟨left, told⟩ := Memory.exists_storeWord_eq_ok room
          (UInt64.ofNat (min (content.size - f.offset) capacity.toNat))
        refine Or.inr (Or.inr ⟨some_left, capacity, filled, left, _, rfl, rfl, stored, told, ?_⟩)
        simp only [deliver, given, read, if_neg (Nat.not_le.mpr some_left), stored, told]
    · obtain ⟨left, told⟩ := Memory.exists_storeWord_eq_ok held 0
      refine Or.inr (Or.inl ⟨none_left, left, told, ?_⟩)
      simp only [deliver, given, read, if_pos none_left, told, Answer.idle]

end InputFeed

variable {σ ς : Type} [FileHost σ ς]

namespace Turn

/-! ### What the guest finds -/

/-- How many bytes of input a call has delivered: if its result is zero, what it has left in the
word that stated the room. -/
def pieceLength (x : Turn σ ς) : Nat :=
  if x.service? = some .readStream ∧ x.result? = some 0 then
    match x.serviced.machine.memory.loadWord (x.arg 1) with
    | .ok length => length.toNat
    | .error _ => 0
  else 0

/-- The bytes of input that a call has left in memory. -/
def piece (x : Turn σ ς) : List UInt8 :=
  (Bytes.window x.serviced.machine.memory.bytes (x.arg 0).toNat x.pieceLength).data.toList

/-- What a call for input does when `offset` bytes of the content were delivered before. -/
structure Receives (x : Turn σ ς) (content : ByteArray) (offset : Nat) : Prop where
  /-- A call ends well with zero or one, or it faults. -/
  result : ∀ r, x.result? = some r → r = 0 ∨ r = 1
  /-- There are bytes left if the result is zero; it tells how many were delivered. -/
  delivered : x.result? = some 0 → offset < content.size ∧
    ∃ capacity, x.memory.loadWord (x.arg 1) = .ok capacity ∧
      x.pieceLength = min capacity.toNat (content.size - offset) ∧
      x.serviced.machine.memory.loadWord (x.arg 1) = .ok (UInt64.ofNat x.pieceLength) ∧
      (1 ≤ capacity.toNat → 1 ≤ x.pieceLength)
  /-- The next bytes are in the buffer, unless the length has been stored over them. -/
  piece : x.result? = some 0 → Memory.Disjoint (x.arg 0) x.pieceLength (x.arg 1) 8 →
    x.serviced.machine.memory.load (x.arg 0) (UInt64.ofNat x.pieceLength) =
      .ok (Bytes.window content offset x.pieceLength)
  /-- The result is one exactly if everything was delivered. -/
  ended : x.result? ≠ none → (x.result? = some 1 ↔ offset = content.size)
  /-- Then there are no bytes in this piece. -/
  emptied : x.result? = some 1 → x.serviced.machine.memory.loadWord (x.arg 1) = .ok 0
  /-- A call that faults leaves memory as it is. -/
  kept : x.result? = none → x.serviced.machine.memory = x.memory

variable {x : Turn σ ς} {content : ByteArray} {offset : Nat}

theorem pieceLength_of_ne_zero (h : x.result? ≠ some 0) : x.pieceLength = 0 :=
  if_neg fun there => h there.2

theorem pieceLength_of_ne_service (h : x.service? ≠ some .readStream) : x.pieceLength = 0 :=
  if_neg fun there => h there.1

/-! ### The outcomes of a call -/

/-- A call that faults has not touched memory. -/
theorem receives_of_refused (none : x.result? = none)
    (memory : x.serviced.machine.memory = x.memory) : x.Receives content offset where
  result := by simp [none]
  delivered := by simp [none]
  piece := by simp [none]
  ended := by simp [none]
  emptied := by simp [none]
  kept _ := memory

/-- A call that finds everything delivered has stored a zero. -/
theorem receives_of_used_up (one : x.result? = some 1) (all : offset = content.size)
    (told : x.memory.storeWord (x.arg 1) 0 = .ok x.serviced.machine.memory) :
    x.Receives content offset where
  result := by simp [one]
  delivered := by simp [one]
  piece := by simp [one]
  ended := by simp [one, all]
  emptied _ := Memory.loadWord_of_storeWord told
  kept := by simp [one]

section Delivered

variable {capacity : Word} {filled : Memory} {count : Nat}

/-- The length of a piece can be read where it was stored. -/
theorem pieceLength_of_delivered (hs : x.service? = some .readStream) (zero : x.result? = some 0)
    (small : (UInt64.ofNat count).toNat = count)
    (told : filled.storeWord (x.arg 1) (UInt64.ofNat count) = .ok x.serviced.machine.memory) :
    x.pieceLength = count := by
  rw [pieceLength, if_pos ⟨hs, zero⟩, Memory.loadWord_of_storeWord told]
  exact small

/-- A call that delivers a piece has stored it, as far as there was room, and then its length. -/
theorem receives_of_delivered (hs : x.service? = some .readStream) (zero : x.result? = some 0)
    (more : offset < content.size) (read : x.memory.loadWord (x.arg 1) = .ok capacity)
    (hcount : count = min (content.size - offset) capacity.toNat)
    (stored : x.memory.store (x.arg 0) (Bytes.window content offset count) = .ok filled)
    (told : filled.storeWord (x.arg 1) (UInt64.ofNat count) = .ok x.serviced.machine.memory) :
    x.Receives content offset := by
  have small : (UInt64.ofNat count).toNat = count :=
    UInt64.toNat_ofNat_of_lt' (Nat.lt_of_le_of_lt (by omega) capacity.toNat_lt)
  have length := pieceLength_of_delivered hs zero small told
  have size : (Bytes.window content offset count).size = count := by
    rw [Bytes.size_window]
    omega
  constructor
  case result => simp [zero]
  case delivered =>
    intro _
    rw [length]
    exact ⟨more, capacity, read, by rw [hcount, Nat.min_comm], Memory.loadWord_of_storeWord told,
      by omega⟩
  case piece =>
    intro _ apart
    rw [length] at apart ⊢
    -- The bytes were stored first, and the length was stored elsewhere.
    have agrees : filled.AgreesOn x.serviced.machine.memory (x.arg 0) count := .of_store told apart
    rw [Memory.AgreesOn.load_eq (by rw [small]; exact agrees)]
    have loaded := Memory.load_of_store stored
    rw [size] at loaded
    exact loaded
  case ended =>
    have other : (0 : Word) ≠ 1 := by decide
    have short : offset ≠ content.size := Nat.ne_of_lt more
    simp [zero, other, short]
  case emptied => simp [zero]
  case kept => simp [zero]

end Delivered

/-! ### One call -/

/-- One call delivers the next piece, and the feed goes on behind it. -/
theorem receives_of_input
    (h : x.debugger.server? .readStream = some (.input { content := some content, offset }))
    (hs : x.service? = some .readStream) (le : offset ≤ content.size) :
    x.Receives content offset ∧ offset + x.pieceLength ≤ content.size ∧
      x.after.debugger.server? .readStream =
        some (.input { content := some content, offset := offset + x.pieceLength }) := by
  have hr : x.request.service? = some .readStream := hs
  obtain ⟨act, hact, answered⟩ := answer?_of_server hs h
  simp only [Handler.react?, InputFeed.react?, hr, Option.map_some, Option.some.injEq] at hact
  subst hact
  obtain ⟨server, -, memory, result⟩ := answered
  rw [Reaction.map, Answer.map] at server memory result
  rcases InputFeed.deliver_cases (f := { content := some content, offset }) rfl
    (x.arg 0) (x.arg 1) x.memory x.host with
    ⟨fault, refused⟩ | ⟨used_up, left, told, idle⟩ |
      ⟨more, capacity, filled, left, count, read, hcount, stored, told, delivered⟩
  · rw [refused] at server memory result
    have none : x.result? = none := result
    rw [pieceLength_of_ne_zero (by rw [none]; simp)]
    exact ⟨receives_of_refused none memory, le, server⟩
  · rw [idle] at server memory result
    have one : x.result? = some 1 := result
    rw [pieceLength_of_ne_zero (by rw [one]; decide)]
    rw [show left = x.serviced.machine.memory from memory.symm] at told
    exact ⟨receives_of_used_up one (Nat.le_antisymm le used_up) told, le, server⟩
  · rw [delivered] at server memory result
    have zero : x.result? = some 0 := result
    rw [show left = x.serviced.machine.memory from memory.symm] at told
    dsimp only at more hcount stored server
    have small : (UInt64.ofNat count).toNat = count :=
      UInt64.toNat_ofNat_of_lt' (Nat.lt_of_le_of_lt (by omega) capacity.toNat_lt)
    rw [pieceLength_of_delivered hs zero small told]
    exact ⟨receives_of_delivered hs zero more read hcount stored told, by omega, server⟩

/-- Any other call leaves the feed as it is. -/
theorem server?_readStream_after {f : InputFeed}
    (h : x.debugger.server? .readStream = some (.input f)) (hs : x.service? ≠ some .readStream) :
    x.after.debugger.server? .readStream = some (.input f) := by
  have hr : x.request.service? ≠ some .readStream := hs
  rcases server?_after h with same | ⟨act, hact, -⟩
  · exact same
  · obtain ⟨act, reacts, -⟩ := Option.map_eq_some_iff.mp hact
    unfold InputFeed.react? at reacts
    split at reacts
    · next there => exact absurd there hr
    · cases reacts

/-- Without an input the guest is told so, and nothing changes. -/
theorem result?_of_inputMissing
    (h : x.debugger.server? .readStream = some (.input { content := none }))
    (hs : x.service? = some .readStream) :
    x.result? = some (-1) ∧ x.serviced.machine.memory = x.memory ∧
      x.after.debugger.server? .readStream = some (.input { content := none }) := by
  have hr : x.request.service? = some .readStream := hs
  obtain ⟨act, hact, answered⟩ := answer?_of_server hs h
  simp only [Handler.react?, InputFeed.react?, hr, Option.map_some, Option.some.injEq] at hact
  subst hact
  exact ⟨answered.result, answered.memory, answered.server⟩

end Turn

/-! ### Runs -/

/-- How many bytes of input some calls have delivered. -/
def deliveredBy (turns : List (Turn σ ς)) : Nat := (turns.map Turn.pieceLength).sum

theorem deliveredBy_append (turns more : List (Turn σ ς)) :
    deliveredBy (turns ++ more) = deliveredBy turns + deliveredBy more := by
  simp [deliveredBy]

theorem deliveredBy_snoc (turns : List (Turn σ ς)) (x : Turn σ ς) :
    deliveredBy (turns ++ [x]) = deliveredBy turns + x.pieceLength := by
  simp [deliveredBy]

theorem Turn.Receives.piece_eq {x : Turn σ ς} {content : ByteArray} {offset : Nat}
    (receives : x.Receives content offset)
    (apart : x.result? = some 0 → Memory.Disjoint (x.arg 0) x.pieceLength (x.arg 1) 8) :
    x.piece = (content.data.toList.drop offset).take x.pieceLength := by
  by_cases zero : x.result? = some 0
  · obtain ⟨-, capacity, -, length, -⟩ := receives.delivered zero
    have small : (UInt64.ofNat x.pieceLength).toNat = x.pieceLength := by
      have := capacity.toNat_lt
      exact UInt64.toNat_ofNat_of_lt (by rw [UInt64.size]; omega)
    have loaded := (Memory.load_eq_ok_iff.mp (receives.piece zero (apart zero))).2
    rw [small] at loaded
    rw [Turn.piece, ← loaded, Bytes.toList_window]
  · rw [Turn.piece, Turn.pieceLength_of_ne_zero zero, Bytes.toList_window, List.take_zero,
      List.take_zero]

namespace Transcript

variable {s₀ s : Stage σ ς} {turns before after : List (Turn σ ς)} {x : Turn σ ς}
variable {content : ByteArray}

/-- The feed stands behind what the calls have delivered. -/
theorem server?_of_input (run : Transcript s₀ turns s)
    (fresh : s₀.debugger.server? .readStream = some (.input { content := some content })) :
    deliveredBy turns ≤ content.size ∧ s.debugger.server? .readStream =
      some (.input { content := some content, offset := deliveredBy turns }) := by
  induction run with
  | nil => exact ⟨Nat.zero_le _, fresh⟩
  | @snoc turns s run machine ih =>
    obtain ⟨le, server⟩ := ih
    rw [deliveredBy_snoc]
    by_cases hs : (Turn.mk s machine).service? = some .readStream
    · exact (Turn.receives_of_input server hs le).2
    · rw [Turn.pieceLength_of_ne_service hs, Nat.add_zero]
      exact ⟨le, Turn.server?_readStream_after server hs⟩

/-- Every call for input delivers the bytes behind those that were delivered before. -/
theorem receives (run : Transcript s₀ (before ++ x :: after) s)
    (fresh : s₀.debugger.server? .readStream = some (.input { content := some content }))
    (hs : x.service? = some .readStream) : x.Receives content (deliveredBy before) := by
  obtain ⟨s₁, first, rest⟩ := append_iff.mp run
  obtain ⟨le, server⟩ := first.server?_of_input fresh
  rw [← rest.toStage_eq] at server
  exact (Turn.receives_of_input server hs le).1

/-- The pieces are the content as far as it was delivered, each byte once and in order. -/
theorem flatMap_piece (run : Transcript s₀ turns s)
    (fresh : s₀.debugger.server? .readStream = some (.input { content := some content }))
    (apart : ∀ x ∈ turns, x.service? = some .readStream → x.result? = some 0 →
      Memory.Disjoint (x.arg 0) x.pieceLength (x.arg 1) 8) :
    turns.flatMap Turn.piece = content.data.toList.take (deliveredBy turns) := by
  induction run with
  | nil => rfl
  | @snoc turns s run machine ih =>
    have hpiece : (Turn.mk s machine).piece =
        (content.data.toList.drop (deliveredBy turns)).take (Turn.mk s machine).pieceLength := by
      by_cases hs : (Turn.mk s machine).service? = some .readStream
      · have receives := (Turn.receives_of_input (run.server?_of_input fresh).2 hs
          (run.server?_of_input fresh).1).1
        exact receives.piece_eq (apart _ (by simp) hs)
      · rw [Turn.piece, Turn.pieceLength_of_ne_service hs, Bytes.toList_window, List.take_zero,
          List.take_zero]
    rw [List.flatMap_append, List.flatMap_singleton, deliveredBy_snoc, List.take_add, hpiece,
      ih fun x there => apart x (List.mem_append_left _ there)]

/-- Once a call has found the input used up, every later call that does not fault does. -/
theorem used_up {y : Turn σ ς} (run : Transcript s₀ (before ++ y :: after) s)
    (fresh : s₀.debugger.server? .readStream = some (.input { content := some content }))
    (there : x ∈ before) (hx : x.service? = some .readStream) (one : x.result? = some 1)
    (hy : y.service? = some .readStream) (ok : y.result? ≠ none) : y.result? = some 1 := by
  obtain ⟨earlier, later, rfl⟩ := List.append_of_mem there
  obtain ⟨s₁, first, -⟩ := append_iff.mp run
  have le := (first.server?_of_input fresh).1
  have all := ((first.receives fresh hx).ended (by rw [one]; simp)).mp one
  refine ((run.receives fresh hy).ended ok).mpr ?_
  -- What was delivered before the first of the two calls was everything.
  rw [deliveredBy_append] at le ⊢
  omega

theorem server?_of_inputMissing (run : Transcript s₀ turns s)
    (fresh : s₀.debugger.server? .readStream = some (.input { content := none })) :
    s.debugger.server? .readStream = some (.input { content := none }) := by
  induction run with
  | nil => exact fresh
  | @snoc turns s run machine ih =>
    by_cases hs : (Turn.mk s machine).service? = some .readStream
    · exact (Turn.result?_of_inputMissing ih hs).2.2
    · exact Turn.server?_readStream_after ih hs

end Transcript

/-! ### Three bytes in two pieces

The guest has room for two bytes at a time, states a bad address once, and asks once too often. -/

namespace ThreeBytes

def content : ByteArray := ⟨#[1, 2, 3]⟩

/-- The word two, and room for two bytes and more behind it. -/
def memory : Memory := ⟨⟨#[2, 0, 0, 0, 0, 0, 0, 0, 0, 0, 0, 0, 0, 0, 0, 0]⟩, by decide⟩

def first : Turn FileStore StoredStream :=
  ⟨.initial (some content) { files := {} }, .asking .readStream [8, 0] memory⟩

/-- The length word would end behind the memory. -/
def bad : Turn FileStore StoredStream := ⟨first.after, .asking .readStream [8, 9] memory⟩

def second : Turn FileStore StoredStream := ⟨bad.after, .asking .readStream [8, 0] memory⟩

def last : Turn FileStore StoredStream := ⟨second.after, .asking .readStream [8, 0] memory⟩

theorem run : Transcript first.toStage [first, bad, second, last] last.after :=
  (((Transcript.nil.snoc _).snoc _).snoc _).snoc _

theorem deliveredBy_bad : deliveredBy [first, bad] = 2 := by cbv

theorem deliveredBy_second : deliveredBy [first, bad, second] = 3 := by cbv

end ThreeBytes

/-- With an input, every call of a run for input delivers the next piece behind those that were
delivered before, the calls that come after a used-up input find it used up, and all pieces together
are the input, as far as it was delivered. Without one, every call says so and changes nothing. -/
theorem Transcript.input_delivered {s₀ s : Stage σ ς} {turns : List (Turn σ ς)}
    {content? : Option ByteArray} (run : Transcript s₀ turns s)
    (fresh : s₀.debugger.server? .readStream = some (.input { content := content? })) :
    (∀ content, content? = some content →
      (∀ before x after, turns = before ++ x :: after → x.service? = some .readStream →
        x.Receives content (deliveredBy before) ∧
          (x.result? = some 1 → ∀ y ∈ after, y.service? = some .readStream → y.result? ≠ none →
            y.result? = some 1)) ∧
      deliveredBy turns ≤ content.size ∧
      ((∀ x ∈ turns, x.service? = some .readStream → x.result? = some 0 →
          Memory.Disjoint (x.arg 0) x.pieceLength (x.arg 1) 8) →
        turns.flatMap Turn.piece = content.data.toList.take (deliveredBy turns))) ∧
      (content? = none → ∀ x ∈ turns, x.service? = some .readStream →
        x.result? = some (-1) ∧ x.serviced.machine.memory = x.memory) := by
  constructor
  · rintro content rfl
    refine ⟨?_, (run.server?_of_input fresh).1, run.flatMap_piece fresh⟩
    rintro before x after rfl hs
    refine ⟨run.receives fresh hs, fun one y there hy ok => ?_⟩
    obtain ⟨between, rest, rfl⟩ := List.append_of_mem there
    have split : before ++ x :: (between ++ y :: rest) = (before ++ x :: between) ++ y :: rest := by
      simp
    rw [split] at run
    exact run.used_up fresh (by simp) hs one hy ok
  · rintro rfl x there hs
    obtain ⟨before, after, rfl⟩ := List.append_of_mem there
    obtain ⟨s₁, first, rest⟩ := append_iff.mp run
    have server := first.server?_of_inputMissing fresh
    rw [← rest.toStage_eq] at server
    obtain ⟨result, memory, -⟩ := Turn.result?_of_inputMissing server hs
    exact ⟨result, memory⟩

/-- The call behind the bad address delivers the last byte, and the next one finds no more. -/
theorem input_delivered_threeBytes :
    ThreeBytes.second.Receives ThreeBytes.content 2 ∧
      ThreeBytes.last.Receives ThreeBytes.content 3 ∧ ThreeBytes.last.result? = some 1 := by
  obtain ⟨with_input, -⟩ := Transcript.input_delivered ThreeBytes.run
    (show ThreeBytes.first.debugger.server? .readStream =
      some (Handler.input { content := some ThreeBytes.content }) by cbv)
  have calls := (with_input ThreeBytes.content rfl).1
  have second := (calls [ThreeBytes.first, ThreeBytes.bad] ThreeBytes.second [ThreeBytes.last] rfl
    (by cbv)).1
  have last := (calls [ThreeBytes.first, ThreeBytes.bad, ThreeBytes.second] ThreeBytes.last [] rfl
    (by cbv)).1
  rw [ThreeBytes.deliveredBy_bad] at second
  rw [ThreeBytes.deliveredBy_second] at last
  exact ⟨second, last, (last.ended (by cbv; decide)).mpr rfl⟩

end Semihosting
