import Mathlib.Data.List.TakeWhile
import Mathlib.Tactic.SplitIfs
import Semihosting.Proofs.GuestCalls
import Semihosting.Proofs.LossyDecoding
import Semihosting.Proofs.MemoryWindows

/-!
# What a guest takes from its heap

The heap hands out memory above everything that was handed out before, so new contents leave the old
ones alone. A text is put there with a zero byte behind it. To a call, it ends at its first zero
character.

## Main definitions

* `Guest.spelled` — a text as far as a call can read it

## Main results

* `Guest.allocate_of_room`, `Guest.allocateBytes_of_room`, `Guest.allocateString_of_room` — what
  the heap hands out
* `Guest.Has.print` — what a guest prints is written to the console, and nothing else changes
-/

namespace Semihosting

namespace Guest

/-! ### Zero characters -/

/-- A text as far as a call can read it: up to its first zero character. -/
def spelled (text : String) : String := String.ofList (text.toList.takeWhile (· ≠ '\x00'))

/-- A text without zero characters is read as it is. -/
theorem spelled_eq {text : String} (h : '\x00' ∉ text.toList) : spelled text = text := by
  have whole : text.toList.takeWhile (· ≠ '\x00') = text.toList := by
    rw [List.takeWhile_eq_self_iff]
    intro c there
    exact decide_eq_true fun zero => h (zero ▸ there)
  rw [spelled, whole, String.ofList_toList]

/-- Only the zero character has a zero byte. -/
theorem ne_zero_of_mem_utf8EncodeChar {c : Char} {b : UInt8} (h : c ≠ '\x00')
    (there : b ∈ String.utf8EncodeChar c) : b ≠ 0 := by
  have pos : c.val.toNat ≠ 0 := fun zero => h (Char.ext (UInt32.toNat_inj.mp zero))
  have ne {n : Nat} (small : n < 256) (pos : n ≠ 0) : UInt8.ofNat n ≠ 0 := by
    intro zero
    have toNat : (UInt8.ofNat n).toNat = n := UInt8.toNat_ofNat_of_lt' small
    rw [zero] at toNat
    exact pos toNat.symm
  simp only [String.utf8EncodeChar] at there
  -- Every byte but the only one of a small character has its highest bit set.
  split_ifs at there <;>
    simp only [List.mem_cons, List.not_mem_nil, or_false] at there
  · rw [there]
    exact ne (by omega) pos
  · rcases there with rfl | rfl <;> exact ne (by omega) (by omega)
  · rcases there with rfl | rfl | rfl <;> exact ne (by omega) (by omega)
  · rcases there with rfl | rfl | rfl | rfl <;> exact ne (by omega) (by omega)

theorem ne_zero_of_mem_spelled {text : String} {b : UInt8}
    (there : b ∈ (spelled text).toUTF8.data.toList) : b ≠ 0 := by
  rw [Utf8.toList_toUTF8, spelled, String.toList_ofList, List.mem_flatMap] at there
  obtain ⟨c, taken, there⟩ := there
  have other := List.mem_takeWhile_imp taken
  exact ne_zero_of_mem_utf8EncodeChar (of_decide_eq_true other) there

/-- In memory a text is what is spelled, a zero byte, and something behind it. -/
theorem bytes_spelled (text : String) :
    ∃ rest, text.toUTF8.data.toList ++ [0] = (spelled text).toUTF8.data.toList ++ 0 :: rest := by
  rw [Utf8.toList_toUTF8, Utf8.toList_toUTF8, spelled, String.toList_ofList]
  induction text.toList with
  | nil => exact ⟨[], rfl⟩
  | cons c chars ih =>
    by_cases zero : c = '\x00'
    · subst zero
      exact ⟨chars.flatMap String.utf8EncodeChar ++ [0], by simp [String.utf8EncodeChar]⟩
    · obtain ⟨rest, ih⟩ := ih
      refine ⟨rest, ?_⟩
      rw [List.takeWhile_cons_of_pos (by simpa using zero), List.flatMap_cons, List.flatMap_cons,
        List.append_assoc, ih, List.append_assoc]

theorem size_spelled_le (text : String) : (spelled text).toUTF8.size ≤ text.toUTF8.size := by
  obtain ⟨rest, split⟩ := bytes_spelled text
  have length := congrArg List.length split
  simp only [List.length_append, List.length_cons, List.length_nil, Bytes.length_toList] at length
  omega

/-- A text is read as it is spelled, if a zero byte was put behind it. -/
theorem holdsString_spelled {m m₁ m₂ : Memory} {a : Word} {text : String}
    (stored : m.store a text.toUTF8 = .ok m₁)
    (ended : m₁.store (a + UInt64.ofNat text.toUTF8.size) ⟨#[0]⟩ = .ok m₂)
    (behind : (a + UInt64.ofNat text.toUTF8.size).toNat = a.toNat + text.toUTF8.size) :
    m₂.HoldsString a (spelled text).toUTF8 := by
  obtain ⟨rest, split⟩ := bytes_spelled text
  refine .of_getElem? rest (fun i le => ?_) fun b there => ne_zero_of_mem_spelled there
  have short := size_spelled_le text
  rw [← split]
  rcases Nat.lt_or_ge i text.toUTF8.size with lt | ge
  · have kept : m₁.AgreesOn m₂ a text.toUTF8.size :=
      .of_store ended (.of_le (Nat.le_of_eq behind.symm))
    rw [kept.getElem?_eq _ (by omega) (by omega), Memory.getElem?_of_store stored lt,
      Bytes.getElem?_toList, List.getElem?_append_left (by rw [Bytes.length_toList]; exact lt)]
  · obtain rfl : i = text.toUTF8.size := by omega
    have found := Memory.getElem?_of_store ended (i := 0) (by decide)
    rw [behind, Nat.add_zero] at found
    rw [found, List.getElem?_append_right (Nat.le_of_eq (Bytes.length_toList _)),
      Bytes.length_toList, Nat.sub_self]
    rfl

/-! ### Taking memory -/

variable {σ ς : Type}

theorem roundUp_one (address : Nat) : roundUp address 1 = address := by
  simp [roundUp]

theorem toNat_ofNat_of_le_size {m : Memory} {n : Nat} (h : n ≤ m.size) :
    (UInt64.ofNat n).toNat = n :=
  UInt64.toNat_ofNat_of_lt' (Nat.lt_of_le_of_lt h m.size_lt)

section Allocation

variable {g : Guest σ ς}

/-- The heap hands out what is next, if there is room. -/
theorem allocate_of_room {length align : Word}
    (room : roundUp g.heap align.toNat + length.toNat ≤ g.machine.memory.size) :
    allocate length align g = (.ok (UInt64.ofNat (roundUp g.heap align.toNat)),
      { g with heap := roundUp g.heap align.toNat + length.toNat }) := by
  refine (bind_of_ok rfl).trans ?_
  rw [if_pos room]
  rfl

/-- If there is no room, the heap stays as it is. -/
theorem allocate_of_full {length align : Word}
    (full : g.machine.memory.size < roundUp g.heap align.toNat + length.toNat) :
    allocate length align g = (.error (.outOfBounds (UInt64.ofNat g.heap) length), g) := by
  refine (bind_of_ok rfl).trans ?_
  rw [if_neg (Nat.not_le.mpr full)]
  rfl

/-- Single bytes need not be aligned, so they are next to what was handed out before. -/
theorem allocate_bytes_of_room {count : Nat} (room : g.heap + count ≤ g.machine.memory.size) :
    allocate (UInt64.ofNat count) 1 g =
      (.ok (UInt64.ofNat g.heap), { g with heap := g.heap + count }) := by
  have size : (UInt64.ofNat count).toNat = count :=
    toNat_ofNat_of_le_size (m := g.machine.memory) (by omega)
  rw [allocate_of_room (by rw [size, UInt64.toNat_one, roundUp_one]; exact room), size,
    UInt64.toNat_one, roundUp_one]

theorem store_of_ok {address : Word} {data : ByteArray} {m : Memory}
    (stored : g.machine.memory.store address data = .ok m) :
    store address data g = (.ok (), { g with machine.memory := m }) := by
  refine (bind_of_ok rfl).trans ?_
  rw [stored]
  rfl

/-- Bytes are put behind everything that was handed out before. -/
theorem allocateBytes_of_room {data : ByteArray}
    (room : g.heap + data.size ≤ g.machine.memory.size) :
    ∃ m, g.machine.memory.store (UInt64.ofNat g.heap) data = .ok m ∧
      allocateBytes data g = (.ok (UInt64.ofNat g.heap),
        { g with heap := g.heap + data.size, machine.memory := m }) := by
  have place : (UInt64.ofNat g.heap).toNat = g.heap :=
    toNat_ofNat_of_le_size (m := g.machine.memory) (by omega)
  obtain ⟨m, stored⟩ : ∃ m, g.machine.memory.store (UInt64.ofNat g.heap) data = .ok m :=
    Memory.exists_store_eq_ok (by rw [Memory.Holds, place]; exact room)
  refine ⟨m, stored, (bind_of_ok (allocate_bytes_of_room room)).trans ?_⟩
  exact bind_of_ok (store_of_ok (g := { g with heap := g.heap + data.size }) stored)

/-- A text is put behind everything that was handed out before, and can be read from there. -/
theorem allocateString_of_room {text : String}
    (room : g.heap + text.toUTF8.size + 1 ≤ g.machine.memory.size) :
    ∃ m, m.HoldsString (UInt64.ofNat g.heap) (spelled text).toUTF8 ∧
      g.machine.memory.AgreesOn m 0 g.heap ∧
      allocateString text g = (.ok (UInt64.ofNat g.heap),
        { g with heap := g.heap + text.toUTF8.size + 1, machine.memory := m }) := by
  have place : (UInt64.ofNat g.heap).toNat = g.heap :=
    toNat_ofNat_of_le_size (m := g.machine.memory) (by omega)
  have behind : (UInt64.ofNat g.heap + UInt64.ofNat text.toUTF8.size).toNat =
      g.heap + text.toUTF8.size := by
    rw [← UInt64.ofNat_add]
    exact toNat_ofNat_of_le_size (m := g.machine.memory) (by omega)
  obtain ⟨m₁, stored⟩ : ∃ m, g.machine.memory.store (UInt64.ofNat g.heap) text.toUTF8 = .ok m :=
    Memory.exists_store_eq_ok (by rw [Memory.Holds, place]; omega)
  obtain ⟨m₂, ended⟩ : ∃ m, m₁.store (UInt64.ofNat g.heap + UInt64.ofNat text.toUTF8.size)
      ⟨#[0]⟩ = .ok m :=
    Memory.exists_store_eq_ok (by
      rw [Memory.Holds, behind, Memory.size_of_store stored]
      exact room)
  refine ⟨m₂, holdsString_spelled stored ended (by rw [behind, place]), ?_, ?_⟩
  · have text_above : g.machine.memory.AgreesOn m₁ 0 g.heap :=
      .of_store stored (.of_le (by simp [place]))
    have zero_above : m₁.AgreesOn m₂ 0 g.heap :=
      .of_store ended (.of_le (by rw [behind]; simp))
    exact text_above.trans zero_above
  · let g₁ : Guest σ ς := { g with heap := g.heap + (text.toUTF8.size + 1) }
    have first : store (UInt64.ofNat g.heap) text.toUTF8 g₁ =
        (.ok (), { g₁ with machine.memory := m₁ }) := store_of_ok stored
    refine (bind_of_ok (allocate_bytes_of_room (by omega))).trans ((bind_of_ok first).trans ?_)
    exact bind_of_ok (store_of_ok (g := { g₁ with machine.memory := m₁ }) ended)

end Allocation

/-! ### Taking memory in a debugging session -/

variable [FileHost σ ς] {g : Guest σ ς} {v : View σ ς}

theorem Has.allocate (has : g.Has v) (length align : Word)
    (room : roundUp v.heap align.toNat + length.toNat ≤ v.memory.size) :
    ∃ g', Performs (allocate length align) g []
        (.ok (UInt64.ofNat (roundUp v.heap align.toNat))) g' ∧
      g'.Has { v with heap := roundUp v.heap align.toNat + length.toNat } := by
  obtain ⟨memory, heap, handlers, host, served⟩ := has
  rw [← heap, ← memory] at room
  rw [← heap]
  exact ⟨_, .silent (allocate_of_room room) rfl, memory, rfl, handlers, host, served⟩

theorem Has.store (has : g.Has v) {address : Word} {data : ByteArray} {m : Memory}
    (stored : v.memory.store address data = .ok m) :
    ∃ g', Performs (store address data) g [] (.ok ()) g' ∧ g'.Has { v with memory := m } := by
  obtain ⟨memory, heap, handlers, host, served⟩ := has
  rw [← memory] at stored
  exact ⟨_, .silent (store_of_ok stored) rfl, rfl, heap, handlers, host, served⟩

theorem Has.storeWord (has : g.Has v) {address : Word} (held : v.memory.Holds address 8)
    (w : Word) :
    ∃ g' m, Performs (storeWord address w) g [] (.ok ()) g' ∧
      v.memory.storeWord address w = .ok m ∧ g'.Has { v with memory := m } := by
  obtain ⟨m, stored⟩ := Memory.exists_storeWord_eq_ok held w
  obtain ⟨g', performs, has'⟩ := has.store stored
  exact ⟨g', m, performs, stored, has'⟩

theorem Has.loadWord (has : g.Has v) {address w : Word}
    (found : v.memory.loadWord address = .ok w) :
    Performs (loadWord address) g [] (.ok w) g := by
  have run : Guest.loadWord address g = (.ok w, g) := by
    refine (bind_of_ok rfl).trans ?_
    rw [has.memory, found]
    rfl
  exact .silent run rfl

theorem Has.allocateBytes (has : g.Has v) {data : ByteArray}
    (room : v.heap + data.size ≤ v.memory.size) :
    ∃ g' m, Performs (allocateBytes data) g [] (.ok (UInt64.ofNat v.heap)) g' ∧
      v.memory.store (UInt64.ofNat v.heap) data = .ok m ∧
      g'.Has { v with heap := v.heap + data.size, memory := m } := by
  obtain ⟨memory, heap, handlers, host, served⟩ := has
  rw [← heap, ← memory] at room ⊢
  obtain ⟨m, stored, run⟩ := allocateBytes_of_room room
  exact ⟨_, m, .silent run rfl, stored, rfl, rfl, handlers, host, served⟩

theorem Has.allocateString (has : g.Has v) (text : String)
    (room : v.heap + text.toUTF8.size + 1 ≤ v.memory.size) :
    ∃ g' m, Performs (allocateString text) g [] (.ok (UInt64.ofNat v.heap)) g' ∧
      m.HoldsString (UInt64.ofNat v.heap) (spelled text).toUTF8 ∧
      v.memory.AgreesOn m 0 v.heap ∧
      g'.Has { v with heap := v.heap + text.toUTF8.size + 1, memory := m } := by
  obtain ⟨memory, heap, handlers, host, served⟩ := has
  rw [← heap, ← memory] at room ⊢
  obtain ⟨m, held, below, run⟩ := allocateString_of_room room
  exact ⟨_, m, .silent run rfl, held, below, rfl, rfl, handlers, host, served⟩

/-- What a guest prints is written to the console, and nothing else changes. -/
theorem Has.print (has : g.Has v) (text : String)
    (room : v.heap + text.toUTF8.size ≤ v.memory.size) :
    ∃ g' x m, Performs (print text) g [x] (.ok (UInt64.ofNat text.toUTF8.size)) g' ∧
      x.service? = some .write ∧ x.stdout = text.toUTF8.data.toList ∧
      v.memory.AgreesOn m 0 v.heap ∧
      g'.Has { v with
        memory := m, console := (v.console.feed text.toUTF8).2
        host := v.host.print (v.console.feed text.toUTF8).1, served := v.served + 1 } := by
  have place : (UInt64.ofNat v.heap).toNat = v.heap :=
    toNat_ofNat_of_le_size (m := v.memory) (by omega)
  obtain ⟨g₁, m, first, stored, has₁⟩ := has.allocateBytes room
  obtain ⟨g₂, x, second, written, said, has₂⟩ := has₁.call_write (Memory.load_of_store stored)
  have write : Performs (do
      let address ← Guest.allocateBytes text.toUTF8
      call .write [1, address, UInt64.ofNat text.toUTF8.size]) g _ _ g₂ := first.bind second
  obtain ⟨memory, -, handlers, host, served⟩ := has₂
  exact ⟨_, x, m, write.lending, written, said, .of_store stored (.of_le (by simp [place])),
    memory, has.heap, handlers, host, served⟩

end Guest

end Semihosting
