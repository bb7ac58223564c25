import Semihosting.Proofs.GuardedAccess

/-!
# Memory as an array of bytes

Guest memory is an array of bytes and nothing more, at every address that a word can name. A window
can be read and written exactly if it ends in memory, where the end is a sum that never wraps
around. Otherwise the fault names the window, and memory stays as it is. Behind any number of
stores, a byte is the one that was stored last at its address, or the one that was there before
them. A word is its digits to the base 256, and a string is what lies before the next zero byte.

## Main definitions

* `Memory.contents` — the bytes from address 0 on
* `Memory.fillAll`, `Memory.byteAfter` — stores one after another, and the byte that they leave
* `Memory.ReadsBytes`, `Memory.WritesBytes`, `Memory.SpellsWords` — reading and writing bytes and
  words
* `Memory.NeverWraps` — the same with every sum and index checked

## Main results

* `Memory.getElem?_fill`, `Memory.getElem?_fillAll` — what one store leaves, and what many leave
* `Memory.holdsString_iff`, `Memory.lacksString_iff` — strings, in terms of the contents
* `Memory.behaves_as_bytes` — all of it, for every memory
-/

namespace Semihosting

namespace Bytes

/-- The digits of a number to the base 256, the last one first. -/
theorem getElem?_digits {count i : Nat} (lt : i < count) (number : Nat) :
    (digits count number)[i]? = some (UInt8.ofNat (number / 256 ^ i)) := by
  induction count generalizing i number with
  | zero => exact absurd lt (Nat.not_lt_zero i)
  | succ count ih =>
    cases i with
    | zero => simp [digits]
    | succ i =>
      rw [digits, List.getElem?_cons_succ, ih (Nat.lt_of_succ_lt_succ lt), Nat.div_div_eq_div_mul,
        Nat.pow_succ']

/-- A byte of a word is a digit of it. -/
theorem getElem?_ofWord {i : Nat} (lt : i < 8) (w : Word) :
    (ofWord w)[i]? = some (UInt8.ofNat (w.toNat / 256 ^ i)) := by
  rw [getElem?_toList, ofWord]
  exact getElem?_digits lt w.toNat

end Bytes

namespace Memory

variable {m n : Memory} {a b : Word} {data text : ByteArray} {fault : Fault}

/-- The bytes of memory, from address 0 on. -/
def contents (m : Memory) : List UInt8 := m.bytes.data.toList

theorem getElem?_contents (m : Memory) (i : Nat) : m.contents[i]? = m.bytes[i]? :=
  (Bytes.getElem?_toList m.bytes i).symm

/-! ### Stores one after another -/

/-- A store goes through, and an address is among those that it writes to. -/
def Covers (m : Memory) (s : Word × ByteArray) (i : Nat) : Prop :=
  m.Holds s.1 s.2.size ∧ s.1.toNat ≤ i ∧ i < s.1.toNat + s.2.size

instance (s : Word × ByteArray) (i : Nat) : Decidable (m.Covers s i) := instDecidableAnd

/-- The memory behind some stores, of which those that do not fit change nothing. -/
def fillAll (m : Memory) (stores : List (Word × ByteArray)) : Memory :=
  stores.foldl (fun m s => m.fill s.1 s.2) m

/-- The byte at an address behind some stores: the one of the last store there, or the one before
all of them. -/
def byteAfter (m : Memory) (stores : List (Word × ByteArray)) (i : Nat) : Option UInt8 :=
  match stores.findRev? fun s => m.Covers s i with
  | some s => s.2[i - s.1.toNat]?
  | none => m.bytes[i]?

/-- A store that does not fit changes nothing. -/
theorem fill_of_error (h : m.store a data = .error fault) : m.fill a data = m := by
  rw [fill, h]

/-- A byte behind a store is the one that was stored, or the old one. -/
theorem getElem?_fill (m : Memory) (s : Word × ByteArray) (i : Nat) :
    (m.fill s.1 s.2).bytes[i]? = if m.Covers s i then s.2[i - s.1.toNat]? else m.bytes[i]? := by
  rw [bytes_fill]
  split
  · next held =>
    have inside : s.1.toNat + s.2.size ≤ m.bytes.size := held
    rw [Bytes.getElem?_overlay (by omega)]
    simp only [Covers, held, true_and]
  · next outside => rw [if_neg fun covers => outside covers.1]

theorem size_fillAll (m : Memory) (stores : List (Word × ByteArray)) :
    (m.fillAll stores).size = m.size := by
  induction stores generalizing m with
  | nil => rfl
  | cons s stores ih =>
    rw [fillAll, List.foldl_cons]
    exact (ih _).trans (size_fill ..)

/-- What a store covers depends on the size of memory only. -/
theorem covers_congr (size : n.size = m.size) (s : Word × ByteArray) (i : Nat) :
    n.Covers s i ↔ m.Covers s i := by
  rw [Covers, Covers, holds_congr size]

/-- A byte behind some stores is the one that was stored there last. -/
theorem getElem?_fillAll (m : Memory) (stores : List (Word × ByteArray)) (i : Nat) :
    (m.fillAll stores).bytes[i]? = m.byteAfter stores i := by
  -- The last store decides first, so the induction is from the end.
  induction stores using List.reverseRecOn with
  | nil => rfl
  | append_singleton stores s ih =>
    have last : m.fillAll (stores ++ [s]) = (m.fillAll stores).fill s.1 s.2 := by
      rw [fillAll, List.foldl_append]
      rfl
    rw [last, getElem?_fill, ih]
    simp only [covers_congr (size_fillAll ..), byteAfter, List.findRev?_eq_find?_reverse,
      List.reverse_append, List.reverse_singleton, List.singleton_append, List.find?_cons]
    by_cases covers : m.Covers s i
    · simp [covers]
    · simp [covers]

/-- A load inside memory delivers the bytes that are there. -/
theorem exists_load_eq_ok {length : Word} (h : m.Holds a length.toNat) :
    ∃ data, m.load a length = .ok data ∧ data.size = length.toNat ∧
      ∀ i < length.toNat, data[i]? = m.bytes[a.toNat + i]? := by
  refine ⟨_, load_eq_ok_iff.mpr ⟨h, rfl⟩, h.size_window, fun i lt => ?_⟩
  rw [Bytes.getElem?_toList, Bytes.toList_window, List.getElem?_take_of_lt lt, List.getElem?_drop,
    ← Bytes.getElem?_toList]

/-! ### Strings -/

/-- A string is found where its bytes and a zero byte lie in memory, if none of its own is zero. -/
theorem holdsString_iff :
    m.HoldsString a text ↔
      0 ∉ text.data.toList ∧ text.data.toList ++ [0] <+: m.contents.drop a.toNat := by
  have length := Bytes.length_toList text
  constructor
  · rintro ⟨-, window_eq, nonzero, ended⟩
    have bytes : (m.contents.drop a.toNat).take text.size = text.data.toList := by
      rw [contents, ← Bytes.toList_window, window_eq]
    constructor
    · -- A zero byte among its own would end the string before.
      intro zero
      obtain ⟨i, lt, zero⟩ := List.mem_iff_getElem.mp zero
      have found : m.contents[a.toNat + i]? = some 0 := by
        rw [← List.getElem?_drop, ← List.getElem?_take_of_lt (length ▸ lt), bytes, ← zero]
        exact List.getElem?_eq_getElem lt
      exact nonzero _ (Nat.le_add_right ..) (by omega) (getElem?_contents .. ▸ found)
    · rw [← getElem?_contents] at ended
      obtain ⟨inside, ended⟩ := List.getElem?_eq_some_iff.mp ended
      refine ⟨m.contents.drop (a.toNat + text.size + 1), ?_⟩
      calc text.data.toList ++ [0] ++ m.contents.drop (a.toNat + text.size + 1)
          = text.data.toList ++ m.contents.drop (a.toNat + text.size) := by
            rw [List.drop_eq_getElem_cons inside, ended, List.append_assoc, List.singleton_append]
        _ = m.contents.drop a.toNat := by
            rw [← bytes, ← List.drop_drop, List.take_append_drop]
  · rintro ⟨nonzero, rest, found⟩
    refine .of_getElem? rest (fun i le => ?_) fun byte there zero => nonzero (zero ▸ there)
    rw [← getElem?_contents, ← List.getElem?_drop, ← found, List.append_assoc]
    rfl

/-- No string is found outside memory, and none where only other bytes than zero follow. -/
theorem lacksString_iff :
    m.LacksString a fault ↔
      m.size < a.toNat ∧ fault = .outOfBounds a 0 ∨
        a.toNat ≤ m.size ∧ 0 ∉ m.contents.drop a.toNat ∧ fault = .unterminated a := by
  -- An address from `a` on is a position behind `a`.
  have no_zero : (∀ i, a.toNat ≤ i → m.bytes[i]? ≠ some 0) ↔ 0 ∉ m.contents.drop a.toNat := by
    rw [List.mem_iff_getElem?]
    constructor
    · rintro none ⟨i, zero⟩
      rw [List.getElem?_drop, getElem?_contents] at zero
      exact none _ (Nat.le_add_right ..) zero
    · intro none i le zero
      obtain ⟨j, rfl⟩ := Nat.exists_eq_add_of_le le
      exact none ⟨j, by rw [List.getElem?_drop, getElem?_contents, zero]⟩
  constructor
  · rintro (outside | ⟨inside, none⟩)
    · exact .inl ⟨outside, rfl⟩
    · exact .inr ⟨inside, no_zero.mp none, rfl⟩
  · rintro (⟨outside, rfl⟩ | ⟨inside, none, rfl⟩)
    · exact .outside outside
    · exact .unterminated inside (no_zero.mpr none)

/-! ### Memory as a whole -/

/-- Memory is read as an array of bytes. -/
structure ReadsBytes (m : Memory) : Prop where
  /-- A window in memory is read as it is. -/
  load_eq_ok_iff : ∀ a length data, m.load a length = .ok data ↔
    a.toNat + length.toNat ≤ m.size ∧
      data.data.toList = (m.contents.drop a.toNat).take length.toNat
  load_eq_error_iff : ∀ a length fault, m.load a length = .error fault ↔
    m.size < a.toNat + length.toNat ∧ fault = .outOfBounds a length
  /-- A string is read with the zero byte that ends it, and without any other. -/
  loadString_eq_ok_iff : ∀ a text, m.loadString a = .ok text ↔
    0 ∉ text.data.toList ∧ text.data.toList ++ [0] <+: m.contents.drop a.toNat
  loadString_eq_error_iff : ∀ a fault, m.loadString a = .error fault ↔
    m.size < a.toNat ∧ fault = .outOfBounds a 0 ∨
      a.toNat ≤ m.size ∧ 0 ∉ m.contents.drop a.toNat ∧ fault = .unterminated a

/-- Memory is written as an array of bytes. -/
structure WritesBytes (m : Memory) : Prop where
  exists_store_iff : ∀ a data, (∃ n, m.store a data = .ok n) ↔ a.toNat + data.size ≤ m.size
  store_eq_error_iff : ∀ a data fault, m.store a data = .error fault ↔
    m.size < a.toNat + data.size ∧ fault = .outOfBounds a (UInt64.ofNat data.size)
  /-- A store that fails changes nothing. -/
  unchanged : ∀ a data fault, m.store a data = .error fault → m.fill a data = m
  /-- Behind a store, a window holds what was stored where the windows overlap, and elsewhere what
  it held before. -/
  load_of_store : ∀ a data n, m.store a data = .ok n → n.size = m.size ∧
    ∀ b length, b.toNat + length.toNat ≤ m.size →
      ∃ new old, n.load b length = .ok new ∧ m.load b length = .ok old ∧
        new.size = length.toNat ∧ ∀ i < length.toNat, new[i]? =
          if a.toNat ≤ b.toNat + i ∧ b.toNat + i < a.toNat + data.size then
            data[b.toNat + i - a.toNat]?
          else old[i]?
  /-- The same behind any number of stores, the last one there being the one that counts. -/
  load_fillAll : ∀ stores b length, b.toNat + length.toNat ≤ m.size →
    ∃ new, (m.fillAll stores).load b length = .ok new ∧ new.size = length.toNat ∧
      ∀ i < length.toNat, new[i]? = m.byteAfter stores (b.toNat + i)

/-- Memory holds words by their digits to the base 256, the last digit first. -/
structure SpellsWords (m : Memory) : Prop where
  exists_loadWord_iff : ∀ a, (∃ w, m.loadWord a = .ok w) ↔ a.toNat + 8 ≤ m.size
  loadWord_eq_error_iff : ∀ a fault, m.loadWord a = .error fault ↔
    m.size < a.toNat + 8 ∧ fault = .outOfBounds a 8
  exists_storeWord_iff : ∀ a w, (∃ n, m.storeWord a w = .ok n) ↔ a.toNat + 8 ≤ m.size
  storeWord_eq_error_iff : ∀ a w fault, m.storeWord a w = .error fault ↔
    m.size < a.toNat + 8 ∧ fault = .outOfBounds a 8
  /-- A word that was stored is loaded, and its digits are the bytes of the window. -/
  loadWord_of_storeWord : ∀ a w n, m.storeWord a w = .ok n → n.loadWord a = .ok w ∧
    ∀ i < 8, ∃ byte, n.contents[a.toNat + i]? = some byte ∧ byte.toNat = w.toNat / 256 ^ i % 256

/-- No access wraps around or leaves memory: computed in words, with every sum and every index
checked, it comes to the same. -/
structure NeverWraps (m : Memory) : Prop where
  load_eq : ∀ a length, Guarded.load m a length = some (m.load a length)
  loadString_eq : ∀ a, Guarded.loadString m a = some (m.loadString a)
  loadWord_eq : ∀ a, Guarded.loadWord m a = some (m.loadWord a)
  /-- No byte string is longer than a word can say. -/
  store_eq : ∀ a data, data.size < 2 ^ 64 → Guarded.store m a data = some (m.store a data)
  storeWord_eq : ∀ a w, Guarded.storeWord m a w = some (m.storeWord a w)

theorem readsBytes (m : Memory) : m.ReadsBytes where
  load_eq_ok_iff a length data := by
    rw [Memory.load_eq_ok_iff, contents, ← Bytes.toList_window]
    exact and_congr_right' ⟨fun same => by rw [same], Bytes.ext_toList⟩
  load_eq_error_iff a length fault := by
    rw [Memory.load_eq_error_iff, Holds, Nat.not_le]
  loadString_eq_ok_iff a text := by
    rw [Memory.loadString_eq_ok_iff, holdsString_iff]
  loadString_eq_error_iff a fault := by
    rw [Memory.loadString_eq_error_iff, lacksString_iff]

/-- A store goes through exactly if its window lies in memory. -/
theorem exists_store_iff : (∃ n, m.store a data = .ok n) ↔ m.Holds a data.size :=
  ⟨fun ⟨_, stored⟩ => (store_eq_ok_iff.mp stored).1, exists_store_eq_ok⟩

theorem load_after_store {length : Word} (stored : m.store a data = .ok n)
    (held : m.Holds b length.toNat) :
    ∃ new old, n.load b length = .ok new ∧ m.load b length = .ok old ∧ new.size = length.toNat ∧
      ∀ i < length.toNat, new[i]? =
        if a.toNat ≤ b.toNat + i ∧ b.toNat + i < a.toNat + data.size then
          data[b.toNat + i - a.toNat]?
        else old[i]? := by
  obtain ⟨fits, bytes⟩ := store_eq_ok_iff.mp stored
  rw [Memory.size] at fits
  obtain ⟨new, loaded, size, new_eq⟩ :=
    exists_load_eq_ok ((holds_congr (size_of_store stored)).mpr held)
  obtain ⟨old, loaded', -, old_eq⟩ := exists_load_eq_ok held
  refine ⟨new, old, loaded, loaded', size, fun i lt => ?_⟩
  rw [new_eq i lt, old_eq i lt, bytes, Bytes.getElem?_overlay (by omega)]

theorem load_after_stores {length : Word} (held : m.Holds b length.toNat)
    (stores : List (Word × ByteArray)) :
    ∃ new, (m.fillAll stores).load b length = .ok new ∧ new.size = length.toNat ∧
      ∀ i < length.toNat, new[i]? = m.byteAfter stores (b.toNat + i) := by
  obtain ⟨new, loaded, size, new_eq⟩ :=
    exists_load_eq_ok ((holds_congr (m.size_fillAll stores)).mpr held)
  exact ⟨new, loaded, size, fun i lt => by rw [new_eq i lt, getElem?_fillAll]⟩

theorem writesBytes (m : Memory) : m.WritesBytes where
  exists_store_iff a data := Memory.exists_store_iff
  store_eq_error_iff a data fault := by
    rw [Memory.store_eq_error_iff, Holds, Nat.not_le]
  unchanged a data fault := fill_of_error
  load_of_store a data n stored := ⟨size_of_store stored, fun b length => load_after_store stored⟩
  load_fillAll stores b length held := load_after_stores held stores

/-- A word that was stored lies in memory digit by digit. -/
theorem getElem?_of_storeWord {w : Word} (stored : m.storeWord a w = .ok n) {i : Nat} (lt : i < 8) :
    n.bytes[a.toNat + i]? = some (UInt8.ofNat (w.toNat / 256 ^ i)) := by
  have there : n.bytes[a.toNat + i]? = (Bytes.ofWord w)[i]? := getElem?_of_store stored lt
  rw [there, Bytes.getElem?_ofWord lt]

theorem spellsWords (m : Memory) : m.SpellsWords where
  exists_loadWord_iff a := by
    simp only [loadWord_eq_ok_iff, exists_and_left, exists_eq, and_true]
    rfl
  loadWord_eq_error_iff a fault := by
    rw [Memory.loadWord_eq_error_iff, Holds, Nat.not_le]
  exists_storeWord_iff a w := Memory.exists_store_iff
  storeWord_eq_error_iff a w fault := by
    rw [storeWord, Memory.store_eq_error_iff, Holds, Nat.not_le, Bytes.size_ofWord]
    rfl
  loadWord_of_storeWord a w n stored := by
    refine ⟨Memory.loadWord_of_storeWord stored, fun i lt => ?_⟩
    refine ⟨_, (getElem?_contents ..).trans (getElem?_of_storeWord stored lt), ?_⟩
    exact UInt8.toNat_ofNat'

theorem neverWraps (m : Memory) : m.NeverWraps where
  load_eq := Guarded.load_eq m
  loadString_eq := Guarded.loadString_eq m
  loadWord_eq := Guarded.loadWord_eq m
  store_eq _ _ := Guarded.store_eq
  storeWord_eq := Guarded.storeWord_eq m

/-- Guest memory behaves as an array of bytes at every address. Windows and words are read and
written exactly where they end in memory, and otherwise nothing happens but a fault that names the
window. What is read was stored last, or was there before. A string is read up to the next zero
byte, and the two ways to miss one have a fault each. No end of a window wraps around. -/
theorem behaves_as_bytes (m : Memory) :
    m.ReadsBytes ∧ m.WritesBytes ∧ m.SpellsWords ∧ m.NeverWraps :=
  ⟨m.readsBytes, m.writesBytes, m.spellsWords, m.neverWraps⟩

/-! ### Four bytes

At the end of this memory there is no string, and behind the last address there is none either. Of
two stores the first one fits; the other one would write to the address behind the last. -/

namespace Edge

def memory : Memory := ⟨⟨#[0x61, 0x62, 0, 0x63]⟩, by decide⟩

def stores : List (Word × ByteArray) := [(1, ⟨#[7, 8]⟩), (3, ⟨#[9, 9]⟩)]

end Edge

theorem behaves_as_bytes_edge :
    Edge.memory.loadString 0 = .ok ⟨#[0x61, 0x62]⟩ ∧
      Edge.memory.loadString 4 = .error (.unterminated 4) ∧
      Edge.memory.store 0xffffffffffffffff ⟨#[1]⟩ =
        .error (.outOfBounds 0xffffffffffffffff 1) ∧
      ∃ data, (Edge.memory.fillAll Edge.stores).load 2 2 = .ok data ∧ data[0]? = some 8 ∧
        data[1]? = some 0x63 := by
  obtain ⟨reads, writes, -⟩ := behaves_as_bytes Edge.memory
  have read : Edge.memory.loadString 0 = .ok ⟨#[0x61, 0x62]⟩ :=
    (reads.loadString_eq_ok_iff 0 _).mpr ⟨by decide, [0x63], rfl⟩
  have missed : Edge.memory.loadString 4 = .error (.unterminated 4) :=
    (reads.loadString_eq_error_iff 4 _).mpr (.inr ⟨by decide, by decide, rfl⟩)
  have refused : Edge.memory.store 0xffffffffffffffff ⟨#[1]⟩ =
      .error (.outOfBounds 0xffffffffffffffff 1) :=
    (writes.store_eq_error_iff ..).mpr ⟨by decide, rfl⟩
  obtain ⟨data, loaded, -, bytes⟩ := writes.load_fillAll Edge.stores 2 2 (by decide)
  have first : data[0]? = some 8 := (bytes 0 (by decide)).trans (by decide)
  have second : data[1]? = some 0x63 := (bytes 1 (by decide)).trans (by decide)
  exact ⟨read, missed, refused, data, loaded, first, second⟩

end Memory

end Semihosting
