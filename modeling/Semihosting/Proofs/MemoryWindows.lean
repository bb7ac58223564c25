import Mathlib
import Semihosting.Proofs.GuestMemory
import Semihosting.Proofs.StoredFile

/-!
# What a store leaves where

A store changes the bytes of one window and no others. So what was stored can be loaded again, what
lies in another window, be it bytes or a string, is found there still, and disjoint windows can be
filled in either order.

## Main definitions

* `Memory.Disjoint` — two windows without a common address
* `Memory.AgreesOn` — two memories with the same bytes in a window
* `Memory.fill` — memory with bytes put in place where there is room for them

## Main results

* `Memory.load_of_store`, `Memory.loadWord_of_storeWord` — what was stored is loaded
* `Memory.AgreesOn.of_store` — a store leaves the windows alone that are disjoint to its own
* `Memory.AgreesOn.load_eq`, `Memory.AgreesOn.holdsString` — reading where nothing has changed
* `Memory.fill_comm` — disjoint windows are filled in either order
-/

namespace Semihosting

/-! ### Bytes of windows and overlays -/

namespace Bytes

variable {a b bytes data data' : ByteArray} {start start' length : Nat}

theorem getElem?_toList (bytes : ByteArray) (i : Nat) : bytes[i]? = bytes.data.toList[i]? := by
  rcases Nat.lt_or_ge i bytes.size with inside | outside
  · rw [getElem?_pos bytes i inside, List.getElem?_eq_getElem (by rw [length_toList]; exact inside)]
    rfl
  · rw [getElem?_neg bytes i (Nat.not_lt.mpr outside),
      List.getElem?_eq_none (by rw [length_toList]; exact outside)]

/-- A byte behind an overlay is the one written over it, or the old one. -/
theorem getElem?_overlay (inside : start ≤ bytes.size) (i : Nat) :
    (overlay bytes start data)[i]? =
      if start ≤ i ∧ i < start + data.size then data[i - start]? else bytes[i]? := by
  have length : (bytes.data.toList.take start).length = start := by
    rw [List.length_take_of_le (by rw [length_toList]; exact inside)]
  rw [getElem?_toList, toList_overlay, Nat.sub_eq_zero_of_le inside, List.replicate_zero,
    List.append_nil, List.getElem?_append, length]
  split
  · next before => rw [if_neg (by omega), getElem?_toList, List.getElem?_take_of_lt before]
  · next behind =>
    rw [List.getElem?_append, length_toList]
    split
    · next within => rw [if_pos (by omega), getElem?_toList]
    · next beyond =>
      rw [if_neg (by omega), getElem?_toList, List.getElem?_drop]
      congr 1
      omega

/-- Bytes laid over disjoint windows end up the same in either order. -/
theorem overlay_comm (inside : start + data.size ≤ bytes.size)
    (inside' : start' + data'.size ≤ bytes.size)
    (apart : ∀ i, start ≤ i → i < start + data.size → start' ≤ i → ¬ i < start' + data'.size) :
    overlay (overlay bytes start data) start' data' =
      overlay (overlay bytes start' data') start data := by
  have size : (overlay bytes start data).size = bytes.size := by
    rw [size_overlay, Nat.max_eq_left inside]
  have size' : (overlay bytes start' data').size = bytes.size := by
    rw [size_overlay, Nat.max_eq_left inside']
  apply ext_toList
  apply List.ext_getElem?
  intro i
  rw [← getElem?_toList, ← getElem?_toList, getElem?_overlay (by omega),
    getElem?_overlay (by omega), getElem?_overlay (by omega), getElem?_overlay (by omega)]
  by_cases first : start ≤ i ∧ i < start + data.size
  · have other : ¬ (start' ≤ i ∧ i < start' + data'.size) := fun second =>
      apart i first.1 first.2 second.1 second.2
    rw [if_neg other, if_pos first, if_pos first]
  · rw [if_neg first, if_neg first]

/-- A window is made of the bytes between two positions. -/
theorem window_congr (same : ∀ i, start ≤ i → i < start + length → a[i]? = b[i]?) :
    window a start length = window b start length := by
  apply ext_toList
  rw [toList_window, toList_window]
  apply List.ext_getElem?
  intro i
  rcases Nat.lt_or_ge i length with inside | outside
  · rw [List.getElem?_take_of_lt inside, List.getElem?_take_of_lt inside, List.getElem?_drop,
      List.getElem?_drop, ← getElem?_toList, ← getElem?_toList]
    exact same _ (by omega) (by omega)
  · rw [List.getElem?_take_eq_none outside, List.getElem?_take_eq_none outside]

/-! ### Words -/

/-- The number spelled by the last digits to the base 256. -/
theorem foldr_digits (count number : Nat) :
    (digits count number).foldr (fun byte rest => byte.toNat + 256 * rest) 0 =
      number % 256 ^ count := by
  induction count generalizing number with
  | zero => simp [digits, Nat.mod_one]
  | succ count ih =>
    rw [digits, List.foldr_cons, ih, UInt8.toNat_ofNat', Nat.pow_succ' (m := 256), Nat.mod_mul]

/-- The bytes of a word spell it. -/
theorem toWord_ofWord (w : Word) : toWord (ofWord w) = w := by
  have small : w.toNat % 256 ^ 8 = w.toNat := Nat.mod_eq_of_lt w.toNat_lt
  rw [toWord, ofWord, foldr_digits, small, UInt64.ofNat_toNat]

end Bytes

namespace Memory

variable {m n : Memory} {a b : Word} {length length' : Nat} {data data' text : ByteArray}

/-! ### What was stored -/

/-- What was stored can be loaded from where it is. -/
theorem load_of_store (h : m.store a data = .ok n) :
    n.load a (UInt64.ofNat data.size) = .ok data := by
  have size := size_of_store h
  obtain ⟨inside, bytes⟩ := store_eq_ok_iff.mp h
  have small : (UInt64.ofNat data.size).toNat = data.size := by
    rw [Memory.size] at inside
    exact UInt64.toNat_ofNat_of_lt (Nat.lt_of_le_of_lt (by omega) m.size_lt)
  rw [load_eq_ok_iff, small, size, bytes, Bytes.window_overlay]
  exact ⟨inside, rfl⟩

theorem loadWord_of_storeWord {w : Word} (h : m.storeWord a w = .ok n) : n.loadWord a = .ok w := by
  have loaded : n.load a 8 = .ok (Bytes.ofWord w) := load_of_store h
  rw [loadWord, loaded, Except.map, Bytes.toWord_ofWord]

/-- Bytes can be stored wherever there is room for them. -/
theorem exists_store_eq_ok (h : m.Holds a data.size) : ∃ n, m.store a data = .ok n := by
  cases stored : m.store a data with
  | ok n => exact ⟨n, rfl⟩
  | error fault => exact absurd h (store_eq_error_iff.mp stored).1

/-- A stored byte is found where it was stored. -/
theorem getElem?_of_store (h : m.store a data = .ok n) {i : Nat} (lt : i < data.size) :
    n.bytes[a.toNat + i]? = data[i]? := by
  obtain ⟨inside, bytes⟩ := store_eq_ok_iff.mp h
  rw [Memory.size] at inside
  rw [bytes, Bytes.getElem?_overlay (by omega), if_pos (by omega), Nat.add_sub_cancel_left]

/-- A string is found where its bytes and a zero byte are. -/
theorem HoldsString.of_getElem? (rest : List UInt8)
    (found : ∀ i, i ≤ text.size → m.bytes[a.toNat + i]? = (text.data.toList ++ 0 :: rest)[i]?)
    (nonzero : ∀ b ∈ text.data.toList, b ≠ 0) : m.HoldsString a text := by
  have length := Bytes.length_toList text
  have ended : m.bytes[a.toNat + text.size]? = some 0 := by
    rw [found _ (Nat.le_refl _), List.getElem?_append_right (Nat.le_of_eq length), length,
      Nat.sub_self]
    rfl
  have inside := Bytes.lt_size_of_getElem?_eq_some ended
  have byte {i : Nat} (lt : i < text.size) : m.bytes[a.toNat + i]? = text.data.toList[i]? := by
    rw [found i (Nat.le_of_lt lt), List.getElem?_append_left (by omega)]
  refine ⟨Nat.le_of_lt inside, ?_, fun i from_le lt => ?_, ended⟩
  · apply Bytes.ext_toList
    rw [Bytes.toList_window]
    apply List.ext_getElem?
    intro i
    rcases Nat.lt_or_ge i text.size with lt | ge
    · rw [List.getElem?_take_of_lt lt, List.getElem?_drop, ← Bytes.getElem?_toList, byte lt]
    · rw [List.getElem?_take_eq_none ge, List.getElem?_eq_none (by omega)]
  · obtain ⟨j, rfl⟩ := Nat.exists_eq_add_of_le from_le
    rw [byte (by omega)]
    intro zero
    exact nonzero 0 (List.mem_of_getElem? zero) rfl

/-! ### What was not -/

/-- Two windows have no address in common. -/
def Disjoint (a : Word) (length : Nat) (b : Word) (length' : Nat) : Prop :=
  ∀ i, a.toNat ≤ i → i < a.toNat + length → b.toNat ≤ i → ¬ i < b.toNat + length'

/-- A window that ends before another one begins. -/
theorem Disjoint.of_le {length' : Nat} (h : a.toNat + length ≤ b.toNat) :
    Disjoint a length b length' := by
  intro i _ lt from_le _
  omega

theorem Disjoint.symm (h : Disjoint a length b length') : Disjoint b length' a length :=
  fun i from_le lt from_le' lt' => h i from_le' lt' from_le lt

theorem Disjoint.mono {n n' : Nat} (h : Disjoint a length b length') (le : n ≤ length)
    (le' : n' ≤ length') : Disjoint a n b n' :=
  fun i from_le lt from_le' lt' => h i from_le (by omega) from_le' (by omega)

/-- Two memories of one size have the same bytes in a window. -/
structure AgreesOn (m n : Memory) (address : Word) (length : Nat) : Prop where
  size_eq : n.size = m.size
  getElem?_eq : ∀ i, address.toNat ≤ i → i < address.toNat + length → n.bytes[i]? = m.bytes[i]?

theorem AgreesOn.trans {l : Memory} (first : l.AgreesOn m a length)
    (second : m.AgreesOn n a length) :
    l.AgreesOn n a length :=
  ⟨second.size_eq.trans first.size_eq,
    fun i from_le lt => (second.getElem?_eq i from_le lt).trans (first.getElem?_eq i from_le lt)⟩

theorem AgreesOn.mono {length' : Nat} (agrees : m.AgreesOn n a length) (le : a.toNat ≤ b.toNat)
    (inside : b.toNat + length' ≤ a.toNat + length) : m.AgreesOn n b length' :=
  ⟨agrees.size_eq, fun i from_le lt => agrees.getElem?_eq i (by omega) (by omega)⟩

/-- A store changes its own window at most. -/
theorem AgreesOn.of_store (h : m.store a data = .ok n) (apart : Disjoint b length a data.size) :
    m.AgreesOn n b length := by
  refine ⟨size_of_store h, fun i from_le lt => ?_⟩
  obtain ⟨inside, bytes⟩ := store_eq_ok_iff.mp h
  rw [Memory.size] at inside
  have other : ¬ (a.toNat ≤ i ∧ i < a.toNat + data.size) := fun there =>
    apart i from_le lt there.1 there.2
  rw [bytes, Bytes.getElem?_overlay (by omega), if_neg other]

theorem AgreesOn.load_eq {w : Word} (agrees : m.AgreesOn n a w.toNat) :
    n.load a w = m.load a w := by
  rw [load, load, agrees.size_eq, Bytes.window_congr agrees.getElem?_eq]

/-- A string is found where neither it nor the zero byte behind it was changed. -/
theorem AgreesOn.holdsString (agrees : m.AgreesOn n a (text.size + 1))
    (holds : m.HoldsString a text) : n.HoldsString a text := by
  obtain ⟨inside, window_eq, nonzero, ended⟩ := holds
  refine ⟨?_, ?_, fun i from_le lt => ?_, ?_⟩
  · rw [Holds, agrees.size_eq]
    exact inside
  · rw [Bytes.window_congr fun i from_le lt => agrees.getElem?_eq i from_le (by omega)]
    exact window_eq
  · rw [agrees.getElem?_eq i from_le (by omega)]
    exact nonzero i from_le lt
  · rw [agrees.getElem?_eq _ (by omega) (by omega)]
    exact ended

/-- A string below an address is found where nothing was changed below the address. -/
theorem HoldsString.of_agreesOn {top : Nat} (holds : m.HoldsString a text)
    (agrees : m.AgreesOn n 0 top) (below : a.toNat + text.size < top) : n.HoldsString a text :=
  (agrees.mono (Nat.zero_le _) (by rw [UInt64.toNat_zero]; omega)).holdsString holds

/-! ### What fits -/

/-- The memory with some bytes put in place, if there is room for them. -/
def fill (m : Memory) (address : Word) (data : ByteArray) : Memory :=
  match m.store address data with
  | .ok filled => filled
  | .error _ => m

theorem size_fill (m : Memory) (address : Word) (data : ByteArray) :
    (m.fill address data).size = m.size := by
  unfold fill
  split
  · next stored => exact size_of_store stored
  · rfl

theorem bytes_fill (m : Memory) (a : Word) (data : ByteArray) :
    (m.fill a data).bytes =
      if m.Holds a data.size then Bytes.overlay m.bytes a.toNat data else m.bytes := by
  unfold fill
  split
  · next stored =>
    obtain ⟨held, bytes⟩ := store_eq_ok_iff.mp stored
    exact bytes.trans (if_pos held).symm
  · next stored => rw [if_neg (store_eq_error_iff.mp stored).1]

/-- Whether there is room for bytes does not depend on what memory holds. -/
theorem holds_congr (size : n.size = m.size) : n.Holds a length ↔ m.Holds a length := by
  rw [Holds, Holds, size]

/-- Disjoint windows can be filled in either order. -/
theorem fill_comm (apart : Disjoint a data.size b data'.size) :
    (m.fill a data).fill b data' = (m.fill b data').fill a data := by
  have bytes : ((m.fill a data).fill b data').bytes = ((m.fill b data').fill a data).bytes := by
    rw [bytes_fill, bytes_fill, bytes_fill, bytes_fill]
    simp only [holds_congr (size_fill ..)]
    by_cases held : m.Holds a data.size
    · by_cases held' : m.Holds b data'.size
      · simp only [if_pos held, if_pos held']
        exact Bytes.overlay_comm held held' apart
      · simp only [if_pos held, if_neg held']
    · simp only [if_neg held]
  generalize (m.fill a data).fill b data' = left at bytes ⊢
  generalize (m.fill b data').fill a data = right at bytes ⊢
  cases left
  cases right
  cases bytes
  rfl

/-- Filling one window changes no other one that is disjoint. -/
theorem agreesOn_fill (apart : Disjoint b length a data.size) :
    m.AgreesOn (m.fill a data) b length := by
  unfold fill
  split
  · next stored => exact .of_store stored apart
  · exact ⟨rfl, fun _ _ _ => rfl⟩

end Memory

end Semihosting
