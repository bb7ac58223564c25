import Semihosting.Machine.Memory

/-!
# Windows and strings in guest memory

A call names guest memory by window, an address with a length, or by string, an address with a zero
byte somewhere behind it. This module says when such a name means something, sums being taken in
the natural numbers, and that the accesses of `Memory` succeed exactly then.

## Main definitions

* `Memory.Holds` — a window lies in memory
* `Memory.HoldsString` — a string lies in memory, with the zero byte that ends it
* `Memory.LacksString` — no string begins at an address, and the fault that says why

## Main results

* `Memory.loadString_eq_ok_iff`, `Memory.loadString_eq_error_iff` — reading a string succeeds
  exactly where there is one, and the fault names the reason
* `Memory.load_eq_error_iff`, `Memory.store_eq_error_iff` — a window faults exactly outside memory
-/

namespace Semihosting

namespace Bytes

variable {bytes : ByteArray} {start stop count : Nat}

/-! ### The first zero byte -/

theorem zeroWithin?_eq_some_iff :
    zeroWithin? bytes start count = some stop ↔
      start ≤ stop ∧ stop < start + count ∧ bytes[stop]? = some 0 ∧
        ∀ i, start ≤ i → i < stop → bytes[i]? ≠ some 0 := by
  induction count generalizing start with
  | zero =>
    constructor
    · intro h
      cases h
    · rintro ⟨hle, hlt, -, -⟩
      omega
  | succ count ih =>
    unfold zeroWithin?
    split
    · next hzero =>
      rw [Option.some_inj]
      constructor
      · rintro rfl
        -- The search stops at once, and there is nothing before the stop.
        exact ⟨Nat.le_refl _, by omega, hzero, fun i _ _ => by omega⟩
      · rintro ⟨hle, -, -, hfirst⟩
        rcases Nat.eq_or_lt_of_le hle with rfl | hlt
        · rfl
        · exact absurd hzero (hfirst start (Nat.le_refl _) hlt)
    · next hzero =>
      rw [ih]
      constructor
      · rintro ⟨hle, hlt, hstop, hfirst⟩
        refine ⟨by omega, by omega, hstop, fun i hi hlt => ?_⟩
        rcases Nat.eq_or_lt_of_le hi with rfl | hi
        · exact hzero
        · exact hfirst i hi hlt
      · rintro ⟨hle, hlt, hstop, hfirst⟩
        -- The first byte is no zero byte, so the stop lies behind it.
        have hne : start ≠ stop := fun h => hzero (h ▸ hstop)
        exact ⟨by omega, by omega, hstop, fun i hi => hfirst i (by omega)⟩

theorem zeroWithin?_eq_none_iff :
    zeroWithin? bytes start count = none ↔
      ∀ i, start ≤ i → i < start + count → bytes[i]? ≠ some 0 := by
  induction count generalizing start with
  | zero => simp [zeroWithin?]; omega
  | succ count ih =>
    unfold zeroWithin?
    split
    · next hzero => simpa using ⟨start, Nat.le_refl _, by omega, hzero⟩
    · next hzero =>
      rw [ih]
      constructor
      · intro hnone i hi hlt
        -- The first byte was looked at, and the rest of the search covers the others.
        rcases Nat.eq_or_lt_of_le hi with rfl | hi
        · exact hzero
        · exact hnone i hi (by omega)
      · intro hnone i hi hlt
        exact hnone i (by omega) (by omega)

/-- A byte beyond the end is no zero byte. -/
theorem lt_size_of_getElem?_eq_some {i : Nat} {b : UInt8} (h : bytes[i]? = some b) :
    i < bytes.size := by
  rcases Nat.lt_or_ge i bytes.size with hlt | hge
  · exact hlt
  · rw [getElem?_neg bytes i (Nat.not_lt.mpr hge)] at h
    cases h

theorem firstZero?_eq_some_iff :
    firstZero? bytes start = some stop ↔
      start ≤ stop ∧ bytes[stop]? = some 0 ∧
        ∀ i, start ≤ i → i < stop → bytes[i]? ≠ some 0 := by
  rw [firstZero?, zeroWithin?_eq_some_iff]
  constructor
  · rintro ⟨hle, -, hstop, hfirst⟩
    exact ⟨hle, hstop, hfirst⟩
  · rintro ⟨hle, hstop, hfirst⟩
    -- A zero byte lies inside the bytes, so the search reaches it.
    have hlt := lt_size_of_getElem?_eq_some hstop
    exact ⟨hle, by omega, hstop, hfirst⟩

theorem firstZero?_eq_none_iff :
    firstZero? bytes start = none ↔ ∀ i, start ≤ i → bytes[i]? ≠ some 0 := by
  rw [firstZero?, zeroWithin?_eq_none_iff]
  constructor
  · intro hnone i hi hzero
    have hlt := lt_size_of_getElem?_eq_some hzero
    exact hnone i hi (by omega) hzero
  · intro hnone i hi _
    exact hnone i hi

end Bytes

namespace Memory

variable {m : Memory} {address length : Word} {data text : ByteArray} {fault : Fault}

/-! ### Windows -/

/-- The `length` bytes from `address` on lie in memory. -/
def Holds (m : Memory) (address : Word) (length : Nat) : Prop :=
  address.toNat + length ≤ m.size

instance (length : Nat) : Decidable (m.Holds address length) := Nat.decLe _ _

/-- A window that lies in memory is as long as it was asked to be. -/
theorem Holds.size_window {length : Nat} (held : m.Holds address length) :
    (Bytes.window m.bytes address.toNat length).size = length := by
  unfold Holds size at held
  rw [Bytes.size_window]
  omega

/-- A load faults exactly outside memory, and names the window. -/
theorem load_eq_error_iff :
    m.load address length = .error fault ↔
      ¬ m.Holds address length.toNat ∧ fault = .outOfBounds address length := by
  unfold load Holds
  split
  · next h => simp [h]
  · next h => simp [h, eq_comm]

/-- A store faults exactly outside memory, and names the window. -/
theorem store_eq_error_iff :
    m.store address data = .error fault ↔
      ¬ m.Holds address data.size ∧ fault = .outOfBounds address (UInt64.ofNat data.size) := by
  unfold store Holds size
  split
  · next h => simp [h]
  · next h => simp [h, eq_comm]

/-- A store leaves the size of memory as it is. -/
theorem size_of_store {n : Memory} (h : m.store address data = .ok n) : n.size = m.size := by
  rw [store_eq_ok_iff] at h
  rw [size, h.2, Bytes.size_overlay]
  exact Nat.max_eq_left h.1

/-! ### Strings -/

/-- The bytes of `text`, none of them zero, lie at `address` with a zero byte behind them. -/
structure HoldsString (m : Memory) (address : Word) (text : ByteArray) : Prop where
  /-- The bytes lie in memory. -/
  holds : m.Holds address text.size
  /-- The bytes are those of the text. -/
  window_eq : Bytes.window m.bytes address.toNat text.size = text
  /-- None of them is zero. -/
  nonzero : ∀ i, address.toNat ≤ i → i < address.toNat + text.size → m.bytes[i]? ≠ some 0
  /-- The byte behind them is zero. -/
  ended : m.bytes[address.toNat + text.size]? = some 0

/-- No string begins at an address: the address lies outside memory, or no zero byte follows. -/
inductive LacksString (m : Memory) (address : Word) : Fault → Prop
  | outside : m.size < address.toNat → LacksString m address (.outOfBounds address 0)
  | unterminated : address.toNat ≤ m.size →
      (∀ i, address.toNat ≤ i → m.bytes[i]? ≠ some 0) →
      LacksString m address (.unterminated address)

/-- Reading a string succeeds exactly where there is one. -/
theorem loadString_eq_ok_iff :
    m.loadString address = .ok text ↔ m.HoldsString address text := by
  unfold loadString
  split
  · next inside =>
    cases found : Bytes.firstZero? m.bytes address.toNat with
    | none =>
      rw [Bytes.firstZero?_eq_none_iff] at found
      constructor
      · intro h
        cases h
      · intro h
        exact absurd h.ended (found _ (by omega))
    | some stop =>
      rw [Bytes.firstZero?_eq_some_iff] at found
      obtain ⟨hle, hstop, hfirst⟩ := found
      have hlt := Bytes.lt_size_of_getElem?_eq_some hstop
      have hsize : (Bytes.window m.bytes address.toNat (stop - address.toNat)).size =
          stop - address.toNat := by
        rw [Bytes.size_window]
        omega
      simp only [Except.ok.injEq]
      constructor
      · rintro rfl
        refine ⟨?_, ?_, fun i hi hlt => hfirst i hi (by omega), ?_⟩
        · unfold Holds size
          omega
        · rw [hsize]
        · rw [hsize, Nat.add_sub_cancel' hle]
          exact hstop
      · intro h
        -- Both zero bytes are the first one at or behind the address.
        have hend : address.toNat + text.size = stop := by
          rcases Nat.lt_trichotomy (address.toNat + text.size) stop with hl | he | hg
          · exact absurd h.ended (hfirst _ (by omega) hl)
          · exact he
          · exact absurd hstop (h.nonzero _ hle hg)
        rw [← hend, Nat.add_sub_cancel_left]
        exact h.window_eq
  · next outside =>
    constructor
    · intro h
      cases h
    · intro h
      have hholds := h.holds
      unfold Holds at hholds
      omega

/-- Reading a string faults exactly where there is none, and the fault says why. -/
theorem loadString_eq_error_iff :
    m.loadString address = .error fault ↔ m.LacksString address fault := by
  unfold loadString
  split
  · next inside =>
    cases found : Bytes.firstZero? m.bytes address.toNat with
    | none =>
      rw [Bytes.firstZero?_eq_none_iff] at found
      constructor
      · intro h
        cases h
        exact .unterminated inside found
      · rintro (outside | -)
        · omega
        · rfl
    | some stop =>
      rw [Bytes.firstZero?_eq_some_iff] at found
      constructor
      · intro h
        cases h
      · rintro (outside | ⟨-, none⟩)
        · omega
        · exact absurd found.2.1 (none stop found.1)
  · next outside =>
    constructor
    · intro h
      cases h
      exact .outside (by omega)
    · rintro (- | inside)
      · rfl
      · omega

/-- At every address there is a string or there is none. -/
theorem holdsString_or_lacksString (m : Memory) (address : Word) :
    (∃ text, m.HoldsString address text) ∨ ∃ fault, m.LacksString address fault := by
  cases h : m.loadString address with
  | ok text => exact Or.inl ⟨text, loadString_eq_ok_iff.mp h⟩
  | error fault => exact Or.inr ⟨fault, loadString_eq_error_iff.mp h⟩

/-! ### Words -/

/-- A word can be read exactly if its eight bytes lie in memory. -/
theorem loadWord_eq_error_iff :
    m.loadWord address = .error fault ↔
      ¬ m.Holds address 8 ∧ fault = .outOfBounds address 8 := by
  unfold loadWord
  cases h : m.load address 8 with
  | ok bytes =>
    rw [load_eq_ok_iff] at h
    have hholds : m.Holds address 8 := h.1
    simp [Except.map, hholds]
  | error reason =>
    rw [load_eq_error_iff] at h
    have houtside : ¬ m.Holds address 8 := h.1
    simp [Except.map, houtside, h.2, eq_comm]

theorem loadWord_eq_ok_iff {w : Word} :
    m.loadWord address = .ok w ↔
      m.Holds address 8 ∧ w = Bytes.toWord (Bytes.window m.bytes address.toNat 8) := by
  unfold loadWord
  cases h : m.load address 8 with
  | ok bytes =>
    rw [load_eq_ok_iff] at h
    have hholds : m.Holds address 8 := h.1
    have hbytes : bytes = Bytes.window m.bytes address.toNat 8 := h.2
    simp [Except.map, hholds, hbytes, eq_comm]
  | error reason =>
    rw [load_eq_error_iff] at h
    have houtside : ¬ m.Holds address 8 := h.1
    simp [Except.map, houtside]

/-- A word can be stored wherever its eight bytes lie in memory. -/
theorem exists_storeWord_eq_ok (h : m.Holds address 8) (w : Word) :
    ∃ n, m.storeWord address w = .ok n := by
  cases stored : m.storeWord address w with
  | ok n => exact ⟨n, rfl⟩
  | error fault => exact absurd h (store_eq_error_iff.mp stored).1

end Memory

end Semihosting
