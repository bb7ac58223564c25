import Semihosting.Bytes
import Semihosting.Fault

/-!
# Guest memory

One region of bytes from address 0 on. An access names its window by address and length and fails
as a whole if the window leaves the memory, sums being taken without wrapping around.

## Main definitions

* `Memory` — the bytes, fewer than there are words
* `Memory.load`, `Memory.store` — a window of bytes
* `Memory.loadString` — the bytes before the next zero byte
* `Memory.loadWord`, `Memory.storeWord` — a little-endian word

## Main results

* `Memory.load_eq_ok_iff`, `Memory.store_eq_ok_iff` — when an access succeeds, and with what
-/

namespace Semihosting

/-- Guest memory. -/
structure Memory where
  bytes : ByteArray
  /-- Every address is a word. -/
  size_lt : bytes.size < 0x10000000000000000
deriving DecidableEq

namespace Memory

/-- Four mebibytes, the memory of a guest that asks for no other size. -/
def defaultSize : Word := 4 * 1024 * 1024

/-- Zeroed memory of a given size. -/
def blank (size : Word) : Memory :=
  ⟨Bytes.zeros size.toNat, by rw [Bytes.size_zeros]; exact size.toNat_lt⟩

/-- The number of bytes. -/
def size (m : Memory) : Nat := m.bytes.size

/-- The `length` bytes from `address` on. -/
def load (m : Memory) (address length : Word) : Except Fault ByteArray :=
  if address.toNat + length.toNat ≤ m.size then
    .ok (Bytes.window m.bytes address.toNat length.toNat)
  else .error (.outOfBounds address length)

/-- The memory with `data` at `address`. -/
@[inline] def store (m : Memory) (address : Word) (data : ByteArray) : Except Fault Memory :=
  if h : address.toNat + data.size ≤ m.bytes.size then
    .ok ⟨Bytes.overlay m.bytes address.toNat data, by
      rw [Bytes.size_overlay, Nat.max_eq_left h]
      exact m.size_lt⟩
  else .error (.outOfBounds address (UInt64.ofNat data.size))

/-- The bytes from `address` up to the next zero byte. -/
def loadString (m : Memory) (address : Word) : Except Fault ByteArray :=
  if address.toNat ≤ m.size then
    match Bytes.firstZero? m.bytes address.toNat with
    | some stop => .ok (Bytes.window m.bytes address.toNat (stop - address.toNat))
    | none => .error (.unterminated address)
  else .error (.outOfBounds address 0)

/-- The word at `address`. -/
def loadWord (m : Memory) (address : Word) : Except Fault Word :=
  (m.load address 8).map Bytes.toWord

/-- The memory with a word at `address`. -/
def storeWord (m : Memory) (address w : Word) : Except Fault Memory :=
  m.store address (Bytes.ofWord w)

@[simp] theorem size_blank (size : Word) : (blank size).size = size.toNat :=
  Bytes.size_zeros _

/-- A load succeeds exactly inside memory, and then reads the window. -/
theorem load_eq_ok_iff {m : Memory} {address length : Word} {data : ByteArray} :
    m.load address length = .ok data ↔
      address.toNat + length.toNat ≤ m.size ∧
        data = Bytes.window m.bytes address.toNat length.toNat := by
  unfold load
  split
  · next h => simp [h, eq_comm]
  · next h => simp [h]

/-- A store succeeds exactly inside memory, and then overlays the window. -/
theorem store_eq_ok_iff {m n : Memory} {address : Word} {data : ByteArray} :
    m.store address data = .ok n ↔
      address.toNat + data.size ≤ m.size ∧
        n.bytes = Bytes.overlay m.bytes address.toNat data := by
  unfold store
  split
  · next h =>
    obtain ⟨bytes, small⟩ := n
    simp [size, h, eq_comm]
  · next h => simp [size, h]

end Memory

end Semihosting
