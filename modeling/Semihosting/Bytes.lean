import Semihosting.Word

/-!
# Byte strings

File contents, guest memory and transferred data are byte strings. This module holds the few
operations on them that the rest of the library is built from; each is pinned down by its list of
bytes, `ByteArray.data.toList`.

## Main definitions

* `Bytes.zeros` — a run of zero bytes
* `Bytes.window` — the part of a byte string between two positions
* `Bytes.overlay` — a byte string with another one written over it
* `Bytes.firstZero?` — the first zero byte at or after a position
* `Bytes.ofWord`, `Bytes.toWord` — little-endian words
-/

namespace Semihosting.Bytes

/-- Byte strings are compared as they are by the core library, whatever else is imported. -/
instance (priority := high) decidableEq : DecidableEq ByteArray := ByteArray.instDecidableEq

/-! ### Zero bytes

Guest memory starts out as zeros by the mebibyte, so a long run is put together from blocks, each
behind those that are there. -/

/-- A block of 4096 zero bytes. -/
def zeroBlock : ByteArray := ⟨Array.replicate 4096 0⟩

/-- Byte strings with so many blocks of zero bytes behind them. -/
def addZeroBlocks : Nat → ByteArray → ByteArray
  | 0, bytes => bytes
  | count + 1, bytes => addZeroBlocks count (bytes ++ zeroBlock)

/-- `count` zero bytes, put together from whole blocks and a remainder. -/
def zeros (count : Nat) : ByteArray :=
  addZeroBlocks (count / 4096) .empty ++ ⟨Array.replicate (count % 4096) 0⟩

theorem toList_addZeroBlocks (count : Nat) (bytes : ByteArray) :
    (addZeroBlocks count bytes).data.toList =
      bytes.data.toList ++ List.replicate (4096 * count) 0 := by
  induction count generalizing bytes with
  | zero => exact (List.append_nil _).symm
  | succ count ih =>
    rw [addZeroBlocks, ih, zeroBlock, ByteArray.data_append, Array.toList_append,
      Array.toList_replicate, List.append_assoc, List.replicate_append_replicate, Nat.add_comm 4096,
      ← Nat.mul_succ]

@[simp] theorem toList_zeros (count : Nat) :
    (zeros count).data.toList = List.replicate count 0 := by
  rw [zeros, ByteArray.data_append, Array.toList_append, toList_addZeroBlocks,
    Array.toList_replicate, List.append_assoc, List.replicate_append_replicate, Nat.div_add_mod]
  rfl

@[simp] theorem size_zeros (count : Nat) : (zeros count).size = count := by
  rw [← ByteArray.size_data, ← Array.length_toList, toList_zeros, List.length_replicate]

/-! ### Windows -/

/-- The `length` bytes of `bytes` from position `start` on, cut short at the end. -/
def window (bytes : ByteArray) (start length : Nat) : ByteArray :=
  bytes.extract start (start + length)

@[simp] theorem toList_window (bytes : ByteArray) (start length : Nat) :
    (window bytes start length).data.toList = (bytes.data.toList.drop start).take length := by
  simp [window, ByteArray.data_extract, Array.toList_extract, List.extract_eq_take_drop]

@[simp] theorem size_window (bytes : ByteArray) (start length : Nat) :
    (window bytes start length).size = min length (bytes.size - start) := by
  simp [window]
  omega

/-- `bytes` padded with zeros up to `length`, if it is shorter. -/
def padTo (bytes : ByteArray) (length : Nat) : ByteArray :=
  if bytes.size < length then bytes ++ zeros (length - bytes.size) else bytes

/-- `data` written over `bytes` from position `start` on. A gap between the end of `bytes` and
`start` becomes zeros, and the bytes behind the written window stay. -/
def overlay (bytes : ByteArray) (start : Nat) (data : ByteArray) : ByteArray :=
  data.copySlice 0 (padTo bytes start) start data.size false

@[simp] theorem toList_padTo (bytes : ByteArray) (length : Nat) :
    (padTo bytes length).data.toList =
      bytes.data.toList ++ List.replicate (length - bytes.size) 0 := by
  unfold padTo
  split
  · simp
  · rw [Nat.sub_eq_zero_of_le (by omega), List.replicate_zero, List.append_nil]

@[simp] theorem size_padTo (bytes : ByteArray) (length : Nat) :
    (padTo bytes length).size = max bytes.size length := by
  unfold padTo
  split
  · rw [ByteArray.size_append, size_zeros]
    omega
  · omega

/-- An overlay in three parts: what lies before the window, the data, what lies behind it. -/
@[simp] theorem toList_overlay (bytes : ByteArray) (start : Nat) (data : ByteArray) :
    (overlay bytes start data).data.toList =
      (bytes.data.toList ++ List.replicate (start - bytes.size) 0).take start ++
        (data.data.toList ++ bytes.data.toList.drop (start + data.size)) := by
  have pad : (List.replicate (start - bytes.size) (0 : UInt8)).drop
      (start + data.size - bytes.data.toList.length) = [] := by
    simp [List.drop_replicate, ByteArray.size_data]
    omega
  simp only [overlay, ByteArray.copySlice, Array.toList_append, Array.toList_extract,
    toList_padTo, List.extract_eq_take_drop, Nat.zero_add, Nat.sub_zero, List.drop_zero,
    ByteArray.size_data, Nat.min_self, List.append_assoc]
  congr 1
  rw [List.take_of_length_le (by simp [ByteArray.size_data])]
  congr 1
  rw [List.take_of_length_le (by simp; omega), List.drop_append, pad, List.append_nil]

/-- An overlay grows a byte string just as far as the window reaches. -/
@[simp] theorem size_overlay (bytes : ByteArray) (start : Nat) (data : ByteArray) :
    (overlay bytes start data).size = max bytes.size (start + data.size) := by
  rw [← ByteArray.size_data, ← Array.length_toList, toList_overlay]
  simp
  omega

/-! ### Ends of strings -/

/-- The first position of a zero byte among the `count` bytes from `start` on. -/
def zeroWithin? (bytes : ByteArray) (start : Nat) : Nat → Option Nat
  | 0 => none
  | count + 1 =>
    if bytes[start]? = some 0 then some start else zeroWithin? bytes (start + 1) count

/-- The position of the first zero byte at or after `start`. -/
def firstZero? (bytes : ByteArray) (start : Nat) : Option Nat :=
  zeroWithin? bytes start (bytes.size - start)

/-! ### Words -/

/-- The last `count` digits of a number to the base 256, the last one first. -/
def digits : (count number : Nat) → List UInt8
  | 0, _ => []
  | count + 1, number => UInt8.ofNat number :: digits count (number / 256)

/-- The eight bytes of a word, least significant first. -/
def ofWord (w : Word) : ByteArray := ⟨(digits 8 w.toNat).toArray⟩

/-- The word that a byte string spells, least significant byte first. -/
def toWord (bytes : ByteArray) : Word :=
  UInt64.ofNat (bytes.data.toList.foldr (fun byte rest => byte.toNat + 256 * rest) 0)

@[simp] theorem size_ofWord (w : Word) : (ofWord w).size = 8 := rfl

end Semihosting.Bytes
