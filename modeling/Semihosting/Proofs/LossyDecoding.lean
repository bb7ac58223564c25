import Mathlib.Tactic.SplitIfs
import Semihosting.Proofs.StoredFile
import Semihosting.Text.Utf8

/-!
# Texts and their bytes

A decoder carries at most one unfinished character, and no byte below 0x80 can continue one. So a
byte string may be cut before and behind such a byte and decoded piece by piece. What was encoded
from a text decodes to that text, whatever stands around it.

## Main definitions

* `Utf8.Decoder.Waits` — every byte that a decoder may be waiting for is from 0x80 on
* `Utf8.text` — the lossy decoding of a list of bytes

## Main results

* `Utf8.text_append_cons` — decoding around a byte below 0x80
* `Utf8.decode_toUTF8` — decoding an encoded text
-/

namespace Semihosting.Utf8

namespace Decoder

variable {d : Decoder} {front : String} {b : UInt8} {bytes : List UInt8}

/-! ### The text decoded before -/

theorem append_push (front text : String) (c : Char) :
    (front ++ text).push c = front ++ text.push c := by
  rw [String.push_eq_append, String.push_eq_append, String.append_assoc]

/-- The decoder with more text in front of what it has decoded. -/
def behind (front : String) (d : Decoder) : Decoder := { d with text := front ++ d.text }

theorem begin_behind (front text : String) (b : UInt8) :
    begin (front ++ text) b = behind front (begin text b) := by
  unfold begin
  split <;> simp [behind, append_push]

/-- What comes next does not depend on what was decoded before. -/
theorem step_behind (front : String) (d : Decoder) (b : UInt8) :
    (behind front d).step b = behind front (d.step b) := by
  obtain ⟨text, unfinished⟩ := d
  cases unfinished with
  | none => exact begin_behind front text b
  | some u =>
    simp only [step, behind]
    split
    · split <;> simp [append_push]
    · rw [append_push]
      exact begin_behind front _ b

theorem foldl_step_behind (front : String) (d : Decoder) (bytes : List UInt8) :
    bytes.foldl step (behind front d) = behind front (bytes.foldl step d) := by
  induction bytes generalizing d with
  | nil => rfl
  | cons b bytes ih => rw [List.foldl_cons, step_behind, ih, List.foldl_cons]

theorem finish_behind : (behind front d).finish = front ++ d.finish := by
  obtain ⟨text, unfinished⟩ := d
  cases unfinished with
  | none => rfl
  | some u => simp [behind, finish, append_push]

/-! ### Bytes below 0x80 -/

/-- A byte that may continue the unfinished character is from 0x80 on. -/
def Waits (d : Decoder) : Prop := ∀ u, d.unfinished = some u → 0x80 ≤ u.low

theorem le_low_of_start {u : Unfinished} (h : start b = some (.inr u)) : 0x80 ≤ u.low := by
  unfold start at h
  -- The least second byte depends on the first byte, and every choice is great enough.
  split_ifs at h <;> simp only [Option.some.injEq, Sum.inr.injEq, reduceCtorEq] at h <;>
    subst h <;> dsimp only <;> decide

theorem waits_begin (text : String) (b : UInt8) : (begin text b).Waits := by
  intro u hu
  unfold begin at hu
  split at hu
  · cases hu
  · next started =>
    obtain rfl := Option.some.inj hu
    exact le_low_of_start started
  · cases hu

theorem Waits.step (waits : d.Waits) (b : UInt8) : (d.step b).Waits := by
  obtain ⟨text, unfinished⟩ := d
  cases unfinished with
  | none => exact waits_begin text b
  | some u =>
    simp only [Decoder.step]
    split
    · split
      · intro u' hu
        cases hu
      · intro u' hu
        obtain rfl := Option.some.inj hu
        exact UInt8.le_refl 0x80
    · exact waits_begin _ b

theorem Waits.foldl (waits : d.Waits) (bytes : List UInt8) :
    (bytes.foldl Decoder.step d).Waits := by
  induction bytes generalizing d with
  | nil => exact waits
  | cons b bytes ih => exact ih (waits.step b)

/-- A byte below 0x80 ends the unfinished character and is a character of its own. -/
theorem Waits.step_of_lt (waits : d.Waits) (small : b < 0x80) :
    d.step b = ⟨d.finish.push (Char.ofNat b.toNat), none⟩ := by
  obtain ⟨text, unfinished⟩ := d
  have alone (text : String) : begin text b = ⟨text.push (Char.ofNat b.toNat), none⟩ := by
    rw [begin, start, if_pos small]
  cases unfinished with
  | none => exact alone text
  | some u =>
    have above : 0x80 ≤ u.low := waits u rfl
    have stranger : ¬ (u.low ≤ b ∧ b ≤ u.high) := fun h =>
      UInt8.not_le.mpr small (UInt8.le_trans above h.1)
    simp only [Decoder.step, if_neg stranger]
    exact alone _

end Decoder

/-! ### Cutting byte strings -/

/-- The lossy decoding of a list of bytes. -/
def text (bytes : List UInt8) : String := decode bytes.toByteArray

theorem text_eq (bytes : List UInt8) : text bytes = (bytes.foldl Decoder.step {}).finish := by
  simp [text, decode]

theorem text_toList (bytes : ByteArray) : text bytes.data.toList = decode bytes :=
  text_eq _

@[simp] theorem text_nil : text [] = "" := text_eq []

/-- A byte below 0x80 is decoded on its own, and so is what stands before and behind it. -/
theorem text_append_cons {b : UInt8} (small : b < 0x80) (before rest : List UInt8) :
    text (before ++ b :: rest) =
      text before ++ (String.singleton (Char.ofNat b.toNat) ++ text rest) := by
  have waits : (before.foldl Decoder.step {}).Waits := Decoder.Waits.foldl (by rintro u ⟨⟩) before
  have fresh (front : String) : (⟨front, none⟩ : Decoder) = Decoder.behind front {} := by
    simp [Decoder.behind]
  rw [text_eq, List.foldl_append, List.foldl_cons, waits.step_of_lt small, fresh,
    Decoder.foldl_step_behind, Decoder.finish_behind, text_eq, text_eq, ← String.append_assoc]
  rfl

/-! ### Encoded texts -/

theorem start_ofNat {n : Nat} (hn : n < 256) :
    start (UInt8.ofNat n) =
      if n < 0x80 then some (.inl (Char.ofNat n))
      else if n < 0xc2 then none
      else if n < 0xe0 then some (.inr ⟨n - 0xc0, 0, 0x80, 0xbf⟩)
      else if n < 0xf0 then
        some (.inr ⟨n - 0xe0, 1, if n = 0xe0 then 0xa0 else 0x80, if n = 0xed then 0x9f else 0xbf⟩)
      else if n < 0xf5 then
        some (.inr ⟨n - 0xf0, 2, if n = 0xf0 then 0x90 else 0x80, if n = 0xf4 then 0x8f else 0xbf⟩)
      else none := by
  have toNat : (UInt8.ofNat n).toNat = n := UInt8.toNat_ofNat_of_lt' hn
  simp only [start, UInt8.lt_iff_toNat_lt, ← UInt8.toNat_inj, toNat, UInt8.reduceToNat]

namespace Decoder

variable {text : String} {c : Char} {u : Unfinished} {bits further n : Nat} {low high : UInt8}

theorem step_of_char (h : start b = some (.inl c)) :
    (⟨text, none⟩ : Decoder).step b = ⟨text.push c, none⟩ := by
  simp only [step, begin, h]

theorem step_of_start (h : start b = some (.inr u)) :
    (⟨text, none⟩ : Decoder).step b = ⟨text, some u⟩ := by
  simp only [step, begin, h]

theorem between_of_le (h : low.toNat ≤ n ∧ n ≤ high.toNat) :
    (low ≤ UInt8.ofNat n ∧ UInt8.ofNat n ≤ high) ∧ (UInt8.ofNat n).toNat = n := by
  have toNat : (UInt8.ofNat n).toNat = n :=
    UInt8.toNat_ofNat_of_lt' (Nat.lt_of_le_of_lt h.2 high.toNat_lt)
  rw [UInt8.le_iff_toNat_le, UInt8.le_iff_toNat_le, toNat]
  exact ⟨h, rfl⟩

/-- The last byte of a character. -/
theorem step_last (h : low.toNat ≤ n ∧ n ≤ high.toNat) :
    (⟨text, some ⟨bits, 0, low, high⟩⟩ : Decoder).step (UInt8.ofNat n) =
      ⟨text.push (Char.ofNat (64 * bits + (n - 0x80))), none⟩ := by
  obtain ⟨between, toNat⟩ := between_of_le h
  simp only [step, if_pos between, toNat]

/-- A byte that others follow. -/
theorem step_more (h : low.toNat ≤ n ∧ n ≤ high.toNat) :
    (⟨text, some ⟨bits, further + 1, low, high⟩⟩ : Decoder).step (UInt8.ofNat n) =
      ⟨text, some ⟨64 * bits + (n - 0x80), further, 0x80, 0xbf⟩⟩ := by
  obtain ⟨between, toNat⟩ := between_of_le h
  simp only [step, if_pos between, toNat]

/-- The bytes of a character add that character. -/
theorem foldl_step_utf8EncodeChar (text : String) (c : Char) :
    (String.utf8EncodeChar c).foldl step ⟨text, none⟩ = ⟨text.push c, none⟩ := by
  obtain ⟨v, hv⟩ : ∃ v, v = c.val.toNat := ⟨_, rfl⟩
  have valid : v < 0xd800 ∨ 0xdfff < v ∧ v < 0x110000 := by
    rw [hv]
    exact c.valid
  have char {n : Nat} (same : n = v) : Char.ofNat n = c := by
    rw [same, hv]
    exact Char.ofNat_toNat c
  have tail (n : Nat) :
      (0x80 : UInt8).toNat ≤ n % 64 + 128 ∧ n % 64 + 128 ≤ (0xbf : UInt8).toNat := by
    simp only [UInt8.reduceToNat]
    omega
  unfold String.utf8EncodeChar
  simp only [← hv]
  -- The number of bytes is that of the branch; the first byte bounds the second.
  split_ifs with one two three
  · have first : start (UInt8.ofNat v) = some (.inl (Char.ofNat v)) := by
      rw [start_ofNat (by omega), if_pos (by omega)]
    rw [List.foldl_cons, step_of_char first, List.foldl_nil, char rfl]
  · have first : start (UInt8.ofNat (v / 64 % 32 + 192)) =
        some (.inr ⟨v / 64 % 32, 0, 0x80, 0xbf⟩) := by
      rw [start_ofNat (by omega), if_neg (by omega), if_neg (by omega), if_pos (by omega),
        Nat.add_sub_cancel]
    rw [List.foldl_cons, step_of_start first, List.foldl_cons, step_last (tail v), List.foldl_nil,
      char (by omega)]
  · have first : start (UInt8.ofNat (v / 4096 % 16 + 224)) = some (.inr ⟨v / 4096 % 16, 1,
        if v / 4096 % 16 = 0 then 0xa0 else 0x80, if v / 4096 % 16 = 13 then 0x9f else 0xbf⟩) := by
      rw [start_ofNat (by omega), if_neg (by omega), if_neg (by omega), if_neg (by omega),
        if_pos (by omega), Nat.add_sub_cancel]
      simp
    -- Neither overlong forms nor surrogates are encoded.
    have second : (if v / 4096 % 16 = 0 then 0xa0 else 0x80 : UInt8).toNat ≤ v / 64 % 64 + 128 ∧
        v / 64 % 64 + 128 ≤ (if v / 4096 % 16 = 13 then 0x9f else 0xbf : UInt8).toNat := by
      constructor
      · split <;> simp only [UInt8.reduceToNat] <;> omega
      · split <;> simp only [UInt8.reduceToNat] <;> omega
    rw [List.foldl_cons, step_of_start first, List.foldl_cons, step_more second, List.foldl_cons,
      step_last (tail v), List.foldl_nil, char (by omega)]
  · have first : start (UInt8.ofNat (v / 262144 % 8 + 240)) = some (.inr ⟨v / 262144 % 8, 2,
        if v / 262144 % 8 = 0 then 0x90 else 0x80, if v / 262144 % 8 = 4 then 0x8f else 0xbf⟩) := by
      rw [start_ofNat (by omega), if_neg (by omega), if_neg (by omega), if_neg (by omega),
        if_neg (by omega), if_pos (by omega), Nat.add_sub_cancel]
      simp
    have second : (if v / 262144 % 8 = 0 then 0x90 else 0x80 : UInt8).toNat ≤
          v / 4096 % 64 + 128 ∧
        v / 4096 % 64 + 128 ≤ (if v / 262144 % 8 = 4 then 0x8f else 0xbf : UInt8).toNat := by
      constructor
      · split <;> simp only [UInt8.reduceToNat] <;> omega
      · split <;> simp only [UInt8.reduceToNat] <;> omega
    rw [List.foldl_cons, step_of_start first, List.foldl_cons, step_more second, List.foldl_cons,
      step_more (tail _), List.foldl_cons, step_last (tail v), List.foldl_nil, char (by omega)]

end Decoder

theorem foldl_step_utf8Encode (front : String) (chars : List Char) :
    (chars.flatMap String.utf8EncodeChar).foldl Decoder.step ⟨front, none⟩ =
      ⟨front ++ String.ofList chars, none⟩ := by
  induction chars generalizing front with
  | nil => simp
  | cons c chars ih =>
    rw [List.flatMap_cons, List.foldl_append, Decoder.foldl_step_utf8EncodeChar, ih,
      String.push_eq_append, String.append_assoc, String.singleton_eq_ofList,
      ← String.ofList_append, List.singleton_append]

theorem toList_toUTF8 (s : String) :
    s.toUTF8.data.toList = s.toList.flatMap String.utf8EncodeChar := by
  rw [String.toUTF8_eq_toByteArray, ← String.utf8Encode_toList, List.utf8Encode]
  simp

/-- The bytes of a text decode to it. -/
theorem decode_toUTF8 (s : String) : decode s.toUTF8 = s := by
  rw [decode, toList_toUTF8, foldl_step_utf8Encode]
  simp [Decoder.finish]

end Semihosting.Utf8
