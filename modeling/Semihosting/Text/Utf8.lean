/-!
# Lossy decoding of UTF-8

Paths and printed lines reach the host as bytes and are shown as text. Where the bytes are not
UTF-8, each longest piece that could begin a character, or else a single byte, is shown as the
replacement character U+FFFD.

Decoding is a fold over the bytes with at most one unfinished character at a time, so a text may
be cut anywhere and decoded piece by piece.

## Main definitions

* `Utf8.Unfinished` — the beginning of a character, and what its next byte may be
* `Utf8.Decoder` — the text so far and the unfinished character behind it
* `Utf8.decode` — the lossy decoding of a byte string
-/

namespace Semihosting.Utf8

/-- The beginning of a character that takes more than one byte. -/
structure Unfinished where
  /-- The bits read so far. -/
  bits : Nat
  /-- How many bytes are still missing, less one. -/
  further : Nat
  /-- The least byte that may come next. -/
  low : UInt8
  /-- The greatest byte that may come next. -/
  high : UInt8
deriving DecidableEq, Repr

/-- The replacement character. -/
def replacement : Char := '\ufffd'

/-- What a byte that does not end or continue a character starts: a character of its own, the
beginning of a longer one, or nothing (`none`). The bounds on the second byte leave out overlong
forms, surrogates and code points above U+10FFFF. -/
def start (b : UInt8) : Option (Char ⊕ Unfinished) :=
  if b < 0x80 then some (.inl (Char.ofNat b.toNat))
  else if b < 0xc2 then none
  else if b < 0xe0 then some (.inr ⟨b.toNat - 0xc0, 0, 0x80, 0xbf⟩)
  else if b < 0xf0 then
    some (.inr
      ⟨b.toNat - 0xe0, 1, if b = 0xe0 then 0xa0 else 0x80, if b = 0xed then 0x9f else 0xbf⟩)
  else if b < 0xf5 then
    some (.inr
      ⟨b.toNat - 0xf0, 2, if b = 0xf0 then 0x90 else 0x80, if b = 0xf4 then 0x8f else 0xbf⟩)
  else none

/-- A decoder between two bytes. -/
structure Decoder where
  /-- The text decoded so far. -/
  text : String := ""
  /-- The character that has begun and not ended. -/
  unfinished : Option Unfinished := none
deriving DecidableEq

namespace Decoder

/-- Takes a byte that does not continue a character. -/
def begin (text : String) (b : UInt8) : Decoder :=
  match start b with
  | some (.inl c) => ⟨text.push c, none⟩
  | some (.inr u) => ⟨text, some u⟩
  | none => ⟨text.push replacement, none⟩

/-- Takes one more byte. A byte that cannot continue the unfinished character ends it as a
replacement character and is then looked at afresh. -/
def step (d : Decoder) (b : UInt8) : Decoder :=
  match d.unfinished with
  | none => begin d.text b
  | some u =>
    if u.low ≤ b ∧ b ≤ u.high then
      let bits := 64 * u.bits + (b.toNat - 0x80)
      match u.further with
      | 0 => ⟨d.text.push (Char.ofNat bits), none⟩
      | further + 1 => ⟨d.text, some ⟨bits, further, 0x80, 0xbf⟩⟩
    else begin (d.text.push replacement) b

/-- The whole text, an unfinished character at its end being replaced. -/
def finish (d : Decoder) : String :=
  match d.unfinished with
  | none => d.text
  | some _ => d.text.push replacement

end Decoder

/-- The lossy decoding of a byte string. -/
def decode (bytes : ByteArray) : String :=
  (bytes.data.toList.foldl Decoder.step {}).finish

end Semihosting.Utf8
