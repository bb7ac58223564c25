/-!
# Machine words

Registers and guest addresses are 64-bit words. A word has an unsigned reading, `UInt64.toNat`,
and a signed one in two's complement.

## Main definitions

* `Word` — a 64-bit machine word
* `Word.signed` — the two's-complement reading
-/

namespace Semihosting

/-- A 64-bit machine word: a register value, a guest address or a length in guest memory. -/
abbrev Word := UInt64

namespace Word

/-- The two's-complement reading of a word. -/
def signed (w : Word) : Int := Int.bmod w.toNat 0x10000000000000000

/-- A word of the lower half reads the same either way. -/
theorem signed_of_lt {w : Word} (h : w.toNat < 0x8000000000000000) : w.signed = w.toNat := by
  unfold signed
  rw [Int.bmod_def]
  omega

/-- A word of the upper half reads as a negative number. -/
theorem signed_of_le {w : Word} (h : 0x8000000000000000 ≤ w.toNat) :
    w.signed = w.toNat - 0x10000000000000000 := by
  have := w.toNat_lt
  unfold signed
  rw [Int.bmod_def]
  omega

end Word

end Semihosting
