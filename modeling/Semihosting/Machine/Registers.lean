import Semihosting.Word

/-!
# Registers

The 32 integer registers of a guest, of which the first always holds zero.

## Main definitions

* `Register` — a register's index, with the names a host call uses
* `Registers` — the register contents
* `Registers.get`, `Registers.set` — reading and writing
-/

namespace Semihosting

/-- The index of an integer register. -/
abbrev Register := Fin 32

namespace Register

/-- The register that always holds zero. -/
def zero : Register := 0

/-- The stack pointer. -/
def sp : Register := 2

/-- The first argument, and later the result, of a host call. -/
def a0 : Register := 10

/-- The number of a host call. -/
def a7 : Register := 17

/-- The argument registers of a host call, in order. -/
def arguments : Vector Register 6 := #v[10, 11, 12, 13, 14, 15]

end Register

/-- The contents of the integer registers. -/
structure Registers where
  words : Vector Word 32
  /-- The first register holds zero. -/
  zero : words[0] = 0
deriving DecidableEq

namespace Registers

/-- All registers zero. -/
def blank : Registers := ⟨Vector.replicate 32 0, by simp⟩

/-- The word in a register. -/
def get (rs : Registers) (r : Register) : Word := rs.words[r.val]

/-- Puts a word into a register; the first register drops it. -/
def set (rs : Registers) (r : Register) (w : Word) : Registers :=
  if h : r.val = 0 then rs
  else ⟨rs.words.set r.val w, by simp [h, rs.zero]⟩

@[simp] theorem get_zero (rs : Registers) : rs.get 0 = 0 := rs.zero

theorem get_set (rs : Registers) (r s : Register) (w : Word) :
    (rs.set r w).get s = if s = r ∧ r ≠ 0 then w else rs.get s := by
  unfold set
  split
  · next h =>
    have : r = 0 := Fin.ext h
    simp [this]
  · next h =>
    have hr : r ≠ 0 := fun e => h (congrArg Fin.val e)
    by_cases same : s = r
    · simp [get, same, hr]
    · have : ¬ r.val = s.val := fun e => same (Fin.ext e.symm)
      simp [get, same, this]

@[simp] theorem get_blank (r : Register) : blank.get r = 0 := by
  simp [get, blank]

end Registers

end Semihosting
