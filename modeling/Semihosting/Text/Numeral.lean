import Semihosting.Word

/-!
# Numerals

How numbers are written: decimal digits, a minus sign before a negative number, and `0x` before
lower-case hexadecimal digits.

## Main definitions

* `Numeral.decimal`, `Numeral.signed`, `Numeral.hex` — the written forms
* `Numeral.parse?` — reading an unsigned decimal number
-/

namespace Semihosting.Numeral

/-- A natural number in decimal digits, without leading zeros. -/
def decimal (n : Nat) : String := String.ofList (Nat.toDigits 10 n)

/-- A number in decimal digits, with a minus sign if it is negative. -/
def signed : Int → String
  | .ofNat n => decimal n
  | .negSucc n => "-" ++ decimal (n + 1)

/-- A number in lower-case hexadecimal digits after `0x`. -/
def hex (n : Nat) : String := "0x" ++ String.ofList (Nat.toDigits 16 n)

/-- The number that decimal digits spell, continuing one already read. -/
def readDigits? : Nat → List Char → Option Nat
  | n, [] => some n
  | n, c :: rest => if c.isDigit then readDigits? (10 * n + (c.toNat - 48)) rest else none

/-- An unsigned number below `2 ^ 64`: at least one decimal digit, with at most one plus sign
before them. -/
def parse? (text : String) : Option Word :=
  let digits := match text.toList with
    | '+' :: rest => rest
    | all => all
  if digits.isEmpty then none
  else
    (readDigits? 0 digits).bind fun n =>
      if n < 0x10000000000000000 then some (UInt64.ofNat n) else none

end Semihosting.Numeral
