import Semihosting.Text.Numeral
import Semihosting.Text.Printable

/-!
# Quoted text

Names and other foreign text appear in messages between double quotes. A quote and a backslash are
written after a backslash, four controls by a letter, and every other character that is not shown
by its code point.

## Main definitions

* `Text.escape` — the written form of one character
* `Text.quote` — the written form of a text
-/

namespace Semihosting.Text

/-- The written form of one character between double quotes. -/
def escape (c : Char) : String :=
  match c with
  | '\x00' => "\\0"
  | '\t' => "\\t"
  | '\r' => "\\r"
  | '\n' => "\\n"
  | '"' => "\\\""
  | '\\' => "\\\\"
  | c =>
    if isShown c then String.singleton c
    else "\\u\x7b" ++ String.ofList (Nat.toDigits 16 c.toNat) ++ "\x7d"

/-- A text between double quotes. -/
def quote (text : String) : String :=
  text.foldl (fun written c => written ++ escape c) "\"" ++ "\""

end Semihosting.Text
