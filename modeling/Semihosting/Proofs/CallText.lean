import Semihosting.Call

/-!
# Reading a call back from its line

The line of a call says everything about the call. Its parts are told apart by characters that stand
nowhere else: the title ends at a parenthesis, arguments end at commas, and behind an equals sign
comes the result. Each part can be read by itself. A title that is the name of a service cannot be
mistaken for a number, since a number has digits only, and digits spell one number only, to the base
10 as well as to the base 16.

## Main definitions

* `Numeral.value`, `Numeral.signedValue` — the number that digits spell
* `Numeral.cut` — a text before and behind the first of some character
* `Service.ofTitle` — the number that a title stands for
* `Call.ofText` — the call that a line is about

## Main results

* `Numeral.value_toDigits` — reading digits back
* `Service.ofTitle_title` — reading a title back
* `Call.ofText_text` — reading a line back
* `Call.text_tells_apart` — no two calls have the same line
-/

namespace Semihosting

namespace Numeral

/-! ### Digits -/

/-- What a digit stands for, letters being in lower case. -/
def digitValue (c : Char) : Nat := if c.isDigit then c.toNat - 48 else c.toNat - 87

/-- The number that digits spell. -/
def value (base : Nat) (digits : List Char) : Nat :=
  digits.foldl (fun n c => base * n + digitValue c) 0

theorem digitValue_digitChar {d : Nat} (lt : d < 16) : digitValue d.digitChar = d := by
  have each : ∀ d < 16, digitValue (Nat.digitChar d) = d := by decide
  exact each d lt

/-- The digits of a number spell it. -/
theorem value_toDigits {base : Nat} (two_le : 2 ≤ base) (small : base ≤ 16) (n : Nat) :
    value base (Nat.toDigits base n) = n := by
  induction n using Nat.strongRecOn with
  | ind n ih =>
    rw [Nat.toDigits_eq_if two_le]
    split
    · next one =>
      rw [value, List.foldl_cons, List.foldl_nil, digitValue_digitChar (by omega), Nat.mul_zero,
        Nat.zero_add]
    · next more =>
      -- The last digit is the remainder, and the others spell the quotient.
      have last : n % base < base := Nat.mod_lt n (by omega)
      have quotient : (Nat.toDigits base (n / base)).foldl
          (fun n c => base * n + digitValue c) 0 = n / base :=
        ih (n / base) (Nat.div_lt_self (by omega) two_le)
      rw [value, List.foldl_append, quotient, List.foldl_cons, List.foldl_nil,
        digitValue_digitChar (by omega), Nat.div_add_mod]

theorem isDigit_of_mem_decimal {n : Nat} {c : Char} (h : c ∈ (decimal n).toList) : c.isDigit := by
  rw [decimal, String.toList_ofList] at h
  exact Nat.isDigit_of_mem_toDigits (by decide) (by decide) h

/-- A decimal number is read back. -/
theorem value_decimal (n : Nat) : value 10 (decimal n).toList = n := by
  rw [decimal, String.toList_ofList, value_toDigits (by decide) (by decide)]

/-- The number that digits spell, negative behind a minus sign. -/
def signedValue : List Char → Int
  | '-' :: digits => -(value 10 digits : Int)
  | digits => value 10 digits

/-- A signed number is read back. -/
theorem signedValue_signed (i : Int) : signedValue (signed i).toList = i := by
  cases i with
  | ofNat n =>
    have digits : ∀ c ∈ (decimal n).toList, c.isDigit := fun c => isDigit_of_mem_decimal
    have value := value_decimal n
    rw [signed]
    generalize (decimal n).toList = text at digits value
    -- A number that is not negative does not begin with a minus sign.
    unfold signedValue
    split
    · exact absurd (digits '-' (.head _)) (by decide)
    · exact congrArg Int.ofNat value
  | negSucc n =>
    have text : (signed (.negSucc n)).toList = '-' :: (decimal (n + 1)).toList := by
      rw [signed, String.toList_append]
      rfl
    rw [text, signedValue, value_decimal]
    rfl

/-! ### Parts of a text -/

/-- The text before the first of some character, and the text behind it. -/
def cut (c : Char) (text : List Char) : List Char × List Char :=
  (text.takeWhile (· ≠ c), (text.dropWhile (· ≠ c)).drop 1)

theorem cut_append {c : Char} {before : List Char} (h : c ∉ before) (behind : List Char) :
    cut c (before ++ c :: behind) = (before, behind) := by
  have others : ∀ d ∈ before, decide (d ≠ c) = true := fun d there =>
    decide_eq_true fun same => h (same ▸ there)
  rw [cut, List.takeWhile_append_of_pos others, List.dropWhile_append_of_pos others]
  simp

/-- The number that hexadecimal digits behind an `x` spell. -/
def hexValue (text : List Char) : Nat := value 16 (cut 'x' text).2

theorem toList_hex (n : Nat) : (hex n).toList = '0' :: 'x' :: Nat.toDigits 16 n := by
  rw [hex, String.toList_append]
  exact congrArg (['0', 'x'] ++ ·) String.toList_ofList

/-- A hexadecimal number is read back, whatever blanks stand before it. -/
theorem hexValue_hex {blanks : List Char} (h : 'x' ∉ blanks) (n : Nat) :
    hexValue (blanks ++ (hex n).toList) = n := by
  have split : blanks ++ (hex n).toList = (blanks ++ ['0']) ++ 'x' :: Nat.toDigits 16 n := by
    rw [toList_hex, List.append_assoc]
    rfl
  rw [hexValue, split, cut_append (by simp [h]), value_toDigits (by decide) (by decide)]

theorem exists_digitChar_of_mem {base n : Nat} (two_le : 2 ≤ base) {c : Char}
    (h : c ∈ Nat.toDigits base n) : ∃ d, c = Nat.digitChar d := by
  induction n using Nat.strongRecOn with
  | ind n ih =>
    rw [Nat.toDigits_eq_if two_le] at h
    split at h
    · exact ⟨n, List.mem_singleton.mp h⟩
    · next more =>
      rcases List.mem_append.mp h with before | last
      · exact ih (n / base) (Nat.div_lt_self (by omega) two_le) before
      · exact ⟨n % base, List.mem_singleton.mp last⟩

/-- A character that is no digit does not stand in a hexadecimal number. -/
theorem not_mem_hex {c : Char} (other : c ∉ ['0', 'x']) (h : ∀ d, Nat.digitChar d ≠ c) (n : Nat) :
    c ∉ (hex n).toList := by
  have split : (hex n).toList = ['0', 'x'] ++ Nat.toDigits 16 n := toList_hex n
  rw [split, List.mem_append]
  rintro (start | digit)
  · exact other start
  · obtain ⟨d, rfl⟩ := exists_digitChar_of_mem (by decide) digit
    exact h d rfl

/-- The hexadecimal numbers between commas. -/
def hexValues (text : List Char) : List Nat := (text.splitOn ',').map hexValue

/-- A list of hexadecimal numbers is read back. -/
theorem hexValues_intercalate {ns : List Nat} (some : ns ≠ []) {blanks : List Char}
    (no_mark : 'x' ∉ blanks) (no_comma : ',' ∉ blanks) :
    hexValues (blanks ++ (", ".intercalate (ns.map hex)).toList) = ns := by
  have comma (n : Nat) : ',' ∉ (hex n).toList :=
    not_mem_hex (by decide) (fun _ => Nat.digitChar_ne ',' rfl) n
  -- The blanks differ: there is none before the first number, and one before each other number.
  induction ns generalizing blanks with
  | nil => exact absurd rfl some
  | cons n ns ih =>
    have whole : ',' ∉ blanks ++ (hex n).toList := by simp [no_comma, comma]
    cases ns with
    | nil =>
      rw [hexValues, List.map_singleton, String.intercalate_singleton,
        List.splitOn_eq_singleton whole, List.map_singleton, hexValue_hex no_mark]
    | cons n' ns =>
      -- Behind the comma, a blank stands before the next number.
      have split : blanks ++ (", ".intercalate ((n :: n' :: ns).map hex)).toList =
          (blanks ++ (hex n).toList) ++ ',' ::
            ([' '] ++ (", ".intercalate ((n' :: ns).map hex)).toList) := by
        rw [List.map_cons, List.map_cons, String.intercalate_cons_cons]
        simp
      rw [split, hexValues, List.splitOn_append_cons_self, List.splitOn_eq_singleton whole,
        List.singleton_append, List.map_cons, hexValue_hex no_mark]
      exact congrArg (n :: ·) (ih (List.cons_ne_nil _ _) (by decide) (by decide))

/-- The list ends before the next parenthesis. -/
theorem not_mem_intercalate {c : Char} (other : c ∉ [',', ' ', '0', 'x'])
    (h : ∀ d, Nat.digitChar d ≠ c) (ns : List Nat) :
    c ∉ (", ".intercalate (ns.map hex)).toList := by
  have outside (n : Nat) : c ∉ (hex n).toList :=
    not_mem_hex (fun there => other (.tail _ (.tail _ there))) h n
  induction ns with
  | nil => simp
  | cons n ns ih =>
    cases ns with
    | nil =>
      rw [List.map_singleton, String.intercalate_singleton]
      exact outside n
    | cons n' ns =>
      have first : c ∉ ", ".toList := fun there => by
        rcases List.mem_cons.mp there with rfl | there
        · exact other (.head _)
        · exact other (.tail _ (List.mem_singleton.mp there ▸ .head _))
      rw [List.map_cons, List.map_cons, String.intercalate_cons_cons, String.toList_append,
        String.toList_append, List.mem_append, List.mem_append]
      rintro ((number | separator) | rest)
      · exact outside n number
      · exact first separator
      · exact ih rest

end Numeral

/-! ### Titles -/

namespace Service

/-- The number that a title stands for: the number of the service of this name, or the number that
the title spells. -/
def ofTitle (title : List Char) : Word :=
  match all.find? fun s => s.name.toList = title with
  | some s => s.number
  | none => UInt64.ofNat (Numeral.value 10 title)

theorem find?_name (s : Service) : (all.find? fun t => t.name.toList = s.name.toList) = some s := by
  cases s <;> decide

/-- No name is a number. -/
theorem exists_not_isDigit (s : Service) : ∃ c ∈ s.name.toList, ¬ c.isDigit := by
  have letter : s.name.toList.any (!·.isDigit) = true := by cases s <;> decide
  obtain ⟨c, there, other⟩ := List.any_eq_true.mp letter
  exact ⟨c, there, by simpa using other⟩

/-- No parenthesis stands in a name. -/
theorem not_mem_name (s : Service) : '(' ∉ s.name.toList := by
  cases s <;> decide

theorem find?_decimal (n : Nat) :
    (all.find? fun s => s.name.toList = (Numeral.decimal n).toList) = none := by
  rw [List.find?_eq_none]
  intro s _ same
  obtain ⟨c, there, no_digit⟩ := s.exists_not_isDigit
  rw [of_decide_eq_true same] at there
  exact no_digit (Numeral.isDigit_of_mem_decimal there)

/-- The title of a call is read back: a name stands for the number of its service, and any other
number for itself. -/
theorem ofTitle_title (c : Call) : ofTitle c.title.toList = c.number := by
  cases known : c.service? with
  | some s =>
    rw [Call.title, known, ofTitle, find?_name]
    exact ofNumber?_eq_some_iff.mp known
  | none =>
    rw [Call.title, known, ofTitle, find?_decimal, Numeral.value_decimal]
    exact UInt64.ofNat_toNat

end Service

/-! ### Lines -/

namespace Call

/-- No parenthesis stands in a title. -/
theorem not_mem_title (c : Call) : '(' ∉ c.title.toList := by
  cases known : c.service? with
  | some s =>
    rw [title, known]
    exact s.not_mem_name
  | none =>
    rw [title, known]
    intro there
    exact absurd (Numeral.isDigit_of_mem_decimal there) (by decide)

/-- The call that a line is about: the title stands before the first parenthesis, the arguments up
to the next one, and the result behind an equals sign with a blank on either side. -/
def ofText (line : String) : Call :=
  let parts := Numeral.cut '(' line.toList
  let inner := Numeral.cut ')' parts.2
  { number := Service.ofTitle parts.1
    arguments := Vector.ofFn fun i => UInt64.ofNat ((Numeral.hexValues inner.1).getD i 0)
    result := UInt64.ofInt (Numeral.signedValue (inner.2.drop 3)) }

theorem ofInt_signed (w : Word) : UInt64.ofInt w.signed = w := by
  have small : (w.toNat : Int) % 2 ^ 64 = w.toNat := Int.emod_eq_of_lt (by omega) (by
    have := w.toNat_lt
    omega)
  have same : w.signed % 2 ^ 64 = w.toNat := Int.bmod_emod.trans small
  rw [UInt64.ofInt, same, Int.toNat_natCast, UInt64.ofNat_toNat]

/-- The parts of a line, and what stands between them. -/
theorem toList_text (c : Call) :
    c.text.toList = c.title.toList ++ '(' ::
      ((", ".intercalate ((c.arguments.toList.map UInt64.toNat).map Numeral.hex)).toList ++ ')' ::
        ' ' :: '=' :: ' ' :: (Numeral.signed c.result.signed).toList) := by
  rw [List.map_map]
  simp [text, Function.comp_def]

theorem hexValues_arguments (c : Call) :
    Numeral.hexValues (", ".intercalate ((c.arguments.toList.map UInt64.toNat).map
      Numeral.hex)).toList = c.arguments.toList.map UInt64.toNat := by
  have some : c.arguments.toList.map UInt64.toNat ≠ [] := by
    intro none
    have length := congrArg List.length none
    simp at length
  have values := Numeral.hexValues_intercalate some List.not_mem_nil List.not_mem_nil
  rw [List.nil_append] at values
  exact values

theorem ofFn_arguments (c : Call) :
    (Vector.ofFn fun i : Fin 6 =>
      UInt64.ofNat ((c.arguments.toList.map UInt64.toNat).getD i 0)) = c.arguments := by
  apply Vector.ext
  intro i lt
  simp

/-- The line of a call is read back. -/
theorem ofText_text (c : Call) : ofText c.text = c := by
  have closed := Numeral.not_mem_intercalate (c := ')') (by decide)
    (fun _ => Nat.digitChar_ne ')' rfl) (c.arguments.toList.map UInt64.toNat)
  simp only [ofText, toList_text, Numeral.cut_append c.not_mem_title, Numeral.cut_append closed,
    hexValues_arguments, List.drop_succ_cons, List.drop_zero, ofFn_arguments,
    Service.ofTitle_title, Numeral.signedValue_signed, ofInt_signed]

/-- The line of a call is unambiguous. Its title stands for one number, be it by name or in digits,
each argument and the signed result can be read back, and so no two calls have the same line. -/
theorem text_tells_apart :
    (∀ c : Call, ofText c.text = c) ∧
      (∀ c c' : Call, c.title = c'.title ↔ c.number = c'.number) ∧
      ∀ c c' : Call, c.text = c'.text ↔ c = c' := by
  refine ⟨ofText_text, fun c c' => ⟨fun same => ?_, fun same => ?_⟩,
    fun c c' => ⟨fun same => ?_, congrArg text⟩⟩
  · rw [← Service.ofTitle_title c, same, Service.ofTitle_title]
  · rw [title, title, Request.service?, Request.service?, same]
  · rw [← ofText_text c, same, ofText_text]

end Call

end Semihosting
