import Semihosting.Pattern.Place
import Semihosting.Text.Numeral

/-!
# Complaints about patterns

What can be wrong with a pattern, where, and how it is shown: the pattern with a row of marks under
the place, and the cause below. A pattern of several lines is shown with line numbers, between two
rules.

## Main definitions

* `Flaw` — what is wrong, `Flaw.message` in words
* `Complaint` — a flaw and its place
* `Complaint.lines` — what is shown
-/

namespace Semihosting.Pattern

/-- What is wrong with a pattern. -/
inductive Flaw where
  /-- An escape in a class stands for no character. -/
  | classEscape
  /-- A range of characters runs backwards. -/
  | classRangeOrder
  /-- A bound of a range is no character. -/
  | classRangeBound
  /-- A class has no end. -/
  | classUnclosed
  /-- A count has no digits. -/
  | countEmpty
  /-- A count is too large. -/
  | countTooLarge
  /-- A count has no end. -/
  | countUnclosed
  /-- The least count is greater than the greatest. -/
  | countOrder
  /-- There is nothing to repeat. -/
  | nothingToRepeat
  /-- A hexadecimal number has no digits. -/
  | hexEmpty
  /-- A hexadecimal number is no character. -/
  | hexNoChar
  /-- A character is no hexadecimal digit. -/
  | hexDigit
  | escapeUnfinished
  | escapeUnknown
  /-- A minus sign stands behind the last flag. -/
  | flagDangling
  /-- A flag is given twice. -/
  | flagTwice
  /-- A second minus sign stands among flags. -/
  | flagNegatedTwice
  /-- The flags have no end. -/
  | flagsUnfinished
  | flagUnknown
  /-- Two groups have one name. -/
  | nameTwice
  /-- The name of a group is empty. -/
  | nameEmpty
  /-- A character cannot be part of a name. -/
  | nameChar
  /-- The name of a group has no end. -/
  | nameUnclosed
  /-- A group has no end. -/
  | groupUnclosed
  /-- A group has no beginning. -/
  | groupUnopened
  /-- Groups and classes are nested too deep. -/
  | tooDeep (limit : Nat)
  /-- The braces behind an edge of a word do not end. -/
  | edgeUnclosed
  /-- The braces behind an edge of a word name no edge. -/
  | edgeUnknown
  /-- The pattern ends in a brace behind an edge of a word. -/
  | edgeUnfinished
  /-- No property of characters can be meant. -/
  | propertyMalformed
  /-- An earlier part of the text is referred to. -/
  | backReference
  /-- The surroundings of the text are referred to. -/
  | lookAround
  /-- Characters beyond ASCII are asked for where bytes are meant. -/
  | beyondAscii
  /-- The pattern could match a part of a character. -/
  | partOfChar
  /-- No such property of characters is known. -/
  | propertyUnknown
  /-- The value of a property is not known. -/
  | propertyValueUnknown
  /-- The members of a class are known for ASCII only. -/
  | classUnknown
  /-- The cases of letters are known for ASCII only. -/
  | caseUnknown
deriving DecidableEq, Repr

/-- The wording of a flaw. -/
def Flaw.message : Flaw → String
  | classEscape => "invalid escape sequence found in character class"
  | classRangeOrder => "invalid character class range, the start must be <= the end"
  | classRangeBound => "invalid range boundary, must be a literal"
  | classUnclosed => "unclosed character class"
  | countEmpty => "repetition quantifier expects a valid decimal"
  | countTooLarge => "decimal literal invalid"
  | countUnclosed => "unclosed counted repetition"
  | countOrder => "invalid repetition count range, the start must be <= the end"
  | nothingToRepeat => "repetition operator missing expression"
  | hexEmpty => "hexadecimal literal empty"
  | hexNoChar => "hexadecimal literal is not a Unicode scalar value"
  | hexDigit => "invalid hexadecimal digit"
  | escapeUnfinished => "incomplete escape sequence, reached end of pattern prematurely"
  | escapeUnknown => "unrecognized escape sequence"
  | flagDangling => "dangling flag negation operator"
  | flagTwice => "duplicate flag"
  | flagNegatedTwice => "flag negation operator repeated"
  | flagsUnfinished => "expected flag but got end of regex"
  | flagUnknown => "unrecognized flag"
  | nameTwice => "duplicate capture group name"
  | nameEmpty => "empty capture group name"
  | nameChar => "invalid capture group character"
  | nameUnclosed => "unclosed capture group name"
  | groupUnclosed => "unclosed group"
  | groupUnopened => "unopened group"
  | tooDeep limit =>
    "exceed the maximum number of nested parentheses/brackets (" ++ Numeral.decimal limit ++ ")"
  | edgeUnclosed =>
    "special word boundary assertion is either unclosed or contains an invalid character"
  | edgeUnknown =>
    "unrecognized special word boundary assertion, valid choices are: start, end, " ++
      "start-half or end-half"
  | edgeUnfinished =>
    "found either the beginning of a special word boundary or a bounded repetition on a \\b " ++
      "with an opening brace, but no closing brace"
  | propertyMalformed => "invalid Unicode character class"
  | backReference => "backreferences are not supported"
  | lookAround => "look-around, including look-ahead and look-behind, is not supported"
  | beyondAscii => "Unicode not allowed here"
  | partOfChar => "pattern can match invalid UTF-8"
  | propertyUnknown => "Unicode property not found"
  | propertyValueUnknown => "Unicode property value not found"
  | classUnknown =>
    "Unicode-aware Perl class not found (make sure the unicode-perl feature is enabled)"
  | caseUnknown =>
    "Unicode-aware case insensitivity matching is not available (make sure the unicode-case " ++
      "feature is enabled)"

/-- A flaw and its place. -/
structure Complaint where
  flaw : Flaw
  span : Span
  /-- An earlier place that it clashes with. -/
  earlier : Option Span := none
deriving Repr

namespace Complaint

/-- A complaint about one place, as the result of a reading. -/
def refuse {α : Type} (flaw : Flaw) (span : Span) : Except Complaint α := .error { flaw, span }

/-! ### Rows -/

/-- Some copies of a character. -/
def row (count : Nat) (c : Char) : List Char := List.replicate count c

/-- The lines of a text, without the characters that end them. An unfinished last line counts. -/
def textLines (text : String) : List String :=
  let parts := text.splitOn "\n"
  let finished := parts.dropLast.map fun line =>
    if line.toList.getLast? = some '\x0d' then String.ofList line.toList.dropLast else line
  finished ++ (parts.getLast?.filter (!·.isEmpty)).toList

/-- The marks under the spans on one line, at least one mark for each span. -/
def marks (spans : List Span) : List Char :=
  spans.foldl
    (fun done span =>
      let width := max 1 (span.stop.column - span.start.column)
      done ++ row (span.start.column - 1 - done.length) ' ' ++ row width '^')
    []

/-- A line of the pattern behind its margin, with marks below. -/
def noted (spans : List Span) (numberWidth : Nat) (number : Nat) (line : String) : List String :=
  let digits := Numeral.decimal number
  let margin :=
    if numberWidth = 0 then "    "
    else String.ofList (row (numberWidth - digits.length) ' ') ++ digits ++ ": "
  let here := spans.filter fun span => span.onOneLine && span.start.line = number
  (margin ++ line) ::
    if here.isEmpty then [] else [String.ofList (row margin.length ' ' ++ marks here)]

/-- What is said about a span that no marks show, as it runs over several lines. -/
def acrossLines (span : Span) : String :=
  "on line " ++ Numeral.decimal span.start.line ++
    " (column " ++ Numeral.decimal span.start.column ++
    ") through line " ++ Numeral.decimal span.stop.line ++
    " (column " ++ Numeral.decimal (span.stop.column - 1) ++ ")"

/-- What is shown of a complaint about a pattern. -/
def lines (complaint : Complaint) (pattern : String) : List String :=
  let spans := (complaint.span :: complaint.earlier.toList).mergeSort Span.notBehind
  let cause := "error: " ++ complaint.flaw.message
  let shown := textLines pattern
  let several := pattern.toList.contains '\n'
  let count := shown.length + (if pattern.toList.getLast? = some '\n' then 1 else 0)
  let numberWidth := if several then (Numeral.decimal count).length else 0
  let body := (shown.zipIdx 1).flatMap fun (line, number) => noted spans numberWidth number line
  if several then
    let rule := String.ofList (row 79 '~')
    ["regex parse error:", rule] ++ body ++ [rule] ++
      (spans.filter (!·.onOneLine)).map acrossLines ++ [cause]
  else ["regex parse error:"] ++ body ++ [cause]

end Complaint

end Semihosting.Pattern
