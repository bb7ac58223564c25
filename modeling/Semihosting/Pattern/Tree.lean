import Semihosting.Pattern.Place

/-!
# Patterns as trees

What a pattern says, part by part, before its settings are taken into account. Each part knows its
span, so that a complaint can point at it.

## Main definitions

* `Atom` — what stands for one character or one condition
* `ClassTree` — a class in brackets
* `Setting` — what changes the meaning of other parts
* `Count` — how often a part is repeated
* `Tree` — a pattern
-/

namespace Semihosting.Pattern

/-- The sides of words. -/
inductive Edge where
  /-- A beginning or an end. -/
  | any
  /-- Neither a beginning nor an end. -/
  | neither
  | start
  | stop
  /-- No part of a word comes before. -/
  | startHalf
  /-- No part of a word follows. -/
  | stopHalf
deriving DecidableEq, Repr

/-- Conditions on a place in a text. -/
inductive Anchor where
  /-- The beginning of the text, or of a line. -/
  | lineStart
  /-- The end of the text, or of a line. -/
  | lineEnd
  /-- The beginning of the text. -/
  | textStart
  /-- The end of the text. -/
  | textEnd
  /-- A side of a word. -/
  | word (edge : Edge)
deriving DecidableEq, Repr

/-- Classes of characters that have an escape of one letter. -/
inductive ShortClass where
  | digit
  | space
  | word
deriving DecidableEq, Repr

/-- Classes of ASCII characters that have a name. -/
inductive NamedClass where
  | alnum
  | alpha
  | ascii
  /-- A space and a tab. -/
  | blank
  | cntrl
  | digit
  | graph
  | lower
  /-- Visible characters and the space. -/
  | print
  /-- Visible characters that are neither letters nor digits. -/
  | punct
  | space
  | upper
  /-- Letters, digits and the low line. -/
  | word
  | xdigit
deriving DecidableEq, Repr

/-- The class of a name. -/
def NamedClass.ofName? : String → Option NamedClass
  | "alnum" => some alnum
  | "alpha" => some alpha
  | "ascii" => some ascii
  | "blank" => some blank
  | "cntrl" => some cntrl
  | "digit" => some digit
  | "graph" => some graph
  | "lower" => some lower
  | "print" => some print
  | "punct" => some punct
  | "space" => some space
  | "upper" => some upper
  | "word" => some word
  | "xdigit" => some xdigit
  | _ => none

/-- A character that stands for itself. -/
structure Literal where
  span : Span
  char : Char
  /-- It is written as a byte, with two hexadecimal digits. -/
  asByte : Bool := false
deriving Repr

/-- What stands for one character or one condition. -/
inductive Atom where
  | char (literal : Literal)
  | dot (span : Span)
  | anchor (span : Span) (anchor : Anchor)
  /-- A character of a class, or of none of its members. -/
  | short (span : Span) (members : ShortClass) (negated : Bool)
  /-- A character with a property. -/
  | property (span : Span) (name : List Char)
deriving Repr

/-- Where an atom is written. -/
def Atom.span : Atom → Span
  | char literal => literal.span
  | dot span | anchor span _ | short span _ _ | property span _ => span

/-- Operations on two classes. -/
inductive SetOp where
  | inter
  /-- The members of the first only. -/
  | diff
  /-- The members of exactly one. -/
  | symmDiff
deriving DecidableEq, Repr

/-- A class in brackets, or a part of it. -/
inductive ClassTree where
  | char (literal : Literal)
  /-- The characters from one to another. -/
  | range (low high : Literal)
  /-- A class with a name, or its complement. -/
  | named (span : Span) (name : NamedClass) (negated : Bool)
  /-- A class with an escape, or its complement. -/
  | short (span : Span) (members : ShortClass) (negated : Bool)
  /-- The characters with a property. -/
  | property (span : Span) (name : List Char)
  /-- The members of any of some classes. -/
  | union (span : Span) (parts : List ClassTree)
  | combine (span : Span) (op : SetOp) (left right : ClassTree)
  /-- Brackets around a class, or around its complement. -/
  | bracket (span : Span) (negated : Bool) (body : ClassTree)
deriving Repr

/-- Where a class is written. -/
def ClassTree.span : ClassTree → Span
  | char literal => literal.span
  | range low high => ⟨low.span.start, high.span.stop⟩
  | named span _ _ | short span _ _ | property span _ | union span _ | combine span _ _ _
  | bracket span _ _ => span

/-- What changes the meaning of other parts. -/
inductive Setting where
  /-- The case of letters makes no difference. -/
  | caseless
  /-- Lines have beginnings and ends of their own. -/
  | multiLine
  /-- The dot stands for line feeds too. -/
  | dotAll
  | swapGreed
  /-- Classes range over all characters, not only over ASCII. -/
  | wide
  /-- A carriage return ends a line, as a line feed does. -/
  | returns
  /-- Blanks and comments in the pattern mean nothing. -/
  | verbose
deriving DecidableEq, Repr

/-- The setting that a letter stands for. -/
def Setting.ofChar? : Char → Option Setting
  | 'i' => some caseless
  | 'm' => some multiLine
  | 's' => some dotAll
  | 'U' => some swapGreed
  | 'u' => some wide
  | 'R' => some returns
  | 'x' => some verbose
  | _ => none

/-- Settings that are switched on or off. -/
abbrev Changes := List (Setting × Bool)

/-- The value that some changes give to a setting, if it is among them. -/
def Changes.value? (changes : Changes) (setting : Setting) : Option Bool :=
  (changes.find? (·.1 = setting)).map (·.2)

/-- How often a part is repeated. -/
structure Count where
  /-- The least number of times. -/
  least : Nat
  /-- The greatest number of times, if there is one. -/
  most : Option Nat
  /-- More times are preferred to fewer. -/
  greedy : Bool := true
deriving DecidableEq, Repr

/-- A pattern, or a part of it. -/
inductive Tree where
  | empty (span : Span)
  /-- A change of settings for the parts that follow. -/
  | settings (span : Span) (changes : Changes)
  /-- A character or a condition. -/
  | atom (atom : Atom)
  /-- A character of a class. -/
  | bracket (members : ClassTree)
  /-- A part, some number of times. -/
  | repeated (span : Span) (body : Tree) (count : Count)
  /-- A part in parentheses, whose match may be captured, under other settings. -/
  | group (span : Span) (captured : Bool) (changes : Changes) (body : Tree)
  | choice (span : Span) (branches : List Tree)
  /-- Some parts, one behind the other. -/
  | sequence (span : Span) (parts : List Tree)
deriving Repr

/-- Where a pattern is written. -/
def Tree.span : Tree → Span
  | empty span | settings span _ | repeated span _ _ | group span _ _ _ | choice span _
  | sequence span _ => span
  | atom a => a.span
  | bracket members => members.span

/-- The pattern of some parts in sequence: a single part stands for itself. -/
def Tree.ofParts (span : Span) : List Tree → Tree
  | [] => .empty span
  | [part] => part
  | parts => .sequence span parts

end Semihosting.Pattern
