/-!
# Places in a pattern

Where a character of a pattern stands, so that complaints can point at it. Lines and columns are
counted from one; a line ends behind its line feed.

## Main definitions

* `Place` — a line and a column
* `Span` — the characters from one place up to another
-/

namespace Semihosting.Pattern

/-- A place between characters. -/
structure Place where
  /-- The line, counted from one. -/
  line : Nat := 1
  /-- The column, counted from one. -/
  column : Nat := 1
deriving DecidableEq, Repr

namespace Place

/-- The place behind a character. -/
def after (p : Place) (c : Char) : Place :=
  if c = '\n' then ⟨p.line + 1, 1⟩ else ⟨p.line, p.column + 1⟩

/-- One place is not behind another. -/
def notBehind (p q : Place) : Bool := p.line < q.line || p.line = q.line && p.column ≤ q.column

end Place

/-- The characters from one place up to another. -/
structure Span where
  /-- The place of the first character. -/
  start : Place
  /-- The place behind the last character. -/
  stop : Place
deriving DecidableEq, Repr

namespace Span

/-- The span of no character. -/
def empty (p : Place) : Span := ⟨p, p⟩

/-- The span stays on one line. -/
def onOneLine (s : Span) : Bool := s.start.line = s.stop.line

/-- The order of spans: by their first characters, then by their last ones. -/
def notBehind (s t : Span) : Bool :=
  if s.start = t.start then s.stop.notBehind t.stop else s.start.notBehind t.start

end Span

end Semihosting.Pattern
