import Semihosting.Pattern.Place
import Semihosting.Text.Blank

/-!
# Cursors

A cursor stands at a place in a pattern and sees the characters from there on. In a verbose pattern
it can pass over blanks, and over comments: a number sign and what follows it on the line.

## Main definitions

* `Cursor` — a place, with the characters from there on
* `Cursor.bump`, `Cursor.skip`, `Cursor.advance` — moving on
* `Cursor.past?` — moving on behind a given text
* `Cursor.collect` — moving on behind all characters of a kind
-/

namespace Semihosting.Pattern

/-- A place, with the characters from there on. -/
structure Cursor where
  /-- The characters from here on. -/
  rest : List Char
  /-- The place of the first of them. -/
  place : Place := {}
deriving Repr

namespace Cursor

/-- The cursor behind the next character. -/
def bump (c : Cursor) : Cursor :=
  match c.rest with
  | [] => c
  | head :: rest => ⟨rest, c.place.after head⟩

/-- The span of the next character. -/
def span (c : Cursor) : Span := ⟨c.place, c.bump.place⟩

/-- The span of no character, at the cursor. -/
def here (c : Cursor) : Span := .empty c.place

/-- The span from a place up to the cursor. -/
def since (c : Cursor) (start : Place) : Span := ⟨start, c.place⟩

/-- The cursor behind a text, if the text comes next. -/
def past? (c : Cursor) : List Char → Option Cursor
  | [] => some c
  | head :: text => if c.rest.head? = some head then c.bump.past? text else none

/-- The cursor behind the blanks and comments that come next; `comment` means that it stands inside
a comment. -/
def skipFrom (comment : Bool) (place : Place) : List Char → Cursor
  | [] => ⟨[], place⟩
  | c :: rest =>
    if comment then skipFrom (c ≠ '\n') (place.after c) rest
    else if c = '#' then skipFrom true (place.after c) rest
    else if Text.isBlank c then skipFrom false (place.after c) rest
    else ⟨c :: rest, place⟩

/-- The cursor behind the blanks and comments that come next, in a verbose pattern. -/
def skip (verbose : Bool) (c : Cursor) : Cursor :=
  if verbose then skipFrom false c.place c.rest else c

/-- The cursor behind the next character and, in a verbose pattern, what can be skipped then. -/
def advance (verbose : Bool) (c : Cursor) : Cursor := c.bump.skip verbose

/-- The characters of a kind that come next, and the cursor behind them; `comment` means that it
stands inside a comment. -/
def collectFrom (verbose : Bool) (kind : Char → Bool) (comment : Bool) (place : Place) :
    List Char → List Char × Cursor
  | [] => ([], ⟨[], place⟩)
  | c :: rest =>
    if comment then collectFrom verbose kind (c ≠ '\n') (place.after c) rest
    else if verbose && c = '#' then collectFrom verbose kind true (place.after c) rest
    else if verbose && Text.isBlank c then collectFrom verbose kind false (place.after c) rest
    else if kind c then
      let (found, stop) := collectFrom verbose kind false (place.after c) rest
      (c :: found, stop)
    else ([], ⟨c :: rest, place⟩)

/-- The characters of a kind that come next, without what can be skipped between them, and the
cursor behind them. -/
def collect (verbose : Bool) (kind : Char → Bool) (c : Cursor) : List Char × Cursor :=
  collectFrom verbose kind false c.place c.rest

/-- The next character that is neither blank nor begins a comment, behind the one at the cursor.
The text of a comment is not passed over. -/
def peek? (verbose : Bool) (c : Cursor) : Option Char :=
  let behind := c.rest.drop 1
  if verbose then
    match behind.dropWhile Text.isBlank with
    | '#' :: comment => (comment.dropWhile Text.isBlank).head?
    | found => found.head?
  else behind.head?

end Cursor

end Semihosting.Pattern
