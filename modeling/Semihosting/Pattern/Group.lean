import Semihosting.Pattern.Escape
import Semihosting.Text.Letters

/-!
# The beginnings of groups

What follows an opening parenthesis: nothing special, a name, or changes of settings. Changes that
end with a colon hold for the group only; otherwise there is no group, and they hold for the parts
that follow.

## Main definitions

* `GroupName` — the name of a group
* `GroupStart` — what an opening parenthesis begins
* `GroupStart.read` — reading it
-/

namespace Semihosting.Pattern

open Complaint (refuse)

/-- The name of a group. -/
structure GroupName where
  text : List Char
  span : Span

/-- What an opening parenthesis begins. -/
inductive GroupStart where
  /-- Changes of settings for the parts that follow; their parenthesis is closed already. -/
  | settings (changes : Changes)
  /-- A group whose match is captured. -/
  | capture
  /-- A group whose match is captured under a name. -/
  | named (name : GroupName)
  /-- A group under other settings, whose match is not captured. -/
  | plain (changes : Changes)

namespace GroupStart

/-! ### Names -/

/-- A character that a name may begin with. -/
def isNameStart (c : Char) : Bool := c = '_' || Text.isLetter c

/-- A character that a name may go on with. -/
def isNameChar (c : Char) : Bool :=
  c = '_' || c = '.' || c = '[' || c = ']' || Text.isLetter c || Text.isNumber c

/-- The characters up to a closing angle bracket, of which the first must be of one kind and the
others of another. -/
def readNameChars (kind : Char → Bool) (place : Place) :
    List Char → Except Complaint (List Char × Cursor)
  | [] => refuse .nameUnclosed (.empty place)
  | c :: rest =>
    if c = '>' then .ok ([], ⟨c :: rest, place⟩)
    else if kind c then do
      let (name, last) ← readNameChars isNameChar (place.after c) rest
      return (c :: name, last)
    else refuse .nameChar ⟨place, place.after c⟩

/-- The name of a group, the cursor being at its beginning. Names must differ. -/
def readName (known : List GroupName) (cursor : Cursor) :
    Except Complaint (GroupName × Cursor) := do
  let (text, last) ← readNameChars isNameStart cursor.place cursor.rest
  let span := last.since cursor.place
  if text.isEmpty then refuse .nameEmpty span
  else match known.find? (·.text = text) with
    | some earlier => .error { flaw := .nameTwice, span, earlier := some earlier.span }
    | none => return ({ text, span }, last.bump)

/-! ### Changes of settings -/

/-- The letters and minus signs among changes, each with its place; `none` is a minus sign. -/
abbrev Flags := List (Option Setting × Span)

/-- The changes that flags mean: what stands behind the minus sign is switched off. -/
def changesOf (flags : Flags) : Changes :=
  let on := flags.takeWhile (·.1.isSome)
  let off := flags.drop on.length
  on.filterMap (fun flag => flag.1.map (·, true)) ++
    off.filterMap (fun flag => flag.1.map (·, false))

/-- A flag, which differs from those before. -/
def readFlag (before : Flags) (c : Char) (span : Span) :
    Except Complaint (Option Setting × Span) := do
  let flag ← match c, Setting.ofChar? c with
    | '-', _ => pure none
    | _, some setting => pure (some setting)
    | _, none => refuse .flagUnknown span
  match before.find? (·.1 = flag) with
  | some (_, earlier) =>
    .error { flaw := if flag.isNone then .flagNegatedTwice else .flagTwice, span
             earlier := some earlier }
  | none => return (flag, span)

/-- Flags up to a colon or a closing parenthesis. The last one is no minus sign. -/
def readFlags (before : Flags) (place : Place) :
    List Char → Except Complaint (Flags × Cursor)
  | [] => refuse .flagsUnfinished (.empty place)
  | c :: rest =>
    if c = ':' ∨ c = ')' then
      match before.getLast? with
      | some (none, span) => refuse .flagDangling span
      | _ => .ok (before, ⟨c :: rest, place⟩)
    else do
      let flag ← readFlag before c ⟨place, place.after c⟩
      readFlags (before ++ [flag]) (place.after c) rest

/-! ### Beginnings -/

/-- What asks about the surroundings of the text. -/
def lookAroundSigns : List (List Char) :=
  [['?', '='], ['?', '!'], ['?', '<', '='], ['?', '<', '!']]

/-- What an opening parenthesis begins, the cursor being at the parenthesis. -/
def read (verbose : Bool) (known : List GroupName) (cursor : Cursor) :
    Except Complaint (GroupStart × Cursor) :=
  let first := cursor.advance verbose
  -- The signs that look backwards begin like a name, so they come first.
  match lookAroundSigns.findSome? first.past? with
  | some behind => refuse .lookAround (behind.since cursor.place)
  | none =>
    match first.past? ['?', 'P', '<'] <|> first.past? ['?', '<'] with
    | some inside => do
      let (name, behind) ← readName known inside
      return (.named name, behind)
    | none =>
      match first.past? ['?'] with
      | none => .ok (.capture, first)
      | some inside =>
        if inside.rest.isEmpty then refuse .groupUnclosed cursor.span
        else do
          let (flags, last) ← readFlags [] inside.place inside.rest
          if last.rest.head? = some ':' then return (.plain (changesOf flags), last.bump)
          -- Without flags, the question mark is a sign that repeats nothing.
          else if flags.isEmpty then refuse .nothingToRepeat first.here
          else return (.settings (changesOf flags), last.bump)

end GroupStart

end Semihosting.Pattern
