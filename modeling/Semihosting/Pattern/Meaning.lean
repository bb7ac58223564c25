import Semihosting.Pattern.Complaint
import Semihosting.Pattern.Regex

/-!
# The meaning of patterns

The regular expression that a pattern stands for. A change of settings holds up to the end of the
group that it stands in. No tables of Unicode are at hand: the classes of digits, blanks and words,
the cases of letters and the properties of characters are known for ASCII only, and a pattern that
needs more is refused. Where wide classes are switched off, a complement could match a part of a
character, and is refused too.

## Main definitions

* `Mode` — the settings that are in force
* `ClassTree.members` — the set of a class
* `Tree.meaning` — the regular expression of a pattern
-/

namespace Semihosting.Pattern

open Complaint (refuse)

/-! ### Settings -/

/-- The settings that are in force. -/
structure Mode where
  /-- The case of letters makes no difference. -/
  caseless : Bool := false
  /-- Lines have beginnings and ends of their own. -/
  multiLine : Bool := false
  /-- The dot stands for line feeds too. -/
  dotAll : Bool := false
  /-- Classes range over all characters, not only over ASCII. -/
  wide : Bool := true
  /-- A carriage return ends a line, as a line feed does. -/
  returns : Bool := false
  /-- Repetitions prefer the opposite of what they say. -/
  swapGreed : Bool := false

namespace Mode

/-- The settings after one of them has been switched. -/
def switch (m : Mode) (setting : Setting) (on : Bool) : Mode :=
  match setting with
  | .caseless => { m with caseless := on }
  | .multiLine => { m with multiLine := on }
  | .dotAll => { m with dotAll := on }
  | .wide => { m with wide := on }
  | .returns => { m with returns := on }
  | .swapGreed => { m with swapGreed := on }
  | .verbose => m

/-- The settings after some changes. -/
def change (m : Mode) (changes : Changes) : Mode :=
  changes.foldl (fun m (setting, on) => m.switch setting on) m

end Mode

/-! ### Classes -/

/-- The members of a class that has an escape, in ASCII. -/
def ShortClass.ascii : ShortClass → CharSet
  | digit => .ofRanges [('0', '9')]
  | space => .ofRanges [('\t', '\x0d'), (' ', ' ')]
  | word => .ofRanges [('0', '9'), ('A', 'Z'), ('_', '_'), ('a', 'z')]

/-- The members of a class that has a name. -/
def NamedClass.members : NamedClass → CharSet
  | alnum => .ofRanges [('0', '9'), ('A', 'Z'), ('a', 'z')]
  | alpha => .ofRanges [('A', 'Z'), ('a', 'z')]
  | ascii => .ofRanges [('\x00', '\x7f')]
  | blank => .ofRanges [('\t', '\t'), (' ', ' ')]
  | cntrl => .ofRanges [('\x00', '\x1f'), ('\x7f', '\x7f')]
  | digit => .ofRanges [('0', '9')]
  | graph => .ofRanges [('!', '~')]
  | lower => .ofRanges [('a', 'z')]
  | print => .ofRanges [(' ', '~')]
  | punct => .ofRanges [('!', '/'), (':', '@'), ('[', '\x60'), ('\x7b', '~')]
  | space => .ofRanges [('\t', '\x0d'), (' ', ' ')]
  | upper => .ofRanges [('A', 'Z')]
  | word => .ofRanges [('0', '9'), ('A', 'Z'), ('_', '_'), ('a', 'z')]
  | xdigit => .ofRanges [('0', '9'), ('A', 'F'), ('a', 'f')]

/-- The result of an operation. -/
def SetOp.apply : SetOp → CharSet → CharSet → CharSet
  | inter => .inter
  | diff => .diff
  | symmDiff => .symmDiff

/-- The members of a class that has an escape, or its complement. -/
def ShortClass.members (mode : Mode) (span : Span) (negated : Bool) (c : ShortClass) :
    Except Complaint CharSet :=
  if mode.wide then refuse .classUnknown span
  else if negated then refuse .partOfChar span
  else .ok c.ascii

/-- The name of a property as it is compared: in small letters, without a leading `is` and without
separators. -/
def plainName (name : List Char) : List Char :=
  let small := name.map Char.toLower
  let bare := match small with
    | 'i' :: 's' :: rest => rest
    | all => all
  bare.filter fun c => c.toNat < 0x80 && c ≠ ' ' && c ≠ '_' && c ≠ '-'

/-- What is wrong with a property: none is known. Of three names it is clear that they are values
of the general category. -/
def propertyFlaw (mode : Mode) (name : List Char) : Flaw :=
  if !mode.wide then .beyondAscii
  else if name.contains '=' || name.contains ':' then .propertyUnknown
  else if [['c', 'f'], ['s', 'c'], ['l', 'c']].contains (plainName name) then .propertyValueUnknown
  else .propertyUnknown

/-- The character of a literal. Where wide classes are switched off, a byte has to be ASCII. -/
def Literal.value (mode : Mode) (l : Literal) : Except Complaint Char :=
  if !mode.wide && l.asByte && 0x80 ≤ l.char.toNat then refuse .partOfChar l.span else .ok l.char

/-- The character of a literal in a class. Where wide classes are switched off, it has to be
ASCII. -/
def Literal.member (mode : Mode) (l : Literal) : Except Complaint Char := do
  let c ← l.value mode
  if !mode.wide && 0x80 ≤ c.toNat then refuse .beyondAscii l.span else return c

mutual

/-- A class lists characters, not only classes in brackets and the results of operations. -/
def ClassTree.listsChars : ClassTree → Bool
  | .char _ | .range _ _ | .named _ _ _ => true
  | .union _ parts => ClassTree.anyListsChars parts
  | .short _ _ _ | .property _ _ | .combine _ _ _ _ | .bracket _ _ _ => false

/-- One of some classes lists characters. -/
def ClassTree.anyListsChars : List ClassTree → Bool
  | [] => false
  | part :: rest => part.listsChars || ClassTree.anyListsChars rest

end

/-- The members of a class, or part of one, where the case of letters is taken into account. -/
def ClassTree.fold (mode : Mode) (tree : ClassTree) (span : Span) (set : CharSet) :
    Except Complaint CharSet :=
  if !mode.caseless then .ok set
  else if !mode.wide then .ok set.foldCase
  else if tree.listsChars then refuse .caseUnknown span
  else .ok set

/-- The members of a class, or of its complement. -/
def ClassTree.settle (mode : Mode) (tree : ClassTree) (span : Span) (negated : Bool)
    (set : CharSet) : Except Complaint CharSet := do
  let set ← tree.fold mode span set
  if !negated then return set
  else if mode.wide then return set.complement
  else refuse .partOfChar span

mutual

/-- The members of a class. -/
def ClassTree.members (mode : Mode) : ClassTree → Except Complaint CharSet
  | .char literal => do return .ofChar (← literal.member mode)
  | .range low high => do
    let low ← low.member mode
    let high ← high.member mode
    return .ofRange low high
  | .named span name negated =>
    (ClassTree.named span name negated).settle mode span negated name.members
  | .short span members negated => members.members mode span negated
  | .property span name => refuse (propertyFlaw mode name) span
  | .union _ parts => do return .unionAll (← ClassTree.membersOfAll mode [] parts)
  | .combine _ op left right => do
    let leftSet ← left.members mode
    let rightSet ← right.members mode
    -- The right side is the first to be refused.
    let rightSet ← right.fold mode right.span rightSet
    let leftSet ← left.fold mode left.span leftSet
    return op.apply leftSet rightSet
  | .bracket span negated body => do
    let set ← body.members mode
    body.settle mode span negated set

/-- The sets of some classes behind others whose sets are given, in no particular order. -/
def ClassTree.membersOfAll (mode : Mode) (earlier : List CharSet) :
    List ClassTree → Except Complaint (List CharSet)
  | [] => .ok earlier
  | part :: rest => do
    let set ← part.members mode
    ClassTree.membersOfAll mode (set :: earlier) rest

end

/-! ### Patterns -/

/-- The characters that a dot stands for. -/
def Mode.dotSet (m : Mode) : CharSet :=
  if m.dotAll then .all
  else if m.returns then (CharSet.ofRanges [('\n', '\n'), ('\x0d', '\x0d')]).complement
  else (CharSet.ofChar '\n').complement

/-- The condition that an anchor stands for. -/
def Anchor.meaning (mode : Mode) : Anchor → Look
  | lineStart =>
    if !mode.multiLine then .textStart else if mode.returns then .returnStart else .lineStart
  | lineEnd =>
    if !mode.multiLine then .textEnd else if mode.returns then .returnEnd else .lineEnd
  | textStart => .textStart
  | textEnd => .textEnd
  | word edge => .word edge mode.wide

/-- The regular expression of a class in brackets or of one with an escape, with some members. -/
def Mode.set (m : Mode) (members : CharSet) : Regex := .ofSet members m.wide

/-- The regular expression of an atom. -/
def Atom.meaning (mode : Mode) : Atom → Except Complaint Regex
  | char literal => do
    let c ← literal.value mode
    if !mode.caseless then return .literal [c]
    else if mode.wide then refuse .caseUnknown literal.span
    else return mode.set (CharSet.ofChar c).foldCase
  | dot span => if mode.wide then .ok (mode.set mode.dotSet) else refuse .partOfChar span
  | anchor _ a => .ok (.look (a.meaning mode))
  | short span members negated => do return mode.set (← members.members mode span negated)
  | property span name => refuse (propertyFlaw mode name) span

mutual

/-- The regular expression of a pattern, and the settings that are in force behind it. -/
def Tree.meaning (mode : Mode) : Tree → Except Complaint (Regex × Mode)
  | .empty _ => .ok (.nothing, mode)
  | .settings _ changes => .ok (.nothing, mode.change changes)
  | .atom a => do return (← a.meaning mode, mode)
  | .bracket members => do return (mode.set (← members.members mode), mode)
  | .repeated _ body count => do
    let (r, mode) ← body.meaning mode
    return (r.times count.least count.most (count.greedy != mode.swapGreed), mode)
  | .group _ captured changes body => do
    let (r, _) ← body.meaning (mode.change changes)
    return (if captured then .captured r else r, mode)
  | .choice _ branches => do
    let (rs, mode) ← Tree.meanings mode [] branches
    return (.ofBranches rs, mode)
  | .sequence _ parts => do
    let (rs, mode) ← Tree.meanings mode [] parts
    return (.ofParts rs, mode)

/-- The regular expressions of some patterns behind others whose expressions are given, the latest
first. Each is under the settings that the one before it leaves. With them, the settings that are in
force behind the last one. -/
def Tree.meanings (mode : Mode) (earlier : List Regex) :
    List Tree → Except Complaint (List Regex × Mode)
  | [] => .ok (earlier.reverse, mode)
  | part :: rest => do
    let (r, mode) ← part.meaning mode
    Tree.meanings mode (r :: earlier) rest

end

end Semihosting.Pattern
