/-!
# Open modes

The mode string of a stdio open: a letter that says what the stream is opened for, then modifiers
in any order, each at most once.

## Main definitions

* `OpenMode` — what a mode string asks for
* `OpenMode.readable`, `OpenMode.writable`, `OpenMode.creates`, `OpenMode.truncates` — what follows
  from it
* `OpenMode.parse?` — reading a mode string
-/

namespace Semihosting

/-- What a stream is opened for. -/
inductive Purpose where
  /-- Reading a file that exists. -/
  | read
  /-- Writing a file from scratch. -/
  | write
  /-- Writing at the end of a file. -/
  | append
deriving DecidableEq, Repr

/-- The access that a mode string asks for. -/
structure OpenMode where
  purpose : Purpose
  /-- Both reading and writing are allowed. -/
  update : Bool := false
  /-- The file must not exist yet. -/
  exclusive : Bool := false
deriving DecidableEq, Repr

namespace OpenMode

/-- Reading is allowed. -/
def readable (m : OpenMode) : Bool := m.purpose = .read || m.update

/-- Every write goes to the end of the file. -/
def appends (m : OpenMode) : Bool := m.purpose = .append

/-- Writing at the position of the stream is allowed. -/
def overwrites (m : OpenMode) : Bool := m.purpose = .write || (m.purpose = .read && m.update)

/-- Writing is allowed at all. -/
def writable (m : OpenMode) : Bool := m.overwrites || m.appends

/-- A missing file is created. -/
def creates (m : OpenMode) : Bool := m.purpose ≠ .read

/-- The content of an existing file is dropped. -/
def truncates (m : OpenMode) : Bool := m.purpose = .write

/-- The purpose named by a letter: `r`, `w` or `a`. -/
def purpose? (letter : UInt8) : Option Purpose :=
  if letter = 0x72 then some .read
  else if letter = 0x77 then some .write
  else if letter = 0x61 then some .append
  else none

/-- The modifier `+`, which allows both reading and writing. -/
def plus : UInt8 := 0x2b

/-- The modifier `x`, which asks for a new file. -/
def new : UInt8 := 0x78

/-- The modifiers `+`, `b`, `x`, `e`, `m` and `c`. All but `+` and `x` are without effect. -/
def modifiers : List UInt8 := [plus, 0x62, new, 0x65, 0x6d, 0x63]

/-- No byte occurs twice. -/
def distinct : List UInt8 → Bool
  | [] => true
  | b :: rest => !rest.contains b && distinct rest

/-- The mode that a letter and modifiers ask for. Only a mode that creates its file can ask for a
new one. -/
def parse? (text : ByteArray) : Option OpenMode :=
  match text.data.toList with
  | [] => none
  | letter :: rest =>
    if rest.all modifiers.contains && distinct rest then
      -- Behind `r` the modifier `x` is let through and means nothing.
      (purpose? letter).map fun purpose =>
        ⟨purpose, rest.contains plus, purpose ≠ .read && rest.contains new⟩
    else none

theorem distinct_iff_nodup {bytes : List UInt8} : distinct bytes = true ↔ bytes.Nodup := by
  induction bytes with
  | nil => simp [distinct]
  | cons b rest ih => simp [distinct, ih]

end OpenMode

end Semihosting
