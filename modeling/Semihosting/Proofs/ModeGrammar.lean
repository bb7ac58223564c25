import Mathlib.Data.List.Nodup
import Semihosting.File.OpenMode

/-!
# The grammar of mode strings

A mode string is one of the letters `r`, `w` and `a`, and behind it modifiers, none of them twice.
What it asks for depends on the letter and on the set of the modifiers, and among these only `+` and
`x` have an effect. So a mode is read alike in whichever order its modifiers stand, and with or
without one that has none. Whatever is read as a mode can be opened: it asks for some access, and it
creates a file, empties one or insists on a new one only if it may write to it.

## Main definitions

* `OpenMode.Modifies`, `OpenMode.Spells` — distinct modifiers, and a letter in front of them
* `OpenMode.AsksFor` — what a letter and modifiers ask for
* `OpenFlags`, `OpenMode.flags` — the flags with which a file is opened
* `OpenFlags.accepted`, `OpenMode.Sound` — flags that can be opened with, and ones that fit together
* `OpenFlags.parse?` — reading flags, letter by letter

## Main results

* `OpenMode.parse?_eq_some_iff` — what is read as a mode, and as which
* `OpenFlags.parse?_eq` — the flags that are read are those of the mode
* `OpenMode.parse?_spelled_congr` — what reading a mode depends on
* `OpenMode.parses_iff_spells` — mode strings and their meaning
-/

namespace Semihosting

/-! ### Flags of an open -/

/-- The flags with which a file is opened. -/
structure OpenFlags where
  read : Bool := false
  write : Bool := false
  append : Bool := false
  create : Bool := false
  truncate : Bool := false
  /-- The file must not exist yet. -/
  new : Bool := false
deriving DecidableEq, Repr

/-- Whether a file can be opened with some flags. They ask for some access, and without access for
writing they create and empty nothing. A file that is appended to is not emptied, unless it must be
new, where there is nothing to empty. -/
def OpenFlags.accepted (f : OpenFlags) : Bool :=
  (f.read || f.write || f.append) &&
    match f.write, f.append with
    | true, false => true
    | false, false => !(f.create || f.truncate || f.new)
    | _, true => !f.truncate || f.new

namespace OpenMode

variable {m m' : OpenMode} {text : ByteArray} {letter : UInt8} {marks marks' : List UInt8}

/-- The flags of a mode. -/
def flags (m : OpenMode) : OpenFlags :=
  ⟨m.readable, m.overwrites, m.appends, m.creates, m.truncates, m.exclusive⟩

/-- The flags tell modes apart: the purpose is known from what becomes of the file, and then access
tells whether the mode is one for updates. -/
theorem eq_of_flags_eq (h : m.flags = m'.flags) : m = m' := by
  obtain ⟨purpose, update, exclusive⟩ := m
  obtain ⟨purpose', update', exclusive'⟩ := m'
  cases purpose <;> cases purpose' <;>
    simp_all [flags, readable, overwrites, appends, creates, truncates]

/-- The flags of a mode fit together. -/
structure Sound (m : OpenMode) : Prop where
  /-- Some access is asked for. -/
  opens : m.readable ∨ m.overwrites ∨ m.appends
  writable_of_creates : m.creates → m.writable
  writable_of_truncates : m.truncates → m.writable
  writable_of_exclusive : m.exclusive → m.writable
  /-- What is appended to is not emptied. -/
  not_appends_of_truncates : m.truncates → ¬ m.appends
  creates_of_exclusive : m.exclusive → m.creates

/-- A mode fits together if it insists on a new file only where it creates one. The other conditions
hold by the purpose. -/
theorem sound_of_exclusive (h : m.exclusive → m.creates) : m.Sound := by
  obtain ⟨purpose, update, exclusive⟩ := m
  cases purpose with
  | read =>
    have shared : exclusive = false := by simpa [creates] using h
    constructor <;> simp [readable, creates, truncates, shared]
  | write => constructor <;> simp [overwrites, appends, creates, truncates, writable]
  | append => constructor <;> simp [appends, creates, truncates, writable]

/-- Flags that fit together can be opened with. -/
theorem Sound.accepted (sound : m.Sound) : m.flags.accepted := by
  obtain ⟨purpose, update, exclusive⟩ := m
  cases purpose with
  | read =>
    have shared : exclusive = false := by simpa [creates] using sound.creates_of_exclusive
    cases update <;> simp [OpenFlags.accepted, flags, readable, overwrites, appends, creates,
      truncates, shared]
  | write | append =>
    simp [OpenFlags.accepted, flags, overwrites, appends, truncates]

/-! ### The grammar -/

/-- Modifiers, none of them twice. -/
structure Modifies (marks : List UInt8) : Prop where
  mem : ∀ b ∈ marks, b ∈ "+bxemc".toUTF8.data.toList
  nodup : marks.Nodup

/-- A text is a letter, one that names a purpose, and then modifiers. -/
structure Spells (text : ByteArray) (letter : UInt8) (marks : List UInt8) : Prop where
  toList_eq : text.data.toList = letter :: marks
  names : letter ∈ "rwa".toUTF8.data.toList
  modifies : Modifies marks

/-- A mode is what a letter and modifiers ask for. -/
structure AsksFor (m : OpenMode) (letter : UInt8) (marks : List UInt8) : Prop where
  readable_iff : m.readable ↔ letter = 'r'.toUInt8 ∨ '+'.toUInt8 ∈ marks
  appends_iff : m.appends ↔ letter = 'a'.toUInt8
  overwrites_iff :
    m.overwrites ↔ letter = 'w'.toUInt8 ∨ letter = 'r'.toUInt8 ∧ '+'.toUInt8 ∈ marks
  creates_iff : m.creates ↔ letter = 'w'.toUInt8 ∨ letter = 'a'.toUInt8
  truncates_iff : m.truncates ↔ letter = 'w'.toUInt8
  exclusive_iff : m.exclusive ↔ 'x'.toUInt8 ∈ marks ∧ letter ≠ 'r'.toUInt8

/-- A letter and modifiers ask for one mode only. -/
theorem AsksFor.unique (asks : m.AsksFor letter marks) (asks' : m'.AsksFor letter marks) :
    m = m' := by
  apply eq_of_flags_eq
  rw [flags, flags, OpenFlags.mk.injEq]
  simp only [Bool.eq_iff_iff, asks.readable_iff, asks.overwrites_iff, asks.appends_iff,
    asks.creates_iff, asks.truncates_iff, asks.exclusive_iff, asks'.readable_iff,
    asks'.overwrites_iff, asks'.appends_iff, asks'.creates_iff, asks'.truncates_iff,
    asks'.exclusive_iff, and_self]

/-- The text made of a letter and modifiers. -/
def spelled (letter : UInt8) (marks : List UInt8) : ByteArray := ⟨(letter :: marks).toArray⟩

/-! ### Reading -/

/-- The modifiers are looked at one by one, and each is compared with those behind it. -/
theorem all_and_distinct_iff :
    (marks.all modifiers.contains && distinct marks) = true ↔ Modifies marks := by
  have known : modifiers = "+bxemc".toUTF8.data.toList := rfl
  rw [Bool.and_eq_true, distinct_iff_nodup, known]
  constructor
  · rintro ⟨mem, nodup⟩
    exact ⟨by simpa using mem, nodup⟩
  · rintro ⟨mem, nodup⟩
    exact ⟨by simpa using mem, nodup⟩

theorem modifies_nil : Modifies [] := ⟨nofun, .nil⟩

theorem modifies_cons {mark : UInt8} : Modifies (mark :: marks) ↔
    mark ∈ "+bxemc".toUTF8.data.toList ∧ mark ∉ marks ∧ Modifies marks := by
  constructor
  · rintro ⟨mem, nodup⟩
    obtain ⟨known, mem⟩ := List.forall_mem_cons.mp mem
    obtain ⟨other, nodup⟩ := List.nodup_cons.mp nodup
    exact ⟨known, other, mem, nodup⟩
  · rintro ⟨known, other, mem, nodup⟩
    exact ⟨List.forall_mem_cons.mpr ⟨known, mem⟩, List.nodup_cons.mpr ⟨other, nodup⟩⟩

instance : Decidable (Modifies marks) := decidable_of_iff _ all_and_distinct_iff

/-- The mode of a purpose and modifiers. -/
def asked (marks : List UInt8) (purpose : Purpose) : OpenMode :=
  ⟨purpose, marks.contains plus, purpose ≠ .read && marks.contains new⟩

theorem parse?_of_toList (h : text.data.toList = letter :: marks) :
    parse? text = if Modifies marks then (purpose? letter).map (asked marks) else none := by
  unfold parse?
  rw [h]
  simp only [all_and_distinct_iff]
  rfl

theorem names_iff : letter ∈ "rwa".toUTF8.data.toList ↔
    letter = 'r'.toUInt8 ∨ letter = 'w'.toUInt8 ∨ letter = 'a'.toUInt8 := by
  have letters : "rwa".toUTF8.data.toList = ['r'.toUInt8, 'w'.toUInt8, 'a'.toUInt8] := rfl
  rw [letters]
  simp

/-- A letter names a purpose, and the mode of this purpose is what letter and modifiers ask for. -/
theorem exists_asksFor (names : letter ∈ "rwa".toUTF8.data.toList) (marks : List UInt8) :
    ∃ purpose, purpose? letter = some purpose ∧ (asked marks purpose).AsksFor letter marks := by
  have update : '+'.toUInt8 = plus := rfl
  have insist : 'x'.toUInt8 = new := rfl
  -- What a mode does not do is what only other letters ask for.
  have read_write : 'r'.toUInt8 ≠ 'w'.toUInt8 := by decide
  have read_append : 'r'.toUInt8 ≠ 'a'.toUInt8 := by decide
  have write_append : 'w'.toUInt8 ≠ 'a'.toUInt8 := by decide
  rcases names_iff.mp names with rfl | rfl | rfl
  · refine ⟨.read, rfl, ?_⟩
    constructor <;> simp [asked, readable, overwrites, appends, creates, truncates, update,
      read_write, read_append]
  · refine ⟨.write, rfl, ?_⟩
    constructor <;> simp [asked, readable, overwrites, appends, creates, truncates, update, insist,
      read_write.symm, write_append]
  · refine ⟨.append, rfl, ?_⟩
    constructor <;> simp [asked, readable, overwrites, appends, creates, truncates, update, insist,
      read_append.symm, write_append.symm]

theorem names_of_purpose? {purpose : Purpose} (h : purpose? letter = some purpose) :
    letter ∈ "rwa".toUTF8.data.toList := by
  unfold purpose? at h
  split at h
  · next read => exact read ▸ by decide
  · split at h
    · next write => exact write ▸ by decide
    · split at h
      · next append => exact append ▸ by decide
      · cases h

/-- A text is read as a mode exactly if it is a letter with modifiers that ask for this mode. -/
theorem parse?_eq_some_iff :
    parse? text = some m ↔
      ∃ letter marks, Spells text letter marks ∧ m.AsksFor letter marks := by
  constructor
  · intro parsed
    cases shape : text.data.toList with
    | nil =>
      rw [parse?, shape] at parsed
      cases parsed
    | cons letter marks =>
      rw [parse?_of_toList shape] at parsed
      obtain ⟨modifies, parsed⟩ := Option.ite_none_right_eq_some.mp parsed
      obtain ⟨purpose, named, rfl⟩ := Option.map_eq_some_iff.mp parsed
      have names := names_of_purpose? named
      -- A letter names one purpose only, so the mode that was read is the one that is asked for.
      obtain ⟨purpose', named', asks⟩ := exists_asksFor names marks
      obtain rfl := Option.some.inj (named.symm.trans named')
      exact ⟨letter, marks, ⟨shape, names, modifies⟩, asks⟩
  · rintro ⟨letter, marks, ⟨shape, names, modifies⟩, asks⟩
    obtain ⟨purpose, named, asks'⟩ := exists_asksFor names marks
    rw [parse?_of_toList shape, if_pos modifies, named, Option.map_some, asks.unique asks']

theorem isSome_parse?_iff :
    (parse? text).isSome ↔ ∃ letter marks, Spells text letter marks := by
  rw [Option.isSome_iff_exists]
  constructor
  · rintro ⟨m, parsed⟩
    obtain ⟨letter, marks, spells, -⟩ := parse?_eq_some_iff.mp parsed
    exact ⟨letter, marks, spells⟩
  · rintro ⟨letter, marks, spells⟩
    obtain ⟨purpose, -, asks⟩ := exists_asksFor spells.names marks
    exact ⟨_, parse?_eq_some_iff.mpr ⟨letter, marks, spells, asks⟩⟩

/-- What is read as a mode fits together. -/
theorem sound_of_parse? (parsed : parse? text = some m) : m.Sound := by
  obtain ⟨letter, marks, spells, asks⟩ := parse?_eq_some_iff.mp parsed
  apply sound_of_exclusive
  intro exclusive
  rw [asks.exclusive_iff] at exclusive
  exact asks.creates_iff.mpr ((names_iff.mp spells.names).resolve_left exclusive.2)

end OpenMode

/-! ### Reading flags

Flags can be read from a text directly: the letter sets some, the modifiers are taken in one by one,
and when all of them were seen, `x` and `+` set more. -/

namespace OpenFlags

open OpenMode (Modifies modifiers plus)

variable {letter : UInt8} {seen marks : List UInt8}

/-- The flags that a letter sets. -/
def ofLetter? (letter : UInt8) : Option OpenFlags :=
  if letter = 0x72 then some { read := true }
  else if letter = 0x77 then some { write := true, create := true, truncate := true }
  else if letter = 0x61 then some { append := true, create := true }
  else none

/-- The modifiers that were seen, after some more. Whatever is no modifier, or was seen before, is
not taken in. -/
def meet? (seen : List UInt8) : List UInt8 → Option (List UInt8)
  | [] => some seen
  | mark :: marks =>
    if !modifiers.contains mark || seen.contains mark then none else meet? (seen ++ [mark]) marks

/-- The flags that are set once all modifiers were seen. -/
def settle (f : OpenFlags) (seen : List UInt8) : OpenFlags :=
  let f := { f with new := f.create && seen.contains OpenMode.new }
  if seen.contains plus then { f with read := true, write := f.write || !f.append } else f

/-- The flags that a text asks for. -/
def parse? (text : ByteArray) : Option OpenFlags :=
  match text.data.toList with
  | [] => none
  | letter :: rest => do
    let flags ← ofLetter? letter
    let seen ← meet? [] rest
    return flags.settle seen

/-- Modifiers are taken in if they are distinct from each other and from those before. -/
theorem meet?_eq_some_iff {all : List UInt8} :
    meet? seen marks = some all ↔
      all = seen ++ marks ∧ Modifies marks ∧ ∀ b ∈ marks, b ∉ seen := by
  have known : modifiers = "+bxemc".toUTF8.data.toList := rfl
  induction marks generalizing seen with
  | nil => simp [meet?, OpenMode.modifies_nil, eq_comm]
  | cons mark marks ih =>
    rw [meet?, known, OpenMode.modifies_cons, List.forall_mem_cons]
    split
    · next refused =>
      rw [Bool.or_eq_true, Bool.not_eq_true', List.contains_iff_mem] at refused
      refine ⟨nofun, fun ⟨_, ⟨there, _⟩, fresh, _⟩ => ?_⟩
      rcases refused with unknown | met
      · rw [List.contains_iff_mem.mpr there] at unknown
        cases unknown
      · exact absurd met fresh
    · next taken =>
      rw [Bool.or_eq_true, Bool.not_eq_true', List.contains_iff_mem, not_or,
        Bool.not_eq_false, List.contains_iff_mem] at taken
      refine ih.trans ?_
      rw [List.append_assoc, List.singleton_append]
      simp only [taken, List.mem_append, List.mem_singleton, not_or, true_and, not_false_eq_true]
      constructor
      · rintro ⟨rfl, modifies, fresh⟩
        exact ⟨rfl, ⟨fun met => (fresh mark met).2 rfl, modifies⟩, fun b there => (fresh b there).1⟩
      · rintro ⟨rfl, ⟨other, modifies⟩, fresh⟩
        exact ⟨rfl, modifies, fun b there => ⟨fresh b there, fun same => other (same ▸ there)⟩⟩

/-- Taking modifiers in one by one comes to comparing each with those behind it. -/
theorem meet?_nil : meet? [] marks = if Modifies marks then some marks else none := by
  apply Option.ext
  intro all
  rw [meet?_eq_some_iff, Option.ite_none_right_eq_some]
  simp [and_comm, eq_comm]

/-- A letter sets the flags of its purpose, and the modifiers set those of the mode. -/
theorem ofLetter?_settle :
    (ofLetter? letter).map (settle · marks) =
      (OpenMode.purpose? letter).map fun purpose => (OpenMode.asked marks purpose).flags := by
  have settled (purpose : Purpose) :
      (OpenMode.asked [] purpose).flags.settle marks = (OpenMode.asked marks purpose).flags := by
    cases purpose <;> by_cases update : plus ∈ marks <;> by_cases insist : OpenMode.new ∈ marks <;>
      simp [settle, OpenMode.asked, OpenMode.flags, OpenMode.readable, OpenMode.overwrites,
        OpenMode.appends, OpenMode.creates, OpenMode.truncates, update, insist]
  rw [ofLetter?, OpenMode.purpose?]
  split_ifs
  · exact congrArg some (settled .read)
  · exact congrArg some (settled .write)
  · exact congrArg some (settled .append)
  · rfl

/-- The flags that are read are those of the mode that is read. -/
theorem parse?_eq (text : ByteArray) : parse? text = (OpenMode.parse? text).map OpenMode.flags := by
  cases shape : text.data.toList with
  | nil =>
    rw [parse?, OpenMode.parse?, shape]
    rfl
  | cons letter marks =>
    have settled : (ofLetter? letter).map (settle · marks) = _ := ofLetter?_settle
    rw [parse?, OpenMode.parse?_of_toList shape, shape]
    dsimp only
    rw [meet?_nil]
    split
    · rw [Option.map_map]
      refine Eq.trans ?_ settled
      cases ofLetter? letter <;> rfl
    · cases ofLetter? letter <;> rfl

end OpenFlags

namespace OpenMode

variable {m m' : OpenMode} {text : ByteArray} {letter : UInt8} {marks marks' : List UInt8}

/-! ### What matters -/

/-- Reading a mode depends on its letter, on whether its modifiers are distinct ones, and on whether
`+` and `x` are among them. -/
theorem parse?_spelled_congr (fit : Modifies marks ↔ Modifies marks')
    (same_plus : plus ∈ marks ↔ plus ∈ marks') (same_new : new ∈ marks ↔ new ∈ marks') :
    parse? (spelled letter marks) = parse? (spelled letter marks') := by
  have same : asked marks = asked marks' := by
    funext purpose
    simp [asked, same_plus, same_new]
  have read (marks : List UInt8) : parse? (spelled letter marks) =
      if Modifies marks then (purpose? letter).map (asked marks) else none := parse?_of_toList rfl
  rw [read, read, same]
  simp only [fit]

theorem modifies_perm (h : marks.Perm marks') : Modifies marks ↔ Modifies marks' := by
  constructor
  · rintro ⟨mem, nodup⟩
    exact ⟨fun b there => mem b (h.mem_iff.mpr there), h.nodup_iff.mp nodup⟩
  · rintro ⟨mem, nodup⟩
    exact ⟨fun b there => mem b (h.mem_iff.mp there), h.nodup_iff.mpr nodup⟩

/-- A modifier more makes no difference to whether modifiers are distinct ones. -/
theorem modifies_insert {before behind : List UInt8} {mark : UInt8}
    (known : mark ∈ "+bxemc".toUTF8.data.toList) (other : mark ∉ before ++ behind) :
    Modifies (before ++ mark :: behind) ↔ Modifies (before ++ behind) := by
  rw [modifies_perm List.perm_middle, modifies_cons, and_iff_right known, and_iff_right other]

/-- The modifiers without effect. -/
theorem idle_marks : ∀ b ∈ "bemc".toUTF8.data.toList,
    b ∈ "+bxemc".toUTF8.data.toList ∧ plus ≠ b ∧ new ≠ b := by
  have marks : "bemc".toUTF8.data.toList =
      ['b'.toUInt8, 'e'.toUInt8, 'm'.toUInt8, 'c'.toUInt8] := rfl
  rw [marks]
  exact List.forall_mem_cons.mpr ⟨by decide, List.forall_mem_cons.mpr ⟨by decide,
    List.forall_mem_cons.mpr ⟨by decide, List.forall_mem_singleton.mpr (by decide)⟩⟩⟩

/-- A text is read as a mode exactly if it is one of the letters `r`, `w` and `a` with distinct
modifiers. The mode is what the letter and the modifiers ask for. Its flags fit together and can be
opened with, and they are those that are read from the text directly. The order of the modifiers
does not matter, nor does it matter whether one without effect is among them: letter and set of the
modifiers determine the mode. -/
theorem parses_iff_spells :
    (∀ text, (parse? text).isSome ↔ ∃ letter marks, Spells text letter marks) ∧
      (∀ text m, parse? text = some m ↔
        ∃ letter marks, Spells text letter marks ∧ m.AsksFor letter marks) ∧
      (∀ text m, parse? text = some m → m.Sound ∧ m.flags.accepted) ∧
      (∀ text, OpenFlags.parse? text = (parse? text).map flags) ∧
      (∀ letter marks marks', marks.Perm marks' →
        parse? (spelled letter marks) = parse? (spelled letter marks')) ∧
      (∀ letter before behind, ∀ idle ∈ "bemc".toUTF8.data.toList, idle ∉ before ++ behind →
        parse? (spelled letter (before ++ idle :: behind)) =
          parse? (spelled letter (before ++ behind))) ∧
      ∀ letter marks marks', Modifies marks → Modifies marks' → (∀ b, b ∈ marks ↔ b ∈ marks') →
        parse? (spelled letter marks) = parse? (spelled letter marks') := by
  refine ⟨fun _ => isSome_parse?_iff, fun _ _ => parse?_eq_some_iff, fun text m parsed => ?_,
    OpenFlags.parse?_eq, fun letter marks marks' perm => ?_,
    fun letter before behind idle without other => ?_,
    fun letter marks marks' modifies modifies' same => ?_⟩
  · have sound := sound_of_parse? parsed
    exact ⟨sound, sound.accepted⟩
  · exact parse?_spelled_congr (modifies_perm perm) perm.mem_iff perm.mem_iff
  · obtain ⟨known, not_plus, not_new⟩ := idle_marks idle without
    apply parse?_spelled_congr (modifies_insert known other)
    · simp [not_plus]
    · simp [not_new]
  · exact parse?_spelled_congr (iff_of_true modifies modifies') (same plus) (same new)

end OpenMode

/-- A new file for updates, with the modifiers in either order and with one that has no effect. -/
theorem OpenMode.parses_iff_spells_newUpdate :
    parse? "w+bx".toUTF8 = some ⟨.write, true, true⟩ ∧
      parse? "wx+".toUTF8 = some ⟨.write, true, true⟩ ∧
      (⟨.write, true, true⟩ : OpenMode).Sound := by
  obtain ⟨-, -, sound, -, perm, idle, -⟩ := OpenMode.parses_iff_spells
  have read : parse? "w+bx".toUTF8 = some ⟨.write, true, true⟩ := by decide
  have without : parse? "w+bx".toUTF8 = parse? "w+x".toUTF8 :=
    idle 'w'.toUInt8 ['+'.toUInt8] ['x'.toUInt8] 'b'.toUInt8 (by decide) (by decide)
  have swapped : parse? "w+x".toUTF8 = parse? "wx+".toUTF8 :=
    perm 'w'.toUInt8 ['+'.toUInt8, 'x'.toUInt8] ['x'.toUInt8, '+'.toUInt8] (.swap ..)
  exact ⟨read, by rw [← swapped, ← without, read], (sound _ _ read).1⟩

end Semihosting
