/-!
# Words of a command line

A command line is a list of words. Some are options, with a value where they take one, and the
others are operands. An option's value may stand in the same word after an equals sign or be the
next word, which then must not look like an option; letters may share a word; and behind `--` all
words are operands. Words are read from left to right, and the first that cannot stand, or that
asks for help or the version, ends the reading; what is missing or repeated is found at the end.

## Main definitions

* `OptionForm` — the names of an option, and whether it takes a value
* `WordShape` — what a word looks like
* `CommandItem` — what a word means
* `OperandRule` — whether there may be operands
* `CommandItem.readAll` — the items of a command line
* `CommandItem.wellFormed` — nothing is missing or repeated
-/

namespace Semihosting

/-- An option that a command understands. -/
structure OptionForm where
  /-- The name behind two dashes. -/
  long : String
  /-- The letter behind one dash. -/
  letter : Option Char := none
  /-- The option takes a value. -/
  valued : Bool := false
  /-- The option may be given more than once. -/
  repeatable : Bool := false
deriving DecidableEq, Repr

/-- What a word of a command line looks like. -/
inductive WordShape where
  /-- Two dashes, behind which all words are operands. -/
  | separator
  /-- An option by its long name, perhaps with a value. -/
  | long (name : String) (value : Option String)
  /-- One or more options by their letters. -/
  | letters (letters : List Char)
  /-- Any other word, a single dash included. -/
  | plain
deriving DecidableEq, Repr

namespace WordShape

/-- The parts of a text before and behind its first equals sign. -/
def splitValue (text : List Char) : String × Option String :=
  let name := String.ofList (text.takeWhile (· ≠ '='))
  match text.dropWhile (· ≠ '=') with
  | _ :: value => (name, some (String.ofList value))
  | [] => (name, none)

/-- What a word looks like. -/
def of (word : String) : WordShape :=
  match word.toList with
  | ['-', '-'] => separator
  | '-' :: '-' :: text => let (name, value) := splitValue text; long name value
  | '-' :: c :: rest => letters (c :: rest)
  | _ => plain

end WordShape

/-- What a command line asks for, word by word. -/
inductive CommandItem where
  /-- An option, with its value if it takes one. -/
  | option (name : String) (value : Option String)
  | operand (text : String)
deriving DecidableEq, Repr

/-- What becomes of the operands of a command line. -/
inductive OperandRule where
  | refused
  /-- They may stand anywhere among the options. -/
  | kept
  /-- The first one ends the reading. -/
  | last
deriving DecidableEq, Repr

/-- Why reading a command line ends early. -/
inductive CommandStop where
  /-- The command line means nothing. -/
  | misuse
  | help
  /-- The version was asked for. -/
  | version
deriving DecidableEq, Repr

namespace CommandItem

/-- The item of an option that stands without a value, if it is one. Help and version end the
reading at once. -/
def flag (form : Option OptionForm) : Except CommandStop CommandItem :=
  match form with
  | some form =>
    if form.long = "help" then .error .help
    else if form.long = "version" then .error .version
    else .ok (option form.long none)
  | none => .error .misuse

/-- The items of a command line whose options have the given forms, and the words that are left
over. An unknown option or an operand out of place is misuse at once. An option whose value is
missing is let pass for now: a call for help or for the version behind it still counts. -/
def readAll (forms : List OptionForm) (rule : OperandRule) :
    List String → Except CommandStop (List CommandItem × List String)
  | [] => .ok ([], [])
  | word :: rest =>
    match WordShape.of word with
    | .separator =>
      match rule with
      | .kept => .ok (rest.map operand, [])
      | .refused => if rest.isEmpty then .ok ([], []) else .error .misuse
      | .last => .error .misuse
    | .plain =>
      match rule with
      | .kept => do
        let (items, remainder) ← readAll forms rule rest
        return (operand word :: items, remainder)
      | .refused => .error .misuse
      | .last => .ok ([], word :: rest)
    | .letters letters => do
      let found ← letters.mapM fun c => flag (forms.find? (·.letter = some c))
      let (items, remainder) ← readAll forms rule rest
      return (found ++ items, remainder)
    | .long name value =>
      let form := forms.find? (·.long = name)
      if form.any (·.valued) then
        match value with
        | some value => do
          let (items, remainder) ← readAll forms rule rest
          return (option name (some value) :: items, remainder)
        | none =>
          match rest with
          | [] => .ok ([option name none], [])
          | next :: others =>
            -- Only a plain word can be the value; any other is read for itself.
            if WordShape.of next = .plain then do
              let (items, remainder) ← readAll forms rule others
              return (option name (some next) :: items, remainder)
            else do
              let (items, remainder) ← readAll forms rule (next :: others)
              return (option name none :: items, remainder)
      else if value.isSome then .error .misuse
      else do
        let found ← flag form
        let (items, remainder) ← readAll forms rule rest
        return (found :: items, remainder)

/-- How often an option occurs. -/
def count (items : List CommandItem) (name : String) : Nat :=
  (items.filter fun item => match item with
    | option long _ => long = name
    | operand _ => false).length

/-- The value of an option. -/
def value? (items : List CommandItem) (name : String) : Option String :=
  items.findSome? fun item => match item with
    | option long value => if long = name then value else none
    | operand _ => none

/-- The operands in order. -/
def operands (items : List CommandItem) : List String :=
  items.filterMap fun item => match item with
    | option .. => none
    | operand text => some text

/-- No option that may occur only once occurs again, and none that takes a value lacks it. -/
def wellFormed (forms : List OptionForm) (items : List CommandItem) : Bool :=
  forms.all fun form =>
    (form.repeatable || count items form.long ≤ 1) &&
      (!form.valued || items.all fun item => item ≠ option form.long none)

end CommandItem

end Semihosting
