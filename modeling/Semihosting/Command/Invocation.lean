import Semihosting.Command.Words
import Semihosting.Log.Filter
import Semihosting.Machine.Memory

/-!
# Invocations

What a command line asks the debugger to do, and how its log is to be shown.

## Main definitions

* `LogChannel`, `LogOptions` — where the log goes and what it shows
* `RunOptions` — what is to be run, on which host, with which input
* `Invocation` — the whole command line
* `Invocation.parse` — reading it
-/

namespace Semihosting

/-- The two outputs of the command. -/
inductive Channel where
  | stdout
  | stderr
deriving DecidableEq, Repr

namespace Channel

/-- The channel of a name, in any case. -/
def ofName? (name : String) : Option Channel :=
  match name.toLower with
  | "stdout" => some stdout
  | "stderr" => some stderr
  | _ => none

end Channel

/-- How the log is shown. -/
structure LogOptions where
  /-- How often more output was asked for, counted in one byte. -/
  verbosity : UInt8 := 0
  spec : Option String := none
  channel : Channel := .stderr
deriving DecidableEq, Repr

/-- What is to be run. -/
structure RunOptions where
  /-- The name of the host, if one is asked for. -/
  host : Option String := none
  /-- The name of the input file. -/
  input : Option String := none
  /-- The size of guest memory. -/
  memorySize : Word := Memory.defaultSize
  /-- The name of the program. -/
  program : String
  /-- The arguments of the program. -/
  arguments : List String := []
deriving DecidableEq, Repr

/-- The files that a run may touch: its input, the fixed file that one of the programs writes, and
the arguments of the program. -/
def RunOptions.files (options : RunOptions) : List String :=
  options.input.toList ++ "file_write_foo.txt" :: options.arguments

/-- What the debugger is to do. -/
inductive Task where
  | run (options : RunOptions)
  | list
  /-- List the hosts, perhaps as JSON. -/
  | hosts (json : Bool)
deriving DecidableEq, Repr

/-- A command line. -/
structure Invocation where
  /-- How the log is shown. -/
  log : LogOptions
  /-- What is to be done. -/
  task : Task
deriving DecidableEq, Repr

namespace Invocation

/-- The help option, which every command has. -/
def helpForm : OptionForm := { long := "help", letter := 'h' }

/-- The options before the command's name. -/
def generalForms : List OptionForm :=
  [helpForm, { long := "version", letter := 'V' },
    { long := "verbose", letter := 'v', repeatable := true },
    { long := "log-filter", valued := true }, { long := "log-target", valued := true }]

/-- The options of the command that runs a program. -/
def runForms : List OptionForm :=
  [helpForm, { long := "host", valued := true }, { long := "read-file", valued := true },
    { long := "memory-size", valued := true }]

/-- The options of the command that lists the hosts. -/
def hostsForms : List OptionForm := [helpForm, { long := "json", letter := 'j' }]

/-- The items of a command's words, nothing in them missing or repeated. -/
def itemsOf (forms : List OptionForm) (rule : OperandRule) (words : List String) :
    Except CommandStop (List CommandItem) := do
  let (items, _) ← CommandItem.readAll forms rule words
  if CommandItem.wellFormed forms items then return items else throw .misuse

/-- The task of running a program, from the words behind the command's name. The host may also be
named by the environment. -/
def parseRun (environmentHost : Option String) (words : List String) :
    Except CommandStop Task := do
  let items ← itemsOf runForms .kept words
  let memorySize ← match CommandItem.value? items "memory-size" with
    | none => pure Memory.defaultSize
    | some text =>
      match Numeral.parse? text with
      | some size => pure size
      | none => throw .misuse
  match CommandItem.operands items with
  | program :: arguments =>
    let host := (CommandItem.value? items "host").or environmentHost
    return .run
      { host, input := CommandItem.value? items "read-file", memorySize, program, arguments }
  | [] => throw .misuse

/-- The task of a command, from its name and the words behind it. -/
def parseTask (environmentHost : Option String) (command : String) (words : List String) :
    Except CommandStop Task := do
  match command with
  | "run" => parseRun environmentHost words
  | "list" =>
    discard (itemsOf [helpForm] .refused words)
    return .list
  | "hosts" =>
    let items ← itemsOf hostsForms .refused words
    return .hosts (CommandItem.count items "json" ≠ 0)
  | "help" =>
    if words.all ["run", "list", "hosts", "help"].contains && words.length ≤ 1 then throw .help
    else throw .misuse
  | _ => throw .misuse

/-- The command line of a list of words. The host and the filter specification may also be given
by the environment. -/
def parse (environmentHost environmentSpec : Option String) (words : List String) :
    Except CommandStop Invocation := do
  let (items, remainder) ← CommandItem.readAll generalForms .last words
  match remainder with
  | [] => throw .misuse
  | command :: rest =>
    let task ← parseTask environmentHost command rest
    if !CommandItem.wellFormed generalForms items then throw .misuse
    let channel ← match CommandItem.value? items "log-target" with
      | none => pure .stderr
      | some name =>
        match Channel.ofName? name with
        | some channel => pure channel
        | none => throw .misuse
    return {
      log := {
        verbosity := UInt8.ofNat (CommandItem.count items "verbose")
        spec := (CommandItem.value? items "log-filter").or environmentSpec
        channel }
      task }

end Invocation

end Semihosting
