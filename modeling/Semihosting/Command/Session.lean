import Semihosting.Command.Backend
import Semihosting.Command.Invocation
import Semihosting.File.Store
import Semihosting.File.Tree
import Semihosting.Program.Run

/-!
# Sessions of the command

The whole command, from a command line and its surroundings to what it prints, the exit code and
the files it leaves. Lines of output and log events keep the order in which they come.

## Main definitions

* `Surroundings` — what the command finds: files, standard input, environment
* `Report` — a line or an event that the command shows
* `Ending`, `Conclusion` — how the command ends, and what it leaves
* `Session.play` — running a program on a host
* `Session.conclude` — the whole command
-/

namespace Semihosting

/-- What the command finds where it is started. -/
structure Surroundings where
  /-- The files below the working directory. -/
  tree : DirTree := {}
  stdin : ByteArray := .empty
  /-- The host named by the environment. -/
  host : Option String := none
  /-- The filter specification given by the environment. -/
  logSpec : Option String := none
  /-- Random words, and times in nanoseconds. -/
  entropy : List Word := []
  /-- The times that the clock will show. -/
  clock : List Word := []
  /-- The size of the largest memory that the operating system grants. -/
  obtainable : Word := 0x1000000000

/-- Something that the command shows. -/
inductive Report where
  | line (text : String)
  /-- An event of the log. -/
  | logged (event : Event)

/-- The text of a report. An event is shown with its time stamp, if one is given, its level in five
columns, and its source; further lines of its message are indented. -/
def Report.text (stamp : Option String) : Report → String
  | line text => text
  | logged e =>
    let level := e.level.name
    let pad := String.ofList (List.replicate (5 - level.length) ' ')
    "[" ++ (stamp.map (· ++ " ")).getD "" ++ level ++ pad ++ " " ++ e.source ++ "] " ++
      "\n    ".intercalate (e.message.splitOn "\n")

/-- How the command ends. -/
inductive Ending where
  | exit (code : Nat)
  /-- It is killed, and there is no exit code. -/
  | killed
deriving DecidableEq, Repr

/-- What the command leaves. -/
structure Conclusion where
  ending : Ending
  /-- What was shown, and where. -/
  shown : Array (Channel × Report) := #[]
  /-- The files below the working directory. -/
  tree : DirTree

/-- What a run of a program leaves. -/
structure Played (σ : Type) where
  /-- The exit code and the number of calls serviced, or the fault that stopped the run. -/
  outcome : Except Fault (Nat × Nat)
  host : Host σ
  /-- What was reported, each event with the number of lines printed before it. -/
  journal : Array (Nat × Event) := #[]

namespace Session

/-! ### Running a program -/

/-- The name under which the command presents itself. -/
def commandName : String := "hostcall"

/-- The version of the command. -/
def version : String := "0.1.0"

/-- The exit code of a run that failed or was stopped by a fault. -/
def failed : Nat := 254

/-- No memory can be larger than this. -/
def addressable : Word := 0x7fffffffffffffff

/-- How a run ends for which there is not enough memory, and what it says. -/
def shortage? (s : Surroundings) (memorySize : Word) : Option (Ending × List String) :=
  let note := "note: run with `RUST_BACKTRACE=1` environment variable to display a backtrace"
  if addressable < memorySize then some (.exit 101, ["capacity overflow", note])
  else if s.obtainable < memorySize then
    some (.killed,
      ["memory allocation of " ++ Numeral.decimal memorySize.toNat ++ " bytes failed", note])
  else none

/-- Runs a program to its end on a host, closes the standard descriptors, and ends the session. -/
def play {σ ς : Type} [FileHost σ ς] (program : Program) (arguments : List String)
    (memorySize : Word) (input : Option ByteArray) (host : Host σ) : Played σ :=
  match Guest.start (.blank memorySize) (.standard input) host with
  | .error fault => { outcome := .error fault, host }
  | .ok guest =>
    let body : Guest.Action σ ς (Nat × Nat) := do
      let code ← program.run arguments
      Guest.exit
      return (code, (← get).debugger.served)
    let (outcome, guest) := body guest
    { outcome, host := guest.finish, journal := guest.journal }

/-- Printed lines and events in the order in which they came. -/
def weave (lines : Array String) (journal : Array (Nat × Event)) : Array Report :=
  let (reports, printed) := journal.foldl
    (fun (reports, printed) (before, event) =>
      (reports ++ (lines.extract printed before).map Report.line |>.push (.logged event), before))
    (#[], 0)
  reports ++ (lines.extract printed lines.size).map Report.line

/-- The last lines of a run, and how it ends. -/
def verdict : Except Fault (Nat × Nat) → List String × Ending
  | .ok (code, served) =>
    (["Run result: " ++ Numeral.decimal code, "All hostcalls: " ++ Numeral.decimal served],
      .exit (if code = 0 then 0 else failed))
  | .error fault => (["Run result: " ++ fault.message], .exit failed)

/-- The input of a session: a file, or standard input under the name `-`. -/
def readInput (s : Surroundings) (name : String) : Except IoError ByteArray :=
  if name = "-" then .ok s.stdin else s.tree.wholeFile name

/-- Runs a program on the chosen host. The reports are what is shown before the verdict. -/
def runOn (s : Surroundings) (backend : Backend) (program : Program) (options : RunOptions)
    (input : Option ByteArray) : Except Fault (Nat × Nat) × Array Report × DirTree :=
  match backend with
  | .native =>
    let host : Host DirTree := { files := s.tree, entropy := s.entropy, clock := s.clock }
    let played := play program options.arguments options.memorySize input host
    (played.outcome, weave played.host.printed played.journal, played.host.files)
  | .memory =>
    let host : Host FileStore := { files := {}, entropy := s.entropy, clock := s.clock }
    let played := play program options.arguments options.memorySize input host
    let kept := played.host.files.listing.map fun (name, data) =>
      Report.logged (.fileKept name data.size)
    -- This host holds printed lines back until the run is over.
    (played.outcome,
      played.journal.map (Report.logged ·.2) ++ played.host.printed.map Report.line ++ kept.toArray,
      s.tree)

/-- The complaint that ends the command before anything is run. -/
def refuse (s : Surroundings) (lines : List String) :
    Ending × Array (Channel × Report) × DirTree :=
  (.exit 1, (lines.map fun text => (.stderr, .line text)).toArray, s.tree)

/-- Runs a program as the options say: the host is looked up first, then the program, then the
input file. Log events are still unfiltered. -/
def run (s : Surroundings) (log : Channel) (options : RunOptions) :
    Ending × Array (Channel × Report) × DirTree :=
  match Backend.pick? options.host with
  | none =>
    refuse s [match options.host with
      | some name => "Error: Host " ++ Text.quote name ++ " is unsupported. See `hostcall hosts`."
      | none => "Error: No usable host found."]
  | some backend =>
    match Program.find? options.program with
    | none =>
      refuse s ["Error: Unknown program " ++ Text.quote options.program ++
        ". See `hostcall list`."]
    | some program =>
      match options.input.mapM fun name =>
          (readInput s name).mapError fun reason => (name, reason) with
      | .error (name, reason) =>
        refuse s ["Error: reading input file " ++ Text.quote name, "", "Caused by:",
          "    " ++ reason.message]
      | .ok input =>
        let started := Report.logged (.programStarted program.name backend.name)
        match shortage? s options.memorySize with
        | some (ending, lines) =>
          let complaint := lines.map fun text => (Channel.stderr, Report.line text)
          (ending, #[(log, started)] ++ complaint.toArray, s.tree)
        | none =>
          let (outcome, reports, tree) := runOn s backend program options input
          let (lines, ending) := verdict outcome
          let place : Report → Channel × Report := fun report =>
            (match report with
              | .line _ => .stdout
              | .logged _ => log, report)
          (ending, (#[started] ++ reports ++ (lines.map Report.line).toArray).map place, tree)

/-! ### Listings -/

/-- The programs, each with its usage and purpose in two columns. -/
def programLines : List String :=
  let width := (Program.all.map fun p => p.usage.length).foldl max 0
  Program.all.map fun p =>
    p.usage ++ String.ofList (List.replicate (width - p.usage.length) ' ') ++ "  " ++ p.help

/-- The hosts, each with a mark that says whether it can be used. -/
def hostLines : List String :=
  (commandName ++ " version " ++ version) ::
    Backend.all.map fun b => (if b.usable then "✔" else "✗") ++ " Host: " ++ b.name

/-- The hosts as JSON. -/
def hostJson : List String :=
  let entry (b : Backend) : List String :=
    ["    \x7b", "      \"name\": \"" ++ b.name ++ "\",",
      "      \"usable\": " ++ (if b.usable then "true" else "false")]
  let entries := ["    \x7d,"].intercalate (Backend.all.map entry) ++ ["    \x7d"]
  ["\x7b", "  \"version\": \"" ++ version ++ "\",", "  \"hosts\": ["] ++ entries ++ ["  ]", "\x7d"]

/-- How the command is used. -/
def helpLines : List String :=
  [commandName ++ " " ++ version, "", "USAGE:",
    "    " ++ commandName ++ " [OPTIONS] <run|list|hosts|help> [ARGS]"]

/-- Lines on standard output. -/
def onStdout (lines : List String) : Array (Channel × Report) :=
  (lines.map fun text => (.stdout, .line text)).toArray

/-! ### The command -/

/-- What a task shows and leaves, its log events still unfiltered. -/
def perform (s : Surroundings) (invocation : Invocation) :
    Ending × Array (Channel × Report) × DirTree :=
  match invocation.task with
  | .run options => run s invocation.log.channel options
  | .list => (.exit 0, onStdout programLines, s.tree)
  | .hosts json => (.exit 0, onStdout (if json then hostJson else hostLines), s.tree)

/-- The whole command. A misuse ends it with exit code 2; otherwise warnings about the log filter
come first, and of the log events those that the filter admits are shown. -/
def conclude (s : Surroundings) (words : List String) : Conclusion :=
  match Invocation.parse s.host s.logSpec words with
  | .error .misuse =>
    { ending := .exit 2, shown := helpLines.toArray.map fun text => (.stderr, .line text)
      tree := s.tree }
  | .error .help => { ending := .exit 0, shown := onStdout helpLines, tree := s.tree }
  | .error .version =>
    { ending := .exit 0, shown := onStdout [commandName ++ " " ++ version], tree := s.tree }
  | .ok invocation =>
    let log := invocation.log
    let (filter, warnings) := LogFilter.parse (.ofVerbosity log.verbosity) (log.spec.getD "")
    let (ending, reports, tree) := perform s invocation
    let admitted := reports.filter fun (_, report) => match report with
      | .line _ => true
      | .logged event => filter.admits event
    let begun := if filter.admits .loggingStarted then
      #[(log.channel, Report.logged .loggingStarted)] else #[]
    { ending
      shown := warnings.toArray.map (fun text => (.stderr, .line text)) ++ begun ++ admitted
      tree }

end Session

end Semihosting
