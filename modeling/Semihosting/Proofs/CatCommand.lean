import Semihosting.Proofs.CatProgram
import Semihosting.Proofs.CommandRuns

/-!
# The command that prints a file

On a host in memory, the command prints the file that it is given as input, line by line, and says
how many calls that took.

## Main results

* `Session.parse_catWords` — what the words of the command ask for
* `Session.runOn_cat` — what the program prints there
* `Program.cat_prints` — the program prints its input, and the command prints the file
-/

namespace Semihosting

open Utf8 (text)

namespace Session

/-! ### The words of the command -/

/-- The words of the command that prints a file. -/
def catWords (file : String) : List String :=
  ["run", "--host", "memory", "--read-file", file, "cat"]

/-- What the words ask for. -/
def catOptions (file : String) : RunOptions :=
  { host := some "memory", input := some file, program := "cat" }

/-- What the words behind the first one mean. -/
def catItems (file : String) : List CommandItem :=
  [.option "host" (some "memory"), .option "read-file" (some file), .operand "cat"]

variable {file : String}

theorem readAll_catWords (plain : WordShape.of file = .plain) :
    CommandItem.readAll Invocation.runForms .kept ["--host", "memory", "--read-file", file, "cat"] =
      .ok (catItems file, []) := by
  have host : WordShape.of "--host" = .long "host" none := by decide
  have memory : WordShape.of "memory" = .plain := by decide
  have readFile : WordShape.of "--read-file" = .long "read-file" none := by decide
  have cat : WordShape.of "cat" = .plain := by decide
  simp [CommandItem.readAll, host, memory, readFile, plain, cat, Invocation.runForms, catItems,
    Invocation.helpForm]

/-- Nothing is missing or repeated. -/
theorem itemsOf_catWords (plain : WordShape.of file = .plain) :
    Invocation.itemsOf Invocation.runForms .kept
      ["--host", "memory", "--read-file", file, "cat"] = .ok (catItems file) := by
  have formed : CommandItem.wellFormed Invocation.runForms (catItems file) = true := by
    simp [CommandItem.wellFormed, Invocation.runForms, Invocation.helpForm, CommandItem.count,
      catItems]
  rw [Invocation.itemsOf, readAll_catWords plain]
  dsimp only [bind, Except.bind]
  rw [if_pos formed]
  rfl

/-- The words ask for the program on a host in memory, whatever the environment says. -/
theorem parse_catWords (plain : WordShape.of file = .plain) (host logSpec : Option String) :
    Invocation.parse host logSpec (catWords file) =
      .ok { log := { spec := logSpec }, task := .run (catOptions file) } := by
  have run : WordShape.of "run" = .plain := by decide
  have general : CommandItem.readAll Invocation.generalForms .last (catWords file) =
      .ok ([], catWords file) := by
    simp [CommandItem.readAll, catWords, run]
  have task : Invocation.parseTask host "run" ["--host", "memory", "--read-file", file, "cat"] =
      .ok (.run (catOptions file)) := by
    rw [Invocation.parseTask, Invocation.parseRun, itemsOf_catWords plain]
    rfl
  rw [Invocation.parse, general, catWords]
  dsimp only [bind, Except.bind]
  rw [task]
  rfl

/-! ### The run -/

variable {s : Surroundings} {options : RunOptions} {content : ByteArray}

/-- On a host in memory, the program prints the pieces of its input. -/
theorem runOn_cat (s : Surroundings) (content : ByteArray)
    (room : 0x2008 ≤ options.memorySize.toNat) :
    ∃ reports, runOn s .memory .cat options (some content) =
        (.ok (0, 2 * Program.chunks content.size + 4), reports, s.tree) ∧
      reports.toList.filterMap Report.line? = (Console.pieces content.data.toList).map text := by
  obtain ⟨g, started⟩ : ∃ g : Guest FileStore StoredStream,
      Guest.start (.blank options.memorySize) (.standard (some content)) (memoryHost s) = .ok g :=
    ⟨_, rfl⟩
  obtain ⟨g', turns, v, performs, -, has, served, -, shows⟩ :=
    (Guest.has_of_start started).runCat rfl
      (show 0x2008 ≤ (Memory.blank options.memorySize).size by rw [Memory.size_blank]; exact room)
      rfl rfl
  obtain ⟨outcome, host⟩ := play_of_performs started
    (show Guest.Performs (Program.run .cat options.arguments) g turns (.ok 0) g' from performs) has
  have count : v.served + 3 = 2 * Program.chunks content.size + 4 := by
    rw [served]
    dsimp only
    omega
  have printed : (v.host.print v.console.flush).printed.toList =
      (Console.pieces content.data.toList).map text := shows.printed_flush
  obtain ⟨reports, ran, lines⟩ := runOn_memory s .cat options (some content)
  rw [outcome, count] at ran
  rw [host, printed] at lines
  exact ⟨reports, ran, lines⟩

/-- The size of guest memory for which nothing else is said is granted wherever it is obtainable. -/
theorem shortage?_default (granted : Memory.defaultSize ≤ s.obtainable) :
    shortage? s Memory.defaultSize = none := by
  rw [shortage?, if_neg (by decide), if_neg (UInt64.not_lt.mpr granted)]

end Session

/-! ### A last line without a newline

The file holds one letter of two bytes, a newline, and another letter. -/

namespace LastLine

def content : ByteArray := ⟨#[0xc3, 0xa9, 0x0a, 0x69]⟩

def surroundings : Surroundings := { tree := ({} : DirTree).addFile "in" content }

/-- The memory is as small as it can be, and the log goes to standard output too. -/
def options : RunOptions :=
  { host := some "memory", input := some "in", memorySize := 0x2008, program := "cat" }

theorem readInput_eq : Session.readInput surroundings "in" = .ok content := by cbv

theorem pieces_eq : Console.pieces content.data.toList = [[0xc3, 0xa9], [0x69]] := by decide

theorem text_pieces : [[0xc3, 0xa9], [0x69]].map text = ["é", "i"] := by cbv

end LastLine

/-- The cat program prints its input. For every content, with enough memory, it ends well after two
calls for each chunk and one more, changes no file, and by the end of the session every piece of
the input between newlines was printed as a line.

So a run for which any options ask for the program on a host in memory, with enough memory and a
file as its input, shows these lines and then the verdict with three calls more, all on standard
output, and ends with exit code zero. In particular the command does that for its plainest words. -/
theorem Program.cat_prints (content : ByteArray) :
    (∀ (machine : Machine) (host : Host FileStore) (arguments : List String),
      0x2008 ≤ machine.memory.size →
      ∃ (g g' : Guest FileStore StoredStream) (turns : List (Turn FileStore StoredStream)),
        Guest.start machine (.standard (some content)) host = .ok g ∧
        Guest.Performs (run .cat arguments) g turns (.ok 0) g' ∧
        turns.length = 2 * chunks content.size + 1 ∧
        g'.debugger.served = 2 * chunks content.size + 1 ∧ g'.host.files = host.files ∧
        g'.finish.printed.toList =
          host.printed.toList ++ (Console.pieces content.data.toList).map text) ∧
    (∀ (s : Surroundings) (log : Channel) (options : RunOptions) (file : String),
      Backend.pick? options.host = some .memory → find? options.program = some .cat →
      options.input = some file → Session.readInput s file = .ok content →
      0x2008 ≤ options.memorySize.toNat → Session.shortage? s options.memorySize = none →
      (Session.run s log options).1 = .exit 0 ∧ (Session.run s log options).2.2 = s.tree ∧
      Report.linesIn (Session.run s log options).2.1 =
        ((Console.pieces content.data.toList).map text ++ ["Run result: 0",
          "All hostcalls: " ++ Numeral.decimal (2 * chunks content.size + 4)]).map (.stdout, ·)) ∧
    ∀ (s : Surroundings) (file : String), WordShape.of file = .plain →
      Session.readInput s file = .ok content → Memory.defaultSize ≤ s.obtainable →
      (Session.conclude s (Session.catWords file)).ending = .exit 0 ∧
      (Session.conclude s (Session.catWords file)).tree = s.tree ∧
      (Session.conclude s (Session.catWords file)).shownOn .stdout =
        ((Console.pieces content.data.toList).map text ++ ["Run result: 0",
          "All hostcalls: " ++ Numeral.decimal (2 * chunks content.size + 4)]).map .line := by
  refine ⟨?_, ?_, ?_⟩
  · intro machine host arguments room
    obtain ⟨g, started⟩ : ∃ g : Guest FileStore StoredStream,
        Guest.start machine (.standard (some content)) host = .ok g := ⟨_, rfl⟩
    obtain ⟨g', turns, v, performs, count, has, served, files, shows⟩ :=
      (Guest.has_of_start started).runCat rfl room rfl rfl
    refine ⟨g, g', turns, started, performs, count, ?_, ?_, ?_⟩
    · rw [has.served, served]
      exact Nat.zero_add _
    · rw [has.host, files]
    · rw [has.printed_finish]
      exact shows.printed_flush
  · intro s log options file picked found named read room enough
    obtain ⟨reports, ran, lines⟩ := Session.runOn_cat s content room
    obtain ⟨ending, tree, shown⟩ := Session.linesIn_run log picked found named read enough ran
    rw [lines] at shown
    exact ⟨ending, tree, shown⟩
  · intro s file plain read granted
    have room : 0x2008 ≤ (Session.catOptions file).memorySize.toNat :=
      show 0x2008 ≤ Memory.defaultSize.toNat by decide
    obtain ⟨reports, ran, lines⟩ := Session.runOn_cat s content room
    obtain ⟨ending, tree, shown⟩ := Session.conclude_of_runOn
      (Session.parse_catWords plain s.host s.logSpec) rfl rfl rfl rfl read
      (Session.shortage?_default granted) ran
    rw [lines] at shown
    exact ⟨ending, tree, shown⟩

/-- The letter behind the last newline is printed as a line. -/
theorem cat_prints_lastLine :
    (∃ (g g' : Guest FileStore StoredStream) (turns : List (Turn FileStore StoredStream)),
      Guest.start (.blank 0x2008) (.standard (some LastLine.content)) { files := {} } = .ok g ∧
      Guest.Performs (Program.run .cat []) g turns (.ok 0) g' ∧ turns.length = 3 ∧
      g'.finish.printed.toList = ["é", "i"]) ∧
    Report.linesIn (Session.run LastLine.surroundings .stdout LastLine.options).2.1 =
      ["é", "i", "Run result: 0", "All hostcalls: 6"].map (.stdout, ·) ∧
    (Session.conclude LastLine.surroundings (Session.catWords "in")).ending = .exit 0 ∧
    (Session.conclude LastLine.surroundings (Session.catWords "in")).shownOn .stdout =
      ["é", "i", "Run result: 0", "All hostcalls: 6"].map .line := by
  obtain ⟨program, run, command⟩ := Program.cat_prints LastLine.content
  obtain ⟨g, g', turns, started, performs, count, -, -, printed⟩ :=
    program (.blank 0x2008) { files := {} } [] (by rw [Machine.blank, Memory.size_blank]; decide)
  obtain ⟨-, -, lines⟩ := run LastLine.surroundings .stdout LastLine.options "in" rfl rfl rfl
    LastLine.readInput_eq (by decide) (by decide)
  obtain ⟨ending, -, shown⟩ :=
    command LastLine.surroundings "in" (by decide) LastLine.readInput_eq (by decide)
  rw [LastLine.pieces_eq, LastLine.text_pieces] at printed lines shown
  have six : Numeral.decimal (2 * Program.chunks LastLine.content.size + 4) = "6" := by decide
  rw [six] at lines shown
  exact ⟨⟨g, g', turns, started, performs, count, printed⟩, lines, ending, shown⟩

end Semihosting
