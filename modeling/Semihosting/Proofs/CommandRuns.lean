import Semihosting.Command.Session
import Semihosting.Proofs.GuestCalls

/-!
# Runs of the command

What the command shows of a run: the lines that were printed and a verdict on standard output, and
the events of the log wherever the log goes. The verdict counts the calls of the program and the
three calls with which a program ends.

## Main definitions

* `Report.line?`, `Report.channel` — a report as a line of standard output, or as part of the log
* `Report.linesIn` — the lines among what is shown, with their channels
* `Conclusion.shownOn` — what the command shows on a channel

## Main results

* `Session.play_of_performs` — what a program leaves, from the calls that it makes
* `Session.runOn_memory` — what a run on a host in memory prints
* `Session.linesIn_run` — the lines that a run shows
* `Session.conclude_of_runOn` — what the command shows of a run
-/

namespace Semihosting

/-! ### Reports -/

namespace Report

/-- The text of a line; an event has none. -/
def line? : Report → Option String
  | line text => some text
  | logged _ => none

/-- The channel of a report, if the log goes to the given one. -/
def channel (log : Channel) : Report → Channel
  | line _ => .stdout
  | logged _ => log

@[simp] theorem line?_line (text : String) : (line text).line? = some text := rfl

@[simp] theorem line?_logged (event : Event) : (logged event).line? = none := rfl

@[simp] theorem channel_line (log : Channel) (text : String) :
    (line text).channel log = .stdout := rfl

@[simp] theorem channel_logged (log : Channel) (event : Event) :
    (logged event).channel log = log := rfl

theorem filterMap_map_line (lines : List String) : (lines.map line).filterMap line? = lines := by
  simp [List.filterMap_map, Function.comp_def]

theorem filterMap_map_logged {α : Type} (xs : List α) (event : α → Event) :
    (xs.map fun x => logged (event x)).filterMap line? = [] := by
  simp [List.filterMap_map, Function.comp_def]

/-- The lines among what is shown, each with its channel. -/
def linesIn (shown : Array (Channel × Report)) : List (Channel × String) :=
  shown.toList.filterMap fun (channel, report) => report.line?.map (channel, ·)

/-- Wherever the log goes, all lines are on standard output. -/
theorem linesIn_channel (log : Channel) (reports : Array Report) :
    linesIn (reports.map fun report => (report.channel log, report)) =
      (reports.toList.filterMap line?).map (Channel.stdout, ·) := by
  rw [linesIn, Array.toList_map, List.filterMap_map, List.map_filterMap]
  refine List.filterMap_congr fun report _ => ?_
  cases report <;> rfl

end Report

/-- What the command shows on a channel, in order. -/
def Conclusion.shownOn (c : Conclusion) (channel : Channel) : List Report :=
  (c.shown.toList.filter fun shown => shown.1 = channel).map Prod.snd

namespace Session

/-! ### What a program leaves -/

section Play

variable {σ ς : Type} [FileHost σ ς] {program : Program} {arguments : List String}
variable {memorySize : Word} {input : Option ByteArray} {host : Host σ} {g g' : Guest σ ς}
variable {v : Guest.View σ ς} {turns : List (Turn σ ς)} {code : Nat}

/-- Behind a program that ends with a code there are three calls more, and the line that has not
ended is printed. -/
theorem play_of_performs
    (started : Guest.start (.blank memorySize) (.standard input) host = .ok g)
    (performs : Guest.Performs (program.run arguments) g turns (.ok code) g') (has : g'.Has v) :
    (play (ς := ς) program arguments memorySize input host).outcome = .ok (code, v.served + 3) ∧
      (play (ς := ς) program arguments memorySize input host).host =
        v.host.print v.console.flush := by
  obtain ⟨g₁, closing, closed, -, has₁⟩ := has.exit
  have body : (do
      let code ← program.run arguments
      Guest.exit
      return (code, (← get).debugger.served) : Guest.Action σ ς (Nat × Nat)) g =
        (.ok (code, v.served + 3), g₁) := by
    refine (Guest.bind_of_ok performs.eq).trans ((Guest.bind_of_ok closed.eq).trans ?_)
    have served : g₁.debugger.served = v.served + 3 := has₁.served
    rw [← served]
    rfl
  simp only [play, started]
  rw [body]
  exact ⟨rfl, has₁.finish_eq⟩

end Play

/-! ### What the command shows -/

/-- The host in memory, before a run. -/
def memoryHost (s : Surroundings) : Host FileStore :=
  { files := {}, entropy := s.entropy, clock := s.clock }

/-- On a host in memory, the lines of a run are those that the host has printed, and no file outside
changes. -/
theorem runOn_memory (s : Surroundings) (program : Program) (options : RunOptions)
    (input : Option ByteArray) :
    ∃ reports, runOn s .memory program options input =
        ((play (ς := StoredStream) program options.arguments options.memorySize input
          (memoryHost s)).outcome, reports, s.tree) ∧
      reports.toList.filterMap Report.line? =
        (play (ς := StoredStream) program options.arguments options.memorySize input
          (memoryHost s)).host.printed.toList := by
  refine ⟨_, rfl, ?_⟩
  -- All other reports are events.
  simp only [Array.toList_append, Array.toList_map, List.filterMap_append,
    Report.filterMap_map_line, Report.filterMap_map_logged, List.nil_append, List.append_nil]
  rfl

variable {s : Surroundings} {words : List String} {log : LogOptions} {options : RunOptions}
variable {backend : Backend} {program : Program} {name : String} {content : ByteArray}
variable {outcome : Except Fault (Nat × Nat)} {reports : Array Report} {tree : DirTree}

/-- If the log goes elsewhere, standard output shows the lines, whatever events are admitted. -/
theorem stdout_of_admitted {admits : Channel × Report → Bool}
    (lines : ∀ channel text, admits (channel, .line text) = true) (reports : List Report) :
    (((reports.map fun report => (report.channel .stderr, report)).filter admits).filter
      fun shown => shown.1 = .stdout).map Prod.snd =
        (reports.filterMap Report.line?).map .line := by
  induction reports with
  | nil => rfl
  | cons report reports ih =>
    rw [List.filter_filter] at ih ⊢
    cases report with
    | line text => simp [lines, ih]
    | logged event => simp [List.filterMap_cons, ih]

/-- A run that can begin reports its beginning, itself and its verdict. -/
theorem run_of_runOn {channel : Channel} (picked : Backend.pick? options.host = some backend)
    (found : Program.find? options.program = some program) (named : options.input = some name)
    (read : readInput s name = .ok content) (enough : shortage? s options.memorySize = none)
    (ran : runOn s backend program options (some content) = (outcome, reports, tree)) :
    run s channel options = ((verdict outcome).2,
      (#[Report.logged (.programStarted program.name backend.name)] ++ reports ++
        ((verdict outcome).1.map Report.line).toArray).map fun report =>
          (report.channel channel, report),
      tree) := by
  have input : (options.input.mapM fun name =>
      (readInput s name).mapError fun reason => (name, reason)) = .ok (some content) := by
    rw [named]
    simp [read, Except.mapError]
  simp only [run, picked, found, input, enough, ran]
  rfl

/-- A run that can begin shows its lines and the verdict on standard output. -/
theorem linesIn_run (channel : Channel) (picked : Backend.pick? options.host = some backend)
    (found : Program.find? options.program = some program) (named : options.input = some name)
    (read : readInput s name = .ok content) (enough : shortage? s options.memorySize = none)
    (ran : runOn s backend program options (some content) = (outcome, reports, tree)) :
    (run s channel options).1 = (verdict outcome).2 ∧ (run s channel options).2.2 = tree ∧
      Report.linesIn (run s channel options).2.1 =
        (reports.toList.filterMap Report.line? ++ (verdict outcome).1).map (Channel.stdout, ·) := by
  rw [run_of_runOn picked found named read enough ran]
  refine ⟨rfl, rfl, ?_⟩
  rw [Report.linesIn_channel]
  simp only [Array.toList_append, List.filterMap_append, Report.filterMap_map_line]
  rfl

/-- If the log goes elsewhere, a run that can begin shows its lines and the verdict on standard
output. -/
theorem conclude_of_runOn
    (parsed : Invocation.parse s.host s.logSpec words = .ok ⟨log, .run options⟩)
    (elsewhere : log.channel = .stderr) (picked : Backend.pick? options.host = some backend)
    (found : Program.find? options.program = some program) (named : options.input = some name)
    (read : readInput s name = .ok content) (enough : shortage? s options.memorySize = none)
    (ran : runOn s backend program options (some content) = (outcome, reports, tree)) :
    (conclude s words).ending = (verdict outcome).2 ∧ (conclude s words).tree = tree ∧
      (conclude s words).shownOn .stdout =
        (reports.toList.filterMap Report.line? ++ (verdict outcome).1).map .line := by
  simp only [conclude, parsed, perform, run_of_runOn picked found named read enough ran, elsewhere]
  refine ⟨trivial, trivial, ?_⟩
  simp only [Conclusion.shownOn, Array.toList_append, List.filter_append, List.map_append]
  generalize LogFilter.parse (.ofVerbosity log.verbosity) (log.spec.getD "") = parsed
  obtain ⟨filter, warnings⟩ := parsed
  have warned : (warnings.toArray.map fun text => (Channel.stderr, Report.line text)).toList.filter
      (fun shown => shown.1 = .stdout) = [] := by
    simp
  have begun : (if filter.admits .loggingStarted then
      #[(Channel.stderr, Report.logged .loggingStarted)] else #[]).toList.filter
      (fun shown => shown.1 = .stdout) = [] := by
    split <;> rfl
  rw [warned, begun, Array.toList_filter, Array.toList_map, stdout_of_admitted fun _ _ => rfl]
  simp only [Array.toList_append, List.filterMap_append, Report.filterMap_map_line, List.map_append]
  rfl

end Session

end Semihosting
