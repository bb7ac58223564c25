import Semihosting.Log.Event
import Semihosting.Pattern
import Semihosting.Table

/-!
# Log filters

Which events are shown. A filter gives a level to every source: that of the longest directive that
begins the source's name. An event is shown if it is at least as grave as that level.

A specification lists directives between commas: a level for every source, a source, which is then
shown entirely, or `source=level`. Behind a slash it may give a pattern that must occur in messages.

## Main definitions

* `LogFilter` — directives and the pattern
* `LogFilter.parse` — a specification, with warnings about the parts that mean nothing
* `LogFilter.admits` — the events that are shown
-/

namespace Semihosting

/-- The gravest level that is hidden lies below this one; `none` hides everything. -/
abbrev Threshold := Option Level

namespace Threshold

/-- The rank of the last level that is shown. -/
def rank : Threshold → Nat
  | some level => level.rank
  | none => 0

/-- The threshold of a name, in any case; `off` hides everything. -/
def ofName? (name : String) : Option Threshold :=
  match name.toUpper with
  | "OFF" => some none
  | "ERROR" => some (some .error)
  | "WARN" => some (some .warn)
  | "INFO" => some (some .info)
  | "DEBUG" => some (some .debug)
  | "TRACE" => some (some .trace)
  | _ => none

/-- The threshold asked for by repeating the option for more output: errors only, and one level
more each time. -/
def ofVerbosity (times : UInt8) : Threshold :=
  match times.toNat with
  | 0 => some .error
  | 1 => some .warn
  | 2 => some .info
  | 3 => some .debug
  | _ => some .trace

end Threshold

/-- Which events are shown. -/
structure LogFilter where
  /-- Thresholds by the beginning of a source's name; `none` stands for every source. -/
  directives : Table (Option String) Threshold
  /-- What must occur in the message. -/
  pattern : Option Pattern.Automaton := none

namespace LogFilter

/-- The warning about a part of a specification. -/
def warning (part : String) : String :=
  "warning: invalid logging spec '" ++ part ++ "', ignoring it"

/-- The directive that a part of a specification spells, or the warning about it. -/
def parseDirective (part : String) : Except String (Option String × Threshold) :=
  match part.splitOn "=" with
  | [name] =>
    match Threshold.ofName? name with
    | some threshold => .ok (none, threshold)
    -- A word that is no level is the name of a source.
    | none => .ok (some name, some .trace)
  | [name, level] =>
    let level := Text.trim level
    if level.isEmpty then .ok (some name, some .trace)
    else match Threshold.ofName? level with
      | some threshold => .ok (some name, threshold)
      | none => .error (warning level)
  | _ => .error (warning part)

/-- Adds a directive, or a warning. -/
def addPart (state : LogFilter × List String) (part : String) : LogFilter × List String :=
  let (filter, warnings) := state
  match parseDirective part with
  | .ok (name, threshold) =>
    ({ filter with directives := filter.directives.insert name threshold }, warnings)
  | .error text => (filter, warnings ++ [text])

/-- The automaton of a pattern, or the lines of a warning about it. -/
def parsePattern (pattern : String) : Option Pattern.Automaton × List String :=
  match Pattern.Automaton.ofPattern pattern with
  | .ok automaton => (some automaton, [])
  | .error refusal =>
    (none, match refusal.lines pattern with
      | [] => []
      | first :: rest => ("warning: invalid regex filter - " ++ first) :: rest)

/-- The filter of a specification, on top of a threshold for every source, and the lines of the
warnings about it. -/
def parse (everywhere : Threshold) (spec : String) : LogFilter × List String :=
  let base : LogFilter := { directives := Table.empty.insert none everywhere }
  match spec.splitOn "/" with
  | directives :: rest =>
    if 1 < rest.length then (base, [warning spec ++ " (too many '/'s)"])
    else
      let parts := ((directives.splitOn ",").map Text.trim).filter (!·.isEmpty)
      let (filter, warnings) := parts.foldl addPart (base, [])
      match rest with
      | [] => (filter, warnings)
      | text :: _ =>
        let (pattern, complaints) := parsePattern text
        ({ filter with pattern }, warnings ++ complaints)
  | [] => (base, [])

/-- The length of the beginning that a directive asks for. -/
def reach (name : Option String) : Nat := (name.map String.utf8ByteSize).getD 0

/-- The source's name begins as a directive asks. -/
def covers (name : Option String) (source : String) : Bool :=
  match name with
  | none => true
  | some name => name.toList.isPrefixOf source.toList

/-- The threshold for a source. -/
def threshold (f : LogFilter) (source : String) : Threshold :=
  let covering := f.directives.entries.filter fun (name, _) => covers name source
  -- Of two beginnings of one length the later one counts.
  let longest := covering.foldl
    (fun best entry => if reach best.1 ≤ reach entry.1 then entry else best) (none, none)
  longest.2

/-- An event is shown. -/
def admits (f : LogFilter) (e : Event) : Bool :=
  e.level.rank ≤ (f.threshold e.source).rank &&
    f.pattern.all (·.occursIn e.message)

end LogFilter

end Semihosting
