import Semihosting.Pattern.Regex
import Semihosting.Pattern.StateCache
import Semihosting.Pattern.WordTree

/-!
# From regular expressions to automata

Every expression becomes a piece of an automaton, from the pieces of its parts. An automaton that
reads forwards marks captured matches; one that reads backwards does not. The encodings of wide sets
share states: forwards those with the same future, backwards those that read the same.

## Main definitions

* `Regex.build` — the piece of an expression
* `Regex.automaton?` — the automaton that finds an expression in a text
-/

namespace Semihosting.Pattern

open Build

/-! ### Sets -/

namespace ByteSequence

/-- The piece that reads a byte of some ranges. -/
def select (ranges : List ByteRange) : Build Piece := do
  let stop ← add (.pass 0)
  return ⟨← add (.select (ranges.map (⟨·, stop⟩))), stop⟩

/-- The state that reads one of some sequences, which have at most some length, and leads to
`target`. States with the same steps are one, as long as it is remembered. -/
def buildForward (target : StateId) :
    Nat → List ByteSequence → StateT StateCache Build StateId
  | 0, _ => return target
  | length + 1, sequences =>
    match heads sequences with
    | [] => return target
    | groups => do
      let steps ← groups.mapM fun (range, rests) =>
        return { range, next := ← buildForward target length rests : Step }
      let key := steps.flatMap fun s =>
        [s.range.low.toUInt64, s.range.high.toUInt64, .ofNat s.next]
      StateCache.obtain key (.select steps)

/-- The state that reads a sequence from its last byte to its first one, behind states that read
what stands before it and lead to `target`. States that read the same are one, as long as it is
remembered. -/
def buildBackward (target : StateId) (s : ByteSequence) : StateT StateCache Build StateId :=
  s.foldlM (fun next range =>
    let key := [.ofNat next, range.low.toUInt64, range.high.toUInt64]
    StateCache.obtain key (.read ⟨range, next⟩)) target

/-- The piece that reads one of some sequences. -/
def buildAll (d : Direction) (sequences : List ByteSequence) : Build Piece :=
  match d with
  | .forward => do
    let stop ← add (.pass 0)
    let (start, _) ← (buildForward stop longest sequences).run { size := 10000 }
    return ⟨start, stop⟩
  | .backward => do
    let start ← add (.fork [])
    let stop ← add (.pass 0)
    let ways : StateT StateCache Build Unit := sequences.forM fun s => do
      connect start (← s.buildBackward stop)
    let _ ← ways.run { size := 1000 }
    return ⟨start, stop⟩

end ByteSequence

/-- The piece that reads a character of a set. -/
def CharSet.build (d : Direction) (members : CharSet) : Build Piece :=
  if members.isAscii then
    ByteSequence.select (members.ranges.map fun r => .ofValues r.low r.high)
  else ByteSequence.buildAll d (ByteSequence.ofSet members)

namespace Build

/-! ### Choices -/

/-- A way from one state to another through a piece. -/
def connectThrough (start stop : StateId) (inner : Piece) : Build Unit := do
  connect start inner.start
  connect inner.stop stop

/-- One of some pieces. The states around them are added behind the first two. -/
def either : List (Build Piece) → Build Piece
  | [] => chain []
  | [way] => way
  | first :: second :: others => do
    let first ← first
    let second ← second
    let start ← add (.fork [])
    let stop ← add (.pass 0)
    connectThrough start stop first
    connectThrough start stop second
    others.forM fun way => do connectThrough start stop (← way)
    return ⟨start, stop⟩

/-! ### Repetitions -/

/-- A piece, or nothing. -/
def atMostOnce (body : Build Piece) : Build Piece := do
  let start ← add (.fork [])
  let inner ← body
  let stop ← add (.pass 0)
  connectThrough start stop inner
  connect start stop
  return ⟨start, stop⟩

/-- A piece, at least once. -/
def atLeastOnce (body : Build Piece) : Build Piece := do
  let inner ← body
  let again ← add (.fork [])
  connectThrough again again inner
  return ⟨inner.start, again⟩

/-- A piece, any number of times. If it always reads something, one state is enough. -/
def anyTimes (body : Build Piece) (reads : Bool) : Build Piece := do
  if reads then
    let again ← add (.fork [])
    connectThrough again again (← body)
    return ⟨again, again⟩
  else
    let inner ← atLeastOnce body
    let start ← add (.fork [])
    let stop ← add (.pass 0)
    connect start inner.start
    connect start stop
    connect inner.stop stop
    return ⟨start, stop⟩

/-- A number of copies of a piece, each of which may be the last one, behind a state. -/
def joinOptional (body : Build Piece) (stop : StateId) : Nat → StateId → Build Unit
  | 0, last => connect last stop
  | n + 1, last => do
    let start ← add (.fork [])
    connect last start
    let inner ← body
    connect start inner.start
    connect start stop
    joinOptional body stop n inner.stop

/-- A piece, some number of times. -/
def times (body : Build Piece) (reads : Bool) : Nat → Option Nat → Build Piece
  | 0, none => anyTimes body reads
  | 1, none => atLeastOnce body
  | n + 1, none => do join (← copies body n) (← atLeastOnce body)
  | 0, some 1 => atMostOnce body
  | least, some most => do
    let first ← copies body least
    if least = most then return first
    else
      let stop ← add (.pass 0)
      joinOptional body stop (most - least) first.stop
      return ⟨first.start, stop⟩

end Build

/-! ### Expressions -/

namespace Regex

/-- The bytes of an expression that is a literal. -/
def bytes? : Regex → Option (List UInt8)
  | literal text => some (text.flatMap String.utf8EncodeChar)
  | _ => none

mutual

/-- The piece of an expression. -/
def build (d : Direction) : Regex → Build Piece
  | nothing => single (.pass 0)
  | literal text =>
    let bytes := text.flatMap String.utf8EncodeChar
    chain ((d.order bytes).map fun b => single (.read ⟨.ofByte b, 0⟩))
  | set members _ => members.build d
  | look condition => single (.look condition 0)
  | sequence parts => chain (d.order (buildAll d parts))
  | choice branches =>
    match branches.mapM bytes? with
    | some words => (WordTree.ofWords (words.map d.order)).build
    | none => either (buildAll d branches)
  | repeated body least most _ =>
    Build.times (body.build d) (body.shortest?.any (0 < ·)) least most
  | captured body =>
    match d with
    | .forward => chain [single (.pass 0), body.build d, single (.pass 0)]
    | .backward => body.build d

/-- The pieces of some expressions. -/
def buildAll (d : Direction) : List Regex → List (Build Piece)
  | [] => []
  | r :: rs => r.build d :: buildAll d rs

end

/-- The loop that reads any bytes before a match. Where every match touches the end at which reading
begins, there are none. -/
def buildLead (d : Direction) (r : Regex) : Build Piece :=
  if r.pinned d then single (.pass 0)
  else anyTimes (ByteSequence.select [⟨0x00, 0xff⟩]) true

/-- The automaton of an expression, read in some direction, if it does not take too many bytes. Its
match as a whole is captured, too. -/
def automaton? (limit : Option Nat) (d : Direction) (r : Regex) : Option Automaton := do
  let whole : Build StateId := do
    let lead ← r.buildLead d
    let piece ← r.captured.build d
    let found ← join piece (← single .final)
    connect lead.stop found.start
    return found.start
  let (start, w) ← whole.run { limit }
  return { states := w.states, start, weight := w.weight }

end Regex

end Semihosting.Pattern
