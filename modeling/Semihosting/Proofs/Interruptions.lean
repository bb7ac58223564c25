import Semihosting.File.Rehearsal
import Semihosting.Proofs.HostMaps

/-!
# Interrupted requests

A scripted stream may interrupt reads and writes any number of times. The guest does not see it: two
scripts that differ in interruptions only lead to the same results, the same memory and the same
flags, call by call. The map that makes this precise leaves all interruptions out of all scripts.

## Main definitions

* `Cue.lasting` — the cues that are no interruptions
* `Rehearsal.calm` — the rehearsal whose reads and writes are never interrupted
* `Rehearsal.calming` — calming as a map between file hosts

## Main results

* `Cue.lasting_insert` — interruptions can be put in and taken out anywhere
* `Rehearsal.interruptions_unseen` — runs on rehearsals that differ in interruptions only
-/

namespace Semihosting

/-! ### Cues -/

namespace Cue

variable {α : Type} {usedUp : α} {cues rest : List (Cue α)} {answer : Except IoError α}

def isInterrupted : Cue α → Bool
  | interrupted => true
  | _ => false

/-- The cues that are no interruptions. -/
def lasting (cues : List (Cue α)) : List (Cue α) := cues.filter (!·.isInterrupted)

theorem length_lasting_le (cues : List (Cue α)) : (lasting cues).length ≤ cues.length :=
  List.length_filter_le ..

/-- An interruption more or less makes no difference to the other cues, wherever it stands. -/
theorem lasting_insert (before behind : List (Cue α)) :
    lasting (before ++ interrupted :: behind) = lasting (before ++ behind) := by
  simp [lasting, isInterrupted]

/-- An interruption is not among the cues that last. -/
theorem lasting_of_interrupted (h : next usedUp cues = (.error .interrupted, rest)) :
    lasting rest = lasting cues := by
  match cues with
  | [] | broken :: _ | reply _ :: _ => simp [next] at h
  | interrupted :: cues =>
    obtain rfl : cues = rest := congrArg Prod.snd h
    rfl

/-- Any other answer is the next one among the cues that last. -/
theorem next_lasting (h : next usedUp cues = (answer, rest))
    (some : answer ≠ .error .interrupted) :
    next usedUp (lasting cues) = (answer, lasting rest) := by
  match cues with
  | [] | broken :: _ | reply _ :: _ =>
    cases h
    rfl
  | interrupted :: _ => exact absurd (congrArg Prod.fst h).symm some

end Cue

/-! ### Scripts -/

/-- The script without interruptions of reads and writes. -/
def Script.calm (s : Script) : Script :=
  { s with reads := Cue.lasting s.reads, writes := Cue.lasting s.writes }

namespace Script

variable {s after : Script}

/-- An answer that is cut to what was asked for is an interruption if it was one before. -/
theorem map_eq_interrupted_iff {α β : Type} {f : α → β} {answer : Except IoError α} :
    answer.map f = .error .interrupted ↔ answer = .error .interrupted := by
  cases answer <;> simp [Except.map]

/-- A read that is not interrupted is answered alike without interruptions. -/
theorem read_calm {count : Nat} {answer : Except IoError ByteArray}
    (h : s.read count = (answer, after)) (some : answer ≠ .error .interrupted) :
    s.calm.read count = (answer, after.calm) := by
  obtain ⟨rfl, rfl⟩ := Prod.mk.inj h.symm
  have played : Cue.next .empty (Cue.lasting s.reads) = _ :=
    Cue.next_lasting rfl fun interrupted => some (map_eq_interrupted_iff.mpr interrupted)
  simp only [read, calm, played]

/-- An interrupted read leaves no trace in a script without interruptions. -/
theorem calm_of_read {count : Nat} (h : s.read count = (.error .interrupted, after)) :
    after.calm = s.calm := by
  have answer := map_eq_interrupted_iff.mp (congrArg Prod.fst h)
  have left : after = { s with reads := (Cue.next .empty s.reads).2 } := (congrArg Prod.snd h).symm
  have played := Cue.lasting_of_interrupted (Prod.ext answer rfl)
  simp only [left, calm, played]

/-- A write that is not interrupted is answered alike without interruptions. -/
theorem write_calm {data : ByteArray} {answer : Except IoError Nat}
    (h : s.write data = (answer, after)) (some : answer ≠ .error .interrupted) :
    s.calm.write data = (answer, after.calm) := by
  obtain ⟨rfl, rfl⟩ := Prod.mk.inj h.symm
  have played : Cue.next data.size (Cue.lasting s.writes) = _ :=
    Cue.next_lasting rfl fun interrupted => some (map_eq_interrupted_iff.mpr interrupted)
  simp only [write, calm, played]

/-- An interrupted write leaves no trace in a script without interruptions. -/
theorem calm_of_write {data : ByteArray} (h : s.write data = (.error .interrupted, after)) :
    after.calm = s.calm := by
  have answer := map_eq_interrupted_iff.mp (congrArg Prod.fst h)
  have left : after = { s with writes := (Cue.next data.size s.writes).2 } :=
    (congrArg Prod.snd h).symm
  have played := Cue.lasting_of_interrupted (Prod.ext answer rfl)
  simp only [left, calm, played]

end Script

/-! ### Rehearsals -/

/-- A stream without interruptions. -/
def RehearsedStream.calm : RehearsedStream → RehearsedStream
  | stored stream => stored stream
  | scripted script => scripted script.calm

namespace Rehearsal

/-- The rehearsal without interruptions of reads and writes. -/
def calm (r : Rehearsal) : Rehearsal := { r with scripts := r.scripts.map Script.calm }

theorem openFile_calm (r : Rehearsal) (name : String) (mode : OpenMode) :
    r.calm.openFile name mode =
      (r.openFile name mode).map fun opened => (opened.1.calm, opened.2.calm) := by
  unfold openFile
  by_cases denied : r.deniedOpens.contains name = true
  · have denied' : r.calm.deniedOpens.contains name = true := denied
    rw [if_pos denied, if_pos denied']
    rfl
  · have allowed : ¬ r.calm.deniedOpens.contains name = true := denied
    have scripts : r.calm.scripts.get? name = (r.scripts.get? name).map Script.calm :=
      Table.get?_map ..
    have store : r.calm.store = r.store := rfl
    rw [if_neg denied, if_neg allowed, scripts, store]
    cases r.scripts.get? name with
    | some script => rfl
    | none => cases r.store.openFile name mode <;> rfl

theorem save_calm (r : Rehearsal) (name : String) (data : ByteArray) :
    r.calm.save name data = (r.save name data).map calm := by
  unfold save
  by_cases denied : r.deniedSaves.contains name = true
  · have denied' : r.calm.deniedSaves.contains name = true := denied
    rw [if_pos denied, if_pos denied']
    rfl
  · have allowed : ¬ r.calm.deniedSaves.contains name = true := denied
    rw [if_neg denied, if_neg allowed]
    rfl

variable {r r' : Rehearsal} {stream after : RehearsedStream}

theorem read_calm {count : Nat} {answer : Except IoError ByteArray}
    (h : r.read stream count = (answer, after)) (some : answer ≠ .error .interrupted) :
    r.calm.read stream.calm count = (answer, after.calm) := by
  cases stream with
  | stored stream =>
    cases h
    rfl
  | scripted script =>
    obtain ⟨rfl, rfl⟩ := Prod.mk.inj h.symm
    have played := Script.read_calm (s := script) rfl some
    simp only [read, RehearsedStream.calm, played]

theorem calm_of_read {count : Nat} (h : r.read stream count = (.error .interrupted, after)) :
    after.calm = stream.calm := by
  cases stream with
  | stored stream =>
    have answer : (r.store.read stream count).1 = .error .interrupted := congrArg Prod.fst h
    exact (FileStore.read_ne_interrupted (Prod.ext answer rfl)).elim
  | scripted script =>
    obtain ⟨answer, rfl⟩ := Prod.mk.inj h
    exact congrArg RehearsedStream.scripted (Script.calm_of_read (Prod.ext answer rfl))

theorem write_calm {data : ByteArray} {answer : Except IoError Nat}
    (h : r.write stream data = (answer, r', after)) (some : answer ≠ .error .interrupted) :
    r.calm.write stream.calm data = (answer, r'.calm, after.calm) := by
  cases stream with
  | stored stream =>
    cases h
    rfl
  | scripted script =>
    cases h
    have played := Script.write_calm (s := script) rfl some
    simp only [write, RehearsedStream.calm, played]

theorem calm_of_write {data : ByteArray}
    (h : r.write stream data = (.error .interrupted, r', after)) :
    r'.calm = r.calm ∧ after.calm = stream.calm := by
  cases stream with
  | stored stream =>
    have answer : (r.store.write stream data).1 = .error .interrupted := congrArg Prod.fst h
    exact (FileStore.write_ne_interrupted (Prod.ext answer rfl)).elim
  | scripted script =>
    obtain ⟨answer, left⟩ := Prod.mk.inj h
    obtain ⟨rfl, rfl⟩ := Prod.mk.inj left
    exact ⟨rfl, congrArg RehearsedStream.scripted (Script.calm_of_write (Prod.ext answer rfl))⟩

/-- Calming is a map between file hosts. -/
def calming : HostMap Rehearsal RehearsedStream Rehearsal RehearsedStream where
  files := calm
  stream := RehearsedStream.calm
  openFile_eq := openFile_calm
  save_eq := save_calm
  seek_eq := by
    rintro r (stream | script) seek <;> rfl
  flush_eq := by
    rintro r (stream | script) <;> rfl
  read_eq := read_calm
  read_interrupted := calm_of_read
  write_eq := write_calm
  write_interrupted := calm_of_write
  readDelays_le := by
    rintro (stream | script)
    · exact Nat.le_refl 0
    · exact Cue.length_lasting_le script.reads
  writeDelays_le := by
    rintro (stream | script)
    · exact Nat.le_refl 0
    · exact Cue.length_lasting_le script.writes

/-- Interruptions are invisible. Let two rehearsals be the same but for interruptions of reads and
writes, and let the guest make the same calls on both. Then every call has the same result or the
same fault, and leaves the same registers, the same memory, and the same handles with the same
flags. -/
theorem interruptions_unseen {content : Option ByteArray} {host : Host Rehearsal}
    {files : Rehearsal} {turns turns' : List (Turn Rehearsal RehearsedStream)}
    {s s' : Stage Rehearsal RehearsedStream} (calm : files.calm = host.files.calm)
    (run : Transcript (.initial content host) turns s)
    (run' : Transcript (.initial content { host with files }) turns' s')
    (same : turns'.map (·.machine) = turns.map (·.machine)) :
    List.Forall₂ Turn.Agrees turns turns' ∧ calming.stage s' = calming.stage s := by
  have start : calming.stage (.initial content { host with files }) =
      calming.stage (.initial content host) := by
    have hosts : calming.host { host with files } = calming.host host :=
      congrArg (fun files => { host with files }) calm
    rw [HostMap.stage, HostMap.stage]
    exact congrArg _ hosts
  exact HostMap.agree start run run' same

end Rehearsal

/-! ### Two scripts

The file `f` delivers one byte and then two. In the second script every read is interrupted once or
twice, and at the end there is one interruption more. The guest opens the file and reads three
bytes. -/

namespace Patience

/-- The path `f` and the mode `r`, and room for three bytes. -/
def memory : Memory := ⟨⟨#[0x66, 0, 0x72, 0, 0, 0, 0]⟩, by decide⟩

def rehearsal (reads : List (Cue ByteArray)) : Rehearsal :=
  { scripts := Table.empty.insert "f" { reads } }

def smooth : Rehearsal := rehearsal [.reply ⟨#[1]⟩, .reply ⟨#[2, 3]⟩]

def rough : Rehearsal :=
  rehearsal
    [.interrupted, .reply ⟨#[1]⟩, .interrupted, .interrupted, .reply ⟨#[2, 3]⟩, .interrupted]

def opening : Machine := .asking .fopen [0, 2] memory

def reading : Machine := .asking .fread [4, 1, 3, 1] memory

abbrev start (r : Rehearsal) : Stage Rehearsal RehearsedStream := .initial none { files := r }

/-- The read, behind the opening. -/
def last (r : Rehearsal) : Turn Rehearsal RehearsedStream :=
  ⟨(Turn.mk (start r) opening).after, reading⟩

theorem run (r : Rehearsal) :
    Transcript (start r) [⟨start r, opening⟩, last r] (last r).after :=
  (Transcript.nil.snoc opening).snoc reading

theorem calm : rough.calm = smooth.calm := rfl

theorem delivered :
    (last smooth).serviced.machine.memory.bytes = ⟨#[0x66, 0, 0x72, 0, 1, 2, 3]⟩ := by
  decide +kernel

end Patience

/-- Three bytes are read through all interruptions. -/
theorem Rehearsal.interruptions_unseen_patience :
    (Patience.last Patience.rough).serviced.machine.memory.bytes =
      ⟨#[0x66, 0, 0x72, 0, 1, 2, 3]⟩ := by
  obtain ⟨agree, -⟩ := Rehearsal.interruptions_unseen Patience.calm
    (Patience.run Patience.smooth) (Patience.run Patience.rough) rfl
  cases agree with
  | cons opened rest =>
    cases rest with
    | cons read =>
      rw [read.left]
      exact Patience.delivered

end Semihosting
