import Semihosting.Proofs.CopyStored

/-!
# What a copy leaves of its source

The copy program opens its source, then its target, and the target is emptied when it is opened. If
both are one file there is nothing left to read by then: the program moves nothing, ends well, and
the content is gone. A source with any other name stays as it was, however the copy ends.

## Main definitions

* `Relay.inPlace` — both streams of a copy on one file

## Main results

* `Relay.runs_inPlace` — with both streams on one file, the first round finds nothing
* `Guest.Has.copyFile_inPlace` — the copy program with one file as source and target
* `Guest.copy_source` — what the source holds after the copy program, on any store
* `Guest.not_copy_keeps_source` — the source can be lost
-/

namespace Semihosting

open Program (chunk)

/-! ### Rounds in place -/

namespace Relay

/-- A stream for reading and one for writing on one file, which was emptied for the second. -/
def inPlace (s : FileStore) (name : String) : Relay FileStore StoredStream where
  files := s.insert name .empty
  input := { stream := { name, mode := { purpose := .read } } }
  output := { stream := { name, mode := { purpose := .write } } }

/-- The first round finds nothing to read and is the last one. -/
theorem runs_inPlace (s : FileStore) (name : String) :
    (inPlace s name).Runs [] (inPlace s name).readLog .finished
      { inPlace s name with input := .reading name .empty chunk.toNat } := by
  have emptied : (s.insert name .empty).get? name = some .empty := by
    rw [FileStore.get?_insert, if_pos rfl]
  have start : (inPlace s name).input = .reading name .empty 0 := by
    simp [inPlace, OpenFile.reading]
  have filled : (inPlace s name).filled =
      { data := Bytes.window .empty 0 chunk.toNat
        file := .reading name .empty (0 + chunk.toNat) } := by
    rw [Relay.filled, start]
    exact OpenFile.fill_reading emptied
  have dry := Runs.dry (r := inPlace s name) (by rw [filled]; rfl)
  rw [filled, Nat.zero_add] at dry
  exact dry

end Relay

/-! ### The copy program -/

namespace Guest

variable {g : Guest FileStore StoredStream} {v : View FileStore StoredStream}
variable {source target : String} {content : ByteArray}

/-- With one file as source and target the program empties the file and ends well. -/
theorem Has.copyFile_inPlace (has : g.Has v) (unused : v.table.Unused) (quiet : v.console = {})
    (plain : '\x00' ∉ source.toList)
    (room : copyBuffer v.heap source source + chunk.toNat + 21 + source.toUTF8.size ≤
      v.memory.size)
    (stored : v.host.files.get? source = some content) :
    ∃ g' turns, Performs (Program.copyFile source source) g turns (.ok 0) g' ∧
      g'.host.files = v.host.files.insert source .empty ∧
      turns.flatMap Turn.stdout = [] ∧ g'.finish.printed = v.host.printed ∧
      g'.debugger.served = v.served + 6 := by
  obtain ⟨turns, g', m, h, t, performs, -, said, has'⟩ := has.copyFile unused
    (by rw [Nat.max_self]; exact room)
    (by rw [spelled_eq plain]; exact FileStore.openFile_read stored)
    (by rw [spelled_eq plain]; exact FileStore.openFile_write ..)
    (Relay.runs_inPlace v.host.files source) (Nat.zero_le _)
  refine ⟨g', turns, performs, by rw [has'.host]; rfl, said, ?_, by rw [has'.served]; rfl⟩
  rw [has'.printed_finish]
  dsimp only [Relay.Ending.complaint?, View.told]
  rw [quiet]
  exact Array.append_empty

/-! ### A file of three bytes is copied to itself -/

namespace InPlace

def files : FileStore := { files := .ofList [("a", ⟨#[1, 2, 3]⟩)] }

def machine : Machine := .blank 9000

theorem exists_start : ∃ g : Guest FileStore StoredStream,
    start machine (.standard none) { files } = .ok g := ⟨_, rfl⟩

theorem stored : files.get? "a" = some ⟨#[1, 2, 3]⟩ := by decide

theorem room : copyBuffer heapStart "a" "a" + chunk.toNat + 21 +
    max "a".toUTF8.size "a".toUTF8.size ≤ machine.memory.size := by
  have size : machine.memory.size = 9000 := Bytes.size_zeros 9000
  rw [size]
  decide

end InPlace

/-- The copy program changes no file but its target, and ends in any case. So what its source holds
stays, unless the target is the same file: then the content is gone, and the program ends well and
says nothing. -/
theorem copy_source {machine : Machine} {input : Option ByteArray} {host : Host FileStore}
    (started : start machine (.standard input) host = .ok g)
    (plain : '\x00' ∉ source.toList) (plain' : '\x00' ∉ target.toList)
    (room : copyBuffer heapStart source target + chunk.toNat + 21 +
      max source.toUTF8.size target.toUTF8.size ≤ machine.memory.size)
    (stored : host.files.get? source = some content) :
    ∃ code g' turns, Performs (Program.run .copy [source, target]) g turns (.ok code) g' ∧
      g'.host.files.get? source = some (if source = target then .empty else content) ∧
      (∀ name, name ≠ target → g'.host.files.get? name = host.files.get? name) ∧
      (source = target → code = 0 ∧ turns.flatMap Turn.stdout = [] ∧
        g'.finish.printed = host.printed ∧ g'.debugger.served = 6) := by
  have has := has_of_start started
  by_cases same : source = target
  · subst same
    obtain ⟨g', turns, performs, files, silent, printed, served⟩ :=
      has.copyFile_inPlace StreamTable.unused_fresh rfl plain
        (by rw [Nat.max_self] at room; exact room) stored
    dsimp only at files
    refine ⟨0, g', turns, performs, ?_, fun name other => ?_,
      fun _ => ⟨rfl, silent, printed, served⟩⟩
    · rw [files, FileStore.get?_insert, if_pos rfl, if_pos rfl]
    · rw [files, FileStore.get?_insert, if_neg other]
  · obtain ⟨code, g', turns, -, -, -, performs, -, -, others, -, -⟩ :=
      has.copyFile_of_stored StreamTable.unused_fresh plain plain' same room stored
    refine ⟨code, g', turns, performs, ?_, others, fun same' => absurd same' same⟩
    rw [if_neg same, others source same]
    exact stored

/-- Three bytes are gone, and the exit code is zero. -/
theorem copy_source_inPlace :
    ∃ g turns g', start InPlace.machine (.standard none) { files := InPlace.files } = .ok g ∧
      Performs (Program.run .copy ["a", "a"]) g turns (.ok 0) g' ∧
      g'.host.files.get? "a" = some .empty := by
  obtain ⟨g, started⟩ := InPlace.exists_start
  obtain ⟨code, g', turns, performs, held, -, ended⟩ := copy_source started
    (show '\x00' ∉ "a".toList by decide) (show '\x00' ∉ "a".toList by decide) InPlace.room
    InPlace.stored
  rw [(ended rfl).1] at performs
  exact ⟨g, turns, g', started, performs, held⟩

/-- So the copy program does not keep its source in all cases. -/
theorem not_copy_keeps_source :
    ¬ ∀ (machine : Machine) (input : Option ByteArray) (host : Host FileStore)
      (g g' : Guest FileStore StoredStream) (source target : String) (content : ByteArray)
      (code : Nat),
      start machine (.standard input) host = .ok g → '\x00' ∉ source.toList →
      '\x00' ∉ target.toList →
      copyBuffer heapStart source target + chunk.toNat + 21 +
        max source.toUTF8.size target.toUTF8.size ≤ machine.memory.size →
      host.files.get? source = some content →
      Program.run .copy [source, target] g = (.ok code, g') →
      g'.host.files.get? source = some content := by
  intro holds
  obtain ⟨g, started⟩ := InPlace.exists_start
  obtain ⟨g', turns, performs, files, -⟩ := (has_of_start started).copyFile_inPlace
    StreamTable.unused_fresh rfl (show '\x00' ∉ "a".toList by decide) InPlace.room InPlace.stored
  have kept := holds _ _ _ _ _ "a" "a" _ _ started (by decide) (by decide) InPlace.room
    InPlace.stored performs.eq
  rw [files, FileStore.get?_insert, if_pos rfl] at kept
  exact absurd kept (by decide)

end Guest

end Semihosting
