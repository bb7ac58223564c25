import Semihosting.Proofs.CarriedFile
import Semihosting.Proofs.CopyProgram

/-!
# Copying stored files

On a store the copy program copies: the target ends up with the content of the source, as far as the
limit on the length of files allows it, and the program says whether that was all. The position of
either stream after each round says how much of the content the target holds.

## Main definitions

* `Relay.Midway` — a copy of a stored file, after some rounds
* `Guest.Prints` — what a guest has printed when its session ends

## Main results

* `OpenFile.drain_writing_of_full` — a write past the limit takes what there is room for
* `Relay.Midway.exists_runs` — the rounds of a copy come to an end, and what the target holds then
* `Guest.copy_stored` — the copy program on any store
-/

namespace Semihosting

open Program (chunk)

/-! ### Pieces of a content -/

namespace Bytes

variable {bytes : ByteArray} {a b : Nat}

/-- The next piece joins what was there. -/
theorem window_append : window bytes 0 a ++ window bytes a b = window bytes 0 (a + b) := by
  apply ext_toList
  simp only [ByteArray.data_append, Array.toList_append, toList_window, List.drop_zero,
    List.take_add]

theorem window_window (le : b ≤ a) {start : Nat} :
    window (window bytes start a) 0 b = window bytes start b := by
  apply ext_toList
  rw [toList_window, toList_window, toList_window, List.drop_zero, List.take_take,
    Nat.min_eq_left le]

theorem window_of_size_le (le : bytes.size ≤ a) : window bytes 0 a = bytes := by
  apply ext_toList
  rw [toList_window, List.drop_zero, List.take_of_length_le (by rw [length_toList]; exact le)]

end Bytes

/-- A stored file counts towards the volume of its store. -/
theorem FileStore.size_le_volume {s : FileStore} {name : String} {content : ByteArray}
    (stored : s.get? name = some content) : content.size ≤ FileHost.volume s :=
  Table.le_foldr_of_get? stored (fun entry => entry.2.size) 0

/-! ### The limit -/

/-- A write past the limit takes what there is room for, and then the stream refuses more. -/
theorem OpenFile.drain_writing_of_full {s : FileStore} {name : String} {content data : ByteArray}
    (stored : s.get? name = some content) (within : content.size ≤ s.limit)
    (beyond : s.limit < content.size + data.size) :
    ((writing name content.size).drain s data).count = s.limit - content.size ∧
      ((writing name content.size).drain s data).files.get? name =
        some (content ++ Bytes.window data 0 (s.limit - content.size)) := by
  have found : s.content (writing name content.size).stream.name = content := by
    rw [FileStore.content, writing, stored]
    rfl
  have allowed : s.allowance (writing name content.size).stream data.size =
      s.limit - content.size := by
    rw [FileStore.allowance_of_writable rfl, FileStore.writeStart_of_direct rfl]
    dsimp only [writing]
    omega
  rw [FileStore.drain_eq, allowed, FileStore.writeStart_of_direct rfl, found]
  refine ⟨rfl, ?_⟩
  dsimp only
  split
  · next none =>
    rw [none, Bytes.window_zero, ByteArray.append_empty]
    exact stored
  · exact (FileStore.get?_insert ..).trans ((if_pos rfl).trans (congrArg some Bytes.overlay_size))

/-! ### Rounds on a store -/

namespace Relay

variable {r : Relay FileStore StoredStream} {source target : String} {content : ByteArray}
variable {asked : Nat}

/-- A copy of a stored file, after so many bytes were asked for. -/
structure Midway (r : Relay FileStore StoredStream) (source target : String) (content : ByteArray)
    (asked : Nat) : Prop where
  apart : source ≠ target
  input : r.input = .reading source content asked
  output : r.output = .writing target (min asked content.size)
  source_stored : r.files.get? source = some content
  /-- What was asked for has been moved. -/
  target_stored : r.files.get? target = some (Bytes.window content 0 asked)
  within : min asked content.size ≤ r.files.limit

namespace Midway

/-- A copy begins with both streams at the start, and an empty target. -/
theorem zero {s : FileStore} (apart : source ≠ target) (stored : s.get? source = some content) :
    Midway ⟨s.insert target .empty, { stream := { name := source, mode := { purpose := .read } } },
      { stream := { name := target, mode := { purpose := .write } } }⟩ source target content 0 where
  apart := apart
  input := by simp [OpenFile.reading]
  output := by simp [OpenFile.writing]
  source_stored := by
    rw [FileStore.get?_insert, if_neg apart]
    exact stored
  target_stored := by rw [FileStore.get?_insert, if_pos rfl, Bytes.window_zero]
  within := by
    rw [Nat.zero_min]
    exact Nat.zero_le _

theorem filled_eq (midway : r.Midway source target content asked) :
    r.filled =
      { data := Bytes.window content asked chunk.toNat
        file := .reading source content (asked + chunk.toNat) } := by
  rw [filled, midway.input, OpenFile.fill_reading midway.source_stored]

theorem size_filled (midway : r.Midway source target content asked) :
    r.filled.data.size = min 4096 (content.size - asked) := by
  rw [midway.filled_eq]
  exact Bytes.size_window ..

theorem size_target (asked : Nat) :
    (Bytes.window content 0 asked).size = min asked content.size := by
  rw [Bytes.size_window, Nat.sub_zero]

/-- The output is at the end of the target. -/
theorem drained_eq (midway : r.Midway source target content asked) :
    r.drained = (OpenFile.writing target (Bytes.window content 0 asked).size).drain r.files
      (Bytes.window content asked chunk.toNat) := by
  rw [drained, midway.output, midway.filled_eq, size_target]

/-- A chunk that the limit lets through is moved. -/
theorem moved (midway : r.Midway source target content asked) (more : asked < content.size)
    (room : min (asked + chunk.toNat) content.size ≤ r.files.limit) :
    r.drained.count = r.filled.data.size ∧
      r.next.Midway source target content (asked + chunk.toNat) ∧
      r.next.files.limit = r.files.limit ∧
      ∀ name, name ≠ target → r.next.files.get? name = r.files.get? name := by
  have size : (Bytes.window content asked chunk.toNat).size = min 4096 (content.size - asked) :=
    Bytes.size_window ..
  have chunk_eq : chunk.toNat = 4096 := rfl
  have drained : r.drained = _ := midway.drained_eq.trans
    (OpenFile.drain_writing midway.target_stored (by omega) (by rw [size_target]; omega))
  rw [Bytes.window_append, size_target] at drained
  have others (name : String) (other : name ≠ target) :
      r.next.files.get? name = r.files.get? name := by
    rw [next, drained]
    exact (FileStore.get?_insert ..).trans (if_neg other)
  refine ⟨by rw [drained, midway.filled_eq], ?_, by rw [next, drained]; rfl, others⟩
  refine ⟨midway.apart, ?_, ?_, ?_, ?_, ?_⟩
  · rw [next, midway.filled_eq]
  · rw [next, drained]
  · rw [others _ midway.apart, midway.source_stored]
  · rw [next, drained]
    exact (FileStore.get?_insert ..).trans (if_pos rfl)
  · rw [next, drained]
    exact room

/-- A chunk that the limit cuts is not. -/
theorem cut (midway : r.Midway source target content asked) (more : asked < content.size)
    (full : r.files.limit < min (asked + chunk.toNat) content.size) :
    r.drained.count ≠ r.filled.data.size ∧
      r.next.files.get? target = some (Bytes.window content 0 r.files.limit) ∧
      ∀ name, name ≠ target → r.next.files.get? name = r.files.get? name := by
  have size : (Bytes.window content asked chunk.toNat).size = min 4096 (content.size - asked) :=
    Bytes.size_window ..
  have chunk_eq : chunk.toNat = 4096 := rfl
  have within := midway.within
  obtain ⟨count, stored⟩ := OpenFile.drain_writing_of_full midway.target_stored
    (by rw [size_target]; exact within)
    (show r.files.limit < (Bytes.window content 0 asked).size +
        (Bytes.window content asked chunk.toNat).size by
      rw [size_target]
      omega)
  rw [← midway.drained_eq, size_target] at count stored
  refine ⟨by rw [count, midway.size_filled]; omega, ?_, ?_⟩
  · rw [next]
    dsimp only
    rw [stored, Bytes.window_window (by omega), Nat.min_eq_left (by omega), Bytes.window_append,
      Nat.add_sub_cancel' (by omega)]
  · intro name other
    have kept := (FileStore.drain_keeps r.files r.output r.filled.data).2 name
    rw [midway.output] at kept
    rw [next, Relay.drained, midway.output]
    exact kept other

/-- The rounds of a copy come to an end. The target then holds what the limit lets through, and the
other files are as before. -/
theorem exists_runs (midway : r.Midway source target content asked) :
    ∃ chunks log r',
      r.Runs chunks log (if content.size ≤ r.files.limit then .finished else .writeFailed) r' ∧
      chunks.length ≤ (content.size - asked + 4095) / 4096 ∧
      (content.size ≤ r.files.limit → chunks.length = (content.size - asked + 4095) / 4096) ∧
      r'.files.get? target = some (Bytes.window content 0 r.files.limit) ∧
      ∀ name, name ≠ target → r'.files.get? name = r.files.get? name := by
  have chunk_eq : chunk.toNat = 4096 := rfl
  -- The induction is on what has not been asked for.
  induction left : content.size - asked using Nat.strong_induction_on generalizing r asked with
  | _ n ih =>
    subst left
    rcases Nat.lt_or_ge asked content.size with more | none
    · have nonempty : r.filled.data.size ≠ 0 := by
        rw [midway.size_filled]
        omega
      rcases Nat.lt_or_ge r.files.limit (min (asked + chunk.toNat) content.size) with full | room
      · obtain ⟨part, stored, others⟩ := midway.cut more full
        rw [if_neg (by omega)]
        refine ⟨_, _, _, .jammed nonempty part, ?_, ?_, stored, others⟩
        · rw [List.length_singleton]
          omega
        · omega
      · obtain ⟨whole, further, limit, others⟩ := midway.moved more room
        obtain ⟨chunks, log, r', runs, le, eq, stored, others'⟩ := ih _ (by omega) further rfl
        rw [limit] at runs eq stored
        refine ⟨_, _, r', runs.moved nonempty whole, ?_, ?_, stored, ?_⟩
        · rw [List.length_cons]
          omega
        · intro fits
          rw [List.length_cons, eq fits]
          omega
        · intro name other
          rw [others' name other, others name other]
    · have within := midway.within
      have empty : r.filled.data.size = 0 := by
        rw [midway.size_filled]
        omega
      have runs := Runs.dry empty
      rw [midway.filled_eq] at runs
      rw [if_pos (by omega)]
      refine ⟨_, _, _, runs, ?_, ?_, ?_, ?_⟩
      · exact Nat.zero_le _
      · intro _
        rw [List.length_nil]
        omega
      · rw [midway.target_stored, Bytes.window_of_size_le none, Bytes.window_of_size_le (by omega)]
      · exact fun _ _ => rfl

end Midway

end Relay

/-! ### The copy program -/

namespace Guest

section Printing

variable {σ ς : Type} {g : Guest σ ς} {v : View σ ς}

/-- What a guest has printed when its session ends, behind what was printed before. -/
def Prints (g : Guest σ ς) (before : Host σ) (text : String) : Prop :=
  ∃ lines, g.finish.printed.toList = before.printed.toList ++ lines ∧
    String.join (lines.map (· ++ "\n")) = text

/-- A text that ends with a newline is printed as it is. -/
theorem Has.prints {front : String} (has : g.Has (v.told (some (front ++ "\n"))))
    (fresh : v.console = {}) : g.Prints v.host (front ++ "\n") := by
  have nothing : Console.Shows v.host.printed v.host.printed [] v.console :=
    ⟨by simp, by rw [fresh]; rfl⟩
  obtain ⟨lines, printed, joined⟩ := (nothing.feed (front ++ "\n").toUTF8).whole
  have ended : (front ++ "\n").toUTF8.data.toList.getLast? = some Console.newline := by
    rw [Utf8.toList_toUTF8, String.toList_append, List.flatMap_append]
    simp [String.utf8EncodeChar, Console.newline]
  rw [List.nil_append, if_pos (Or.inr ended), Utf8.text_toList, Utf8.decode_toUTF8] at joined
  refine ⟨lines, ?_, joined.trans (String.append_empty)⟩
  rw [has.printed_finish]
  exact printed

end Printing

variable {g : Guest FileStore StoredStream} {v : View FileStore StoredStream}
variable {source target : String}

/-- A file that is stored is copied as far as the limit allows it. -/
theorem Has.copyFile_of_stored (has : g.Has v) (unused : v.table.Unused)
    (plain : '\x00' ∉ source.toList) (plain' : '\x00' ∉ target.toList) (apart : source ≠ target)
    (room : copyBuffer v.heap source target + chunk.toNat + 21 +
      max source.toUTF8.size target.toUTF8.size ≤ v.memory.size)
    {content : ByteArray} (stored : v.host.files.get? source = some content) :
    ∃ code g' turns reads writes flushed,
      Performs (Program.copyFile source target) g turns (.ok code) g' ∧
      Conversation turns source target v.table.next (v.table.next + 1) reads writes flushed ∧
      g'.host.files.get? target = some (Bytes.window content 0 v.host.files.limit) ∧
      (∀ name, name ≠ target → g'.host.files.get? name = v.host.files.get? name) ∧
      (content.size ≤ v.host.files.limit → code = 0 ∧ turns.flatMap Turn.stdout = [] ∧
        (v.console = {} → g'.finish.printed = v.host.printed) ∧
        g'.debugger.served = v.served + (6 + 2 * ((content.size + 4095) / 4096))) ∧
      (v.host.files.limit < content.size → code = 1 ∧
        turns.flatMap Turn.stdout = ("copy: error writing " ++ target ++ "\n").toUTF8.data.toList ∧
        (v.console = {} → g'.Prints v.host ("copy: error writing " ++ target ++ "\n"))) := by
  have midway := Relay.Midway.zero apart stored
  obtain ⟨chunks, log, r', runs, few, count, held, others⟩ := midway.exists_runs
  have limit : (v.host.files.insert target .empty).limit = v.host.files.limit := rfl
  dsimp only at runs held others count
  rw [limit] at runs held count
  have enough : chunks.length ≤ FileHost.volume (v.host.files.insert target .empty) := by
    have volume := FileStore.size_le_volume midway.source_stored
    dsimp only at volume
    omega
  obtain ⟨turns, g', m, h, t, performs, conversation, said, has'⟩ := has.copyFile unused room
    (by rw [spelled_eq plain]; exact FileStore.openFile_read stored)
    (by rw [spelled_eq plain']; exact FileStore.openFile_write ..) runs enough
  have flushed : (FileHost.flush r'.files r'.output.stream).1.isOk = true := rfl
  have files : g'.host.files = r'.files := by rw [has'.host, View.files_told]
  rw [spelled_eq plain, spelled_eq plain'] at conversation
  refine ⟨_, g', turns, _, _, _, performs, conversation, by rw [files]; exact held,
    fun name other => ?_, ?_, ?_⟩
  · rw [files, others name other, FileStore.get?_insert, if_neg other]
  · intro fits
    have ending : (if content.size ≤ v.host.files.limit then Relay.Ending.finished
      else .writeFailed) = .finished := if_pos fits
    rw [ending] at said has' ⊢
    refine ⟨if_pos ⟨rfl, flushed⟩, said, fun quiet => ?_, ?_⟩
    · rw [has'.printed_finish]
      dsimp only [Relay.Ending.complaint?, View.told]
      rw [quiet]
      exact Array.append_empty
    · rw [has'.served]
      dsimp only [Relay.Ending.complaint?, View.told, Relay.Ending.calls]
      rw [count fits]
      omega
  · intro full
    have ending : (if content.size ≤ v.host.files.limit then Relay.Ending.finished
      else .writeFailed) = .writeFailed := if_neg (Nat.not_le.mpr full)
    rw [ending] at said has' ⊢
    have told : g'.Has (View.told _ (some ("copy: error writing " ++ target ++ "\n"))) := has'
    exact ⟨if_neg fun there => absurd there.1 (by decide), said, fun quiet => told.prints quiet⟩

/-! ### A file that is too long

The store lets no stream write more than two bytes to a file, and the file has three. -/

namespace TooLong

def files : FileStore := { files := .ofList [("a", ⟨#[1, 2, 3]⟩)], limit := 2 }

def machine : Machine := .blank 9000

theorem size_memory : machine.memory.size = 9000 := Bytes.size_zeros 9000

theorem exists_start : ∃ g : Guest FileStore StoredStream,
    start machine (.standard none) { files } = .ok g := ⟨_, rfl⟩

end TooLong

/-- The copy program copies. On a store with any limit, a file that is stored is copied as far as
the limit allows it, and the program says in its exit code and on standard output whether that was
all. If there is nothing to copy, no file changes, and none but the target changes in any case. -/
theorem copy_stored {machine : Machine} {input : Option ByteArray} {host : Host FileStore}
    (started : start machine (.standard input) host = .ok g)
    (plain : '\x00' ∉ source.toList) (plain' : '\x00' ∉ target.toList) (apart : source ≠ target)
    (room : copyBuffer heapStart source target + chunk.toNat + 21 +
      max source.toUTF8.size target.toUTF8.size ≤ machine.memory.size) :
    ∃ code g' turns, Performs (Program.run .copy [source, target]) g turns (.ok code) g' ∧
      (∀ content, host.files.get? source = some content → content.size ≤ host.files.limit →
        code = 0 ∧ g'.host.files.get? target = some content ∧
        turns.flatMap Turn.stdout = [] ∧ g'.finish.printed = host.printed ∧
        g'.debugger.served = 6 + 2 * ((content.size + 4095) / 4096)) ∧
      (∀ content, host.files.get? source = some content → host.files.limit < content.size →
        code = 1 ∧
        g'.host.files.get? target = some (Bytes.window content 0 host.files.limit) ∧
        turns.flatMap Turn.stdout =
          ("copy: error writing " ++ target ++ "\n").toUTF8.data.toList ∧
        g'.Prints host ("copy: error writing " ++ target ++ "\n")) ∧
      (host.files.get? source = none → code = 1 ∧ g'.host.files = host.files) ∧
      ∀ name, name ≠ target → g'.host.files.get? name = host.files.get? name := by
  have has := has_of_start started
  cases found : host.files.get? source with
  | none =>
    have denied : FileHost.openFile host.files (spelled source) { purpose := .read } =
        .error (.notFound source) := by
      rw [spelled_eq plain]
      exact FileStore.openFile_read_of_none found
    obtain ⟨turns, g', m, h, performs, -, -, has'⟩ := has.copyFile_of_denied room denied
    have same : g'.host.files = host.files := by
      rw [has'.host]
      rfl
    exact ⟨1, g', turns, performs, nofun, nofun, fun _ => ⟨rfl, same⟩, fun name _ => by rw [same]⟩
  | some content =>
    obtain ⟨code, g', turns, -, -, -, performs, -, held, others, fine, short⟩ :=
      has.copyFile_of_stored StreamTable.unused_fresh plain plain' apart room found
    refine ⟨code, g', turns, performs, ?_, ?_, nofun, others⟩
    · rintro _ ⟨⟩ fits
      obtain ⟨code, silent, printed, served⟩ := fine fits
      rw [Bytes.window_of_size_le fits] at held
      exact ⟨code, held, silent, printed rfl, by rw [served]; exact Nat.zero_add _⟩
    · rintro _ ⟨⟩ full
      obtain ⟨code, said, printed⟩ := short full
      exact ⟨code, held, said, printed rfl⟩

/-- Two bytes of three are copied, and the program complains. -/
theorem copy_stored_tooLong :
    ∃ g turns g', start TooLong.machine (.standard none) { files := TooLong.files } = .ok g ∧
      Performs (Program.run .copy ["a", "b"]) g turns (.ok 1) g' ∧
      g'.host.files.get? "a" = some ⟨#[1, 2, 3]⟩ ∧ g'.host.files.get? "b" = some ⟨#[1, 2]⟩ ∧
      g'.Prints { files := TooLong.files } "copy: error writing b\n" := by
  obtain ⟨g, started⟩ := TooLong.exists_start
  obtain ⟨code, g', turns, performs, -, cut, -, others⟩ := copy_stored started
    (show '\x00' ∉ "a".toList by decide) (show '\x00' ∉ "b".toList by decide) (by decide)
    (by rw [TooLong.size_memory]; decide)
  obtain ⟨rfl, held, -, printed⟩ := cut ⟨#[1, 2, 3]⟩ (by decide) (by decide)
  have two : Bytes.window ⟨#[1, 2, 3]⟩ 0 TooLong.files.limit = ⟨#[1, 2]⟩ := by decide
  refine ⟨g, turns, g', started, performs, ?_, ?_, printed⟩
  · rw [others "a" (by decide)]
    decide
  · rw [held]
    exact congrArg some two

end Guest

end Semihosting
