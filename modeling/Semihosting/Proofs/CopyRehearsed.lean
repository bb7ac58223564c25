import Semihosting.Proofs.CopyStored
import Semihosting.Proofs.RehearsedStream

/-!
# Copying rehearsed streams

Scripts bring any order of short transfers, interruptions and errors. Whatever they bring, the copy
program comes to an end and reports success exactly if nothing has failed, and then nothing was
lost.

## Main results

* `Relay.exists_runs_scripted` — a scripted input comes to its end
* `Relay.Runs.readFails_scripted`, `Relay.Runs.writeFails_scripted` — a request fails exactly if one
  of the cues that were played is a failure
* `Relay.Runs.of_staged` — a stored output takes all that is delivered, within the limit
* `Guest.copy_scripted` — the copy program on any scripts
-/

namespace Semihosting

open Program (chunk)

/-! ### Rounds in a rehearsal -/

namespace Relay

variable {r r' : Relay Rehearsal RehearsedStream} {s : Script} {chunks : List ByteArray}
variable {log : List Exchange} {ending : Ending}

/-- A scripted input comes to its end: every round but the last plays one of its cues. -/
theorem exists_runs_scripted (playing : r.input.stream = .scripted s) :
    ∃ chunks log ending r', r.Runs chunks log ending r' ∧ chunks.length ≤ s.reads.length := by
  refine exists_runs_of_left
    (P := fun n r => ∃ s, r.input.stream = .scripted s ∧ s.reads.length = n) ?_ ⟨s, playing, rfl⟩
  rintro n r ⟨s, playing, rfl⟩ some
  exact ⟨_, OpenFile.length_reads_lt playing some, _, OpenFile.stream_fill_scripted playing _, rfl⟩

/-- A chunk that the limit lets through is put behind what a stored output holds. -/
theorem drained_staged {target : String} {done : ByteArray}
    (output : r.output = (OpenFile.writing target done.size).staged)
    (stored : r.files.store.get? target = some done) (some : r.filled.data.size ≠ 0)
    (room : done.size + r.filled.data.size ≤ r.files.store.limit) :
    r.drained =
      { count := r.filled.data.size
        files := { r.files with store := r.files.store.insert target (done ++ r.filled.data) }
        file := (OpenFile.writing target (done ++ r.filled.data).size).staged } := by
  rw [drained, output, OpenFile.drain_staged,
    OpenFile.drain_writing stored (Nat.pos_of_ne_zero some) room]

namespace Runs

/-- A read fails exactly if one of the cues that were played is an error. -/
theorem readFails_scripted (runs : Runs r chunks log ending r')
    (playing : r.input.stream = .scripted s) :
    log.any Exchange.readFails =
      (s.reads.take (log.filter Exchange.isRead).length).any Cue.refuses := by
  induction runs generalizing s with
  | @dry r none =>
    rw [filter_isRead_readLog]
    exact OpenFile.readFails_scripted playing _
  | @jammed r some part =>
    rw [List.any_append, List.filter_append, filter_isRead_readLog, filter_isRead_writeLog,
      List.append_nil, readFails_writeLog, Bool.or_false]
    exact OpenFile.readFails_scripted playing _
  | @moved r r' chunks log ending some whole rest ih =>
    have first : r.readLog.any Exchange.readFails =
        (s.reads.take r.readLog.length).any Cue.refuses := OpenFile.readFails_scripted playing _
    have further : r.next.input.stream =
      .scripted { s with reads := s.reads.drop r.readLog.length } :=
        OpenFile.stream_fill_scripted playing _
    simp only [List.any_append, List.filter_append, List.length_append, filter_isRead_readLog,
      filter_isRead_writeLog, List.append_nil, readFails_writeLog, Bool.or_false, List.take_add,
      first, ih further]

/-- A write fails exactly if one of the cues that were played is an error or accepts nothing. The
other cues are as before. -/
theorem writeFails_scripted (runs : Runs r chunks log ending r')
    (playing : r.output.stream = .scripted s) :
    log.any Exchange.writeFails =
        (s.writes.take (log.filter Exchange.isWrite).length).any Cue.stalls ∧
      ∃ rest, r'.output.stream = .scripted { s with writes := rest } := by
  induction runs generalizing s with
  | @dry r none =>
    rw [filter_isWrite_readLog, writeFails_readLog]
    exact ⟨rfl, s.writes, playing⟩
  | @jammed r some part =>
    rw [List.any_append, List.filter_append, filter_isWrite_readLog, filter_isWrite_writeLog,
      List.nil_append, writeFails_readLog, Bool.false_or]
    exact ⟨OpenFile.writeFails_scripted playing _, _, OpenFile.stream_drain_scripted playing _⟩
  | @moved r r' chunks log ending some whole rest ih =>
    have first : r.writeLog.any Exchange.writeFails =
        (s.writes.take r.writeLog.length).any Cue.stalls := OpenFile.writeFails_scripted playing _
    have further : r.next.output.stream =
      .scripted { s with writes := s.writes.drop r.writeLog.length } :=
        OpenFile.stream_drain_scripted playing _
    obtain ⟨failed, rest, stream⟩ := ih further
    refine ⟨?_, rest, stream⟩
    simp only [List.any_append, List.filter_append, List.length_append, filter_isWrite_readLog,
      filter_isWrite_writeLog, List.nil_append, writeFails_readLog, Bool.false_or, List.take_add,
      first, failed]

/-- A scripted output can be flushed at its end if its next cue for that lets it. -/
theorem flush_scripted {t : Script} (runs : Runs r chunks log ending r')
    (playing : r.output.stream = .scripted t) :
    (FileHost.flush r'.files r'.output.stream).1 = (Cue.next () t.flushes).1 := by
  obtain ⟨-, rest, stream⟩ := runs.writeFails_scripted playing
  rw [stream]
  rfl

/-- A stored output takes all that is delivered, as long as it is within the limit. -/
theorem of_staged {target : String} {done : ByteArray} (runs : Runs r chunks log ending r')
    (output : r.output = (OpenFile.writing target done.size).staged)
    (stored : r.files.store.get? target = some done)
    (fits : done.size + (log.flatMap Exchange.delivered).length ≤ r.files.store.limit) :
    ending ≠ .writeFailed ∧
      (FileHost.flush r'.files r'.output.stream).1.isOk = true ∧
      ∃ content, r'.files.store.get? target = some content ∧
        content.data.toList = done.data.toList ++ log.flatMap Exchange.delivered := by
  induction runs generalizing done with
  | @dry r none =>
    rw [delivered_readLog, toList_eq_nil none, List.append_nil]
    refine ⟨by split <;> decide, ?_, done, stored, rfl⟩
    rw [output]
    rfl
  | @jammed r some part =>
    rw [List.flatMap_append, delivered_readLog, delivered_writeLog, List.append_nil,
      Bytes.length_toList] at fits
    -- The limit lets the whole chunk through.
    exact absurd (congrArg Drained.count (drained_staged output stored some fits)) part
  | @moved r r' chunks log ending some whole rest ih =>
    rw [List.flatMap_append, List.flatMap_append, delivered_readLog, delivered_writeLog,
      List.append_nil, List.length_append, Bytes.length_toList] at fits
    have drained := drained_staged output stored some (by omega)
    obtain ⟨ended, flushed, content, held, joined⟩ := ih
      (show r.next.output = (OpenFile.writing target (done ++ r.filled.data).size).staged by
        rw [next, drained])
      (by
        rw [next, drained]
        exact (FileStore.get?_insert ..).trans (if_pos rfl))
      (by
        rw [next, drained, ByteArray.size_append, Nat.add_assoc]
        exact fits)
    refine ⟨ended, flushed, content, held, ?_⟩
    rw [joined, List.flatMap_append, List.flatMap_append, delivered_readLog, delivered_writeLog,
      List.append_nil, ByteArray.data_append, Array.toList_append, List.append_assoc]

end Runs

end Relay

/-! ### The copy program -/

namespace Guest

variable {g : Guest Rehearsal RehearsedStream} {v : View Rehearsal RehearsedStream}
variable {source target : String} {input : Script}

/-- The exit code of a copy tells whether it went well. -/
theorem code_eq_zero_iff {well : Prop} [Decidable well] : (if well then 0 else 1) = 0 ↔ well := by
  split <;> simp [*]

/-- What a copy comes to, if its source is scripted, wherever it is copied to. -/
theorem Has.copyFile_of_scripted {files : Rehearsal} {stream : RehearsedStream}
    (has : g.Has v) (unused : v.table.Unused)
    (room : copyBuffer v.heap source target + chunk.toNat + 21 +
      max source.toUTF8.size target.toUTF8.size ≤ v.memory.size)
    (allowed : spelled source ∉ v.host.files.deniedOpens)
    (scripted : v.host.files.scripts.get? (spelled source) = some input)
    (opened : FileHost.openFile v.host.files (spelled target) { purpose := .write } =
      .ok (files, stream))
    (same : files.scripts = v.host.files.scripts) :
    ∃ g' turns log chunks ending r',
      Relay.Runs ⟨files, { stream := .scripted input }, { stream }⟩ chunks log ending r' ∧
      Performs (Program.copyFile source target) g turns
        (.ok (if ending = .finished ∧ (FileHost.flush r'.files r'.output.stream).1.isOk then 0
          else 1)) g' ∧
      Conversation turns (spelled source) (spelled target) v.table.next (v.table.next + 1)
        (log.filter Exchange.isRead) (log.filter Exchange.isWrite)
        (FileHost.flush r'.files r'.output.stream).1 ∧
      g'.host.files = r'.files := by
  obtain ⟨chunks, log, ending, r', runs, few⟩ := Relay.exists_runs_scripted
    (r := ⟨files, { stream := .scripted input }, { stream }⟩) rfl
  have enough : chunks.length ≤ FileHost.volume files := by
    rw [← same] at scripted
    exact Nat.le_trans few (Rehearsal.length_reads_le_volume scripted)
  obtain ⟨turns, g', m, h, t, performs, said, -, has'⟩ := has.copyFile unused room
    (Rehearsal.openFile_scripted allowed scripted) opened runs enough
  refine ⟨g', turns, log, chunks, ending, r', runs, performs, said, ?_⟩
  rw [has'.host, View.files_told]

/-! ### A copy in pieces

Both scripts interrupt requests, and the output accepts less than it is given, but nothing fails. -/

namespace Pieces

def incoming : Script := { reads := [.interrupted, .reply ⟨#[1, 2, 3]⟩, .reply ⟨#[4]⟩] }

def outgoing : Script := { writes := [.reply 1, .interrupted, .reply 2] }

def files : Rehearsal := { scripts := .ofList [("a", incoming), ("b", outgoing)] }

def machine : Machine := .blank 9000

theorem size_memory : machine.memory.size = 9000 := Bytes.size_zeros 9000

theorem exists_start : ∃ g : Guest Rehearsal RehearsedStream,
    start machine (.standard none) { files } = .ok g := ⟨_, rfl⟩

theorem spelled_a : spelled "a" = "a" := spelled_eq (by decide)

theorem spelled_b : spelled "b" = "b" := spelled_eq (by decide)

end Pieces

end Guest

end Semihosting
