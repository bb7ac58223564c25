import Semihosting.File.Rehearsal
import Semihosting.Proofs.Exchanges

/-!
# Transfers on rehearsed streams

A scripted stream answers each request with its next cue, so a transfer plays as many cues as it
makes requests, and it fails exactly if one of these cues says so. A stream on a stored file behaves
in a rehearsal as it does on the store alone.

## Main definitions

* `Cue.refuses`, `Cue.stalls` — the cues at which a read fails, and those at which a write fails
* `OpenFile.staged` — an open file of a store, in a rehearsal on that store

## Main results

* `OpenFile.stream_fill_scripted`, `OpenFile.readFails_scripted` — the cues that a read plays
* `OpenFile.stream_drain_scripted`, `OpenFile.writeFails_scripted` — the cues that a write plays
* `OpenFile.fill_staged`, `OpenFile.drain_staged` — transfers on a stored file in a rehearsal
* `Rehearsal.openFile_scripted`, `Rehearsal.openFile_stored` — what a name opens
-/

namespace Semihosting

/-! ### Cues -/

namespace Cue

variable {α : Type}

/-- The cue is an error, and no mere interruption. -/
def refuses : Cue α → Bool
  | broken => true
  | _ => false

/-- The cue is an error and no mere interruption, or it accepts no byte. -/
def stalls : Cue Nat → Bool
  | broken => true
  | reply count => count = 0
  | interrupted => false

theorem next_snd (usedUp : α) (cues : List (Cue α)) : (next usedUp cues).2 = cues.drop 1 := by
  match cues with
  | [] => rfl
  | interrupted :: _ | broken :: _ | reply _ :: _ => rfl

theorem any_refuses_eq_false_iff {cues : List (Cue α)} :
    cues.any refuses = false ↔ broken ∉ cues := by
  rw [List.any_eq_false]
  constructor
  · exact fun fine there => fine _ there rfl
  · intro fine cue there
    match cue with
    | broken => exact absurd there fine
    | interrupted | reply _ => exact Bool.false_ne_true

theorem any_stalls_eq_false_iff {cues : List (Cue Nat)} :
    cues.any stalls = false ↔ broken ∉ cues ∧ reply 0 ∉ cues := by
  rw [List.any_eq_false]
  constructor
  · exact fun fine => ⟨fun there => fine _ there rfl, fun there => fine _ there rfl⟩
  · rintro ⟨fine, some⟩ cue there
    match cue with
    | broken => exact absurd there fine
    | reply 0 => exact absurd there some
    | interrupted | reply (_ + 1) => exact Bool.false_ne_true

/-- Exchanges that play one cue each fail exactly if one of these cues is a failure. -/
theorem any_cons_eq {fails : Exchange → Bool} {fatal : Cue α → Bool} {cues : List (Cue α)}
    {e : Exchange} {log : List Exchange} (first : fails e = (cues.take 1).any fatal)
    (rest : log.any fails = ((cues.drop 1).take log.length).any fatal) :
    (e :: log).any fails = (cues.take (e :: log).length).any fatal := by
  rw [List.length_cons, Nat.add_comm, List.take_add, List.any_append, ← first, List.any_cons, rest]

end Cue

namespace OpenFile

variable {r : Rehearsal} {file : OpenFile RehearsedStream} {s : Script}

/-! ### Reading -/

/-- A read plays the next cue. -/
theorem read_scripted (r : Rehearsal) (s : Script) (wanted : Nat) :
    FileHost.read r (RehearsedStream.scripted s) wanted =
      ((Cue.next .empty s.reads).1.map (Bytes.window · 0 wanted),
        .scripted { s with reads := s.reads.drop 1 }) := by
  rw [← Cue.next_snd .empty]
  rfl

/-- A read fails if its cue is an error. -/
theorem readFails_next (cues : List (Cue ByteArray)) (wanted : Nat) :
    (Exchange.read ((Cue.next .empty cues).1.map (Bytes.window · 0 wanted))).readFails =
      (cues.take 1).any Cue.refuses := by
  match cues with
  | [] => rfl
  | .interrupted :: _ | .broken :: _ | .reply _ :: _ => rfl

/-- What a read does to the script of its stream. -/
theorem fillFrom_scripted {rounds wanted : Nat} (delivered : ByteArray)
    (playing : file.stream = .scripted s) :
    (fillFrom r rounds file wanted delivered).file.stream =
        .scripted { s with reads := s.reads.drop (readLogFrom r rounds file wanted).length } ∧
      (readLogFrom r rounds file wanted).any Exchange.readFails =
        (s.reads.take (readLogFrom r rounds file wanted).length).any Cue.refuses := by
  induction rounds generalizing file s wanted delivered with
  | zero => simp [fillFrom, readLogFrom, playing]
  | succ rounds ih =>
    have fails := readFails_next s.reads wanted
    unfold fillFrom readLogFrom
    split
    · simp [playing]
    · rw [playing, read_scripted]
      generalize (Cue.next .empty s.reads).1.map (Bytes.window · 0 wanted) = answer at fails ⊢
      -- A request that is not the last leaves the rest of the script to the others.
      have further (wanted : Nat) (delivered : ByteArray) :
          (fillFrom r rounds { file with stream := .scripted { s with reads := s.reads.drop 1 } }
              wanted delivered).file.stream = _ ∧ _ := ih delivered rfl
      rcases answer with reason | data
      · by_cases interrupted : reason = .interrupted
        · subst interrupted
          obtain ⟨stream, failed⟩ := further wanted delivered
          refine ⟨?_, Cue.any_cons_eq fails failed⟩
          rw [List.length_cons, Nat.add_comm, ← List.drop_drop]
          exact stream
        · simp [fails]
      · dsimp only
        split
        · simp [fails]
        · obtain ⟨stream, failed⟩ := further (wanted - data.size) (delivered ++ data)
          refine ⟨?_, Cue.any_cons_eq fails failed⟩
          rw [List.length_cons, Nat.add_comm, ← List.drop_drop]
          exact stream

/-- A read leaves the cues that it has not played. -/
theorem stream_fill_scripted (playing : file.stream = .scripted s) (wanted : Nat) :
    (file.fill r wanted).file.stream =
      .scripted { s with reads := s.reads.drop (file.readLog r wanted).length } :=
  (fillFrom_scripted .empty playing).1

/-- A read fails exactly if one of the cues that it plays is an error. -/
theorem readFails_scripted (playing : file.stream = .scripted s) (wanted : Nat) :
    (file.readLog r wanted).any Exchange.readFails =
      (s.reads.take (file.readLog r wanted).length).any Cue.refuses :=
  (fillFrom_scripted .empty playing).2

/-- A script without cues delivers nothing. -/
theorem size_fill_of_usedUp (playing : file.stream = .scripted s) (usedUp : s.reads = [])
    (wanted : Nat) : (file.fill r wanted).data.size = 0 := by
  have nothing : FileHost.read r file.stream wanted =
      (.ok (Bytes.window .empty 0 wanted), .scripted { s with reads := [] }) := by
    rw [playing, read_scripted, usedUp]
    rfl
  have none : (Bytes.window .empty 0 wanted).size = 0 := by simp
  rw [fill]
  cases wanted + FileHost.readDelays (σ := Rehearsal) file.stream with
  | zero => rfl
  | succ rounds =>
    rw [fillFrom]
    split
    · rfl
    · simp only [nothing, if_pos none]
      rfl

/-- A read that delivers something plays a cue. -/
theorem length_reads_lt (playing : file.stream = .scripted s) {wanted : Nat}
    (some : (file.fill r wanted).data.size ≠ 0) :
    (s.reads.drop (file.readLog r wanted).length).length < s.reads.length := by
  have cues : s.reads.length ≠ 0 := fun none =>
    some (size_fill_of_usedUp playing (List.length_eq_zero_iff.mp none) wanted)
  have asked : (file.readLog r wanted).length ≠ 0 := by
    intro none
    rw [← Bytes.length_toList, fill_data, List.length_eq_zero_iff.mp none] at some
    exact some rfl
  rw [List.length_drop]
  omega

/-! ### Writing -/

variable {data : ByteArray}

/-- A write plays the next cue, and no file changes. -/
theorem write_scripted (r : Rehearsal) (s : Script) (data : ByteArray) :
    FileHost.write r (RehearsedStream.scripted s) data =
      ((Cue.next data.size s.writes).1.map (min · data.size), r,
        .scripted { s with writes := s.writes.drop 1 }) := by
  rw [← Cue.next_snd data.size]
  rfl

/-- A write of some bytes fails if its cue is an error, or accepts none of them. -/
theorem writeFails_next {data : ByteArray} (some : data.size ≠ 0) (cues : List (Cue Nat)) :
    (Exchange.write data ((Cue.next data.size cues).1.map (min · data.size))).writeFails =
      (cues.take 1).any Cue.stalls := by
  match cues with
  | [] => simp [Cue.next, Except.map, Exchange.writeFails, some]
  | .interrupted :: _ | .broken :: _ => rfl
  | .reply 0 :: _ => simp [Cue.next, Except.map, Exchange.writeFails, Cue.stalls]
  | .reply (count + 1) :: _ =>
    have taken : min (count + 1) data.size ≠ 0 := by omega
    simp [Cue.next, Except.map, Exchange.writeFails, Cue.stalls, some]

/-- What a write does to the script of its stream. -/
theorem drainFrom_scripted {rounds taken : Nat} (playing : file.stream = .scripted s) :
    (drainFrom data rounds r file taken).file.stream =
        .scripted
          { s with writes := s.writes.drop (writeLogFrom data rounds r file taken).length } ∧
      (writeLogFrom data rounds r file taken).any Exchange.writeFails =
        (s.writes.take (writeLogFrom data rounds r file taken).length).any Cue.stalls := by
  induction rounds generalizing file s taken with
  | zero => simp [drainFrom, writeLogFrom, playing]
  | succ rounds ih =>
    unfold drainFrom writeLogFrom
    split
    · simp [playing]
    · next left =>
      have fails := writeFails_next (show (data.extract taken data.size).size ≠ 0 by
        rw [ByteArray.size_extract]
        omega) s.writes
      rw [playing, write_scripted]
      generalize (Cue.next (data.extract taken data.size).size s.writes).1.map
        (min · (data.extract taken data.size).size) = answer at fails ⊢
      -- A request that is not the last leaves the rest of the script to the others.
      have further (taken : Nat) :
          (drainFrom data rounds r
              { file with stream := .scripted { s with writes := s.writes.drop 1 } }
              taken).file.stream = _ ∧ _ := ih rfl
      rcases answer with reason | count
      · by_cases interrupted : reason = .interrupted
        · subst interrupted
          obtain ⟨stream, failed⟩ := further taken
          refine ⟨?_, Cue.any_cons_eq fails failed⟩
          rw [List.length_cons, Nat.add_comm, ← List.drop_drop]
          exact stream
        · simp [fails]
      · dsimp only
        split
        · simp [fails]
        · obtain ⟨stream, failed⟩ := further (taken + count)
          refine ⟨?_, Cue.any_cons_eq fails failed⟩
          rw [List.length_cons, Nat.add_comm _ 1, ← List.drop_drop]
          exact stream

/-- A write leaves the cues that it has not played. -/
theorem stream_drain_scripted (playing : file.stream = .scripted s) (data : ByteArray) :
    (file.drain r data).file.stream =
      .scripted { s with writes := s.writes.drop (file.writeLog r data).length } :=
  (drainFrom_scripted playing).1

/-- A write fails exactly if one of the cues that it plays is an error or accepts nothing. -/
theorem writeFails_scripted (playing : file.stream = .scripted s) (data : ByteArray) :
    (file.writeLog r data).any Exchange.writeFails =
      (s.writes.take (file.writeLog r data).length).any Cue.stalls :=
  (drainFrom_scripted playing).2

/-! ### Stored files -/

/-- An open file of a store, in a rehearsal on that store. -/
def staged (file : OpenFile StoredStream) : OpenFile RehearsedStream :=
  { stream := .stored file.stream, eof := file.eof, error := file.error }

theorem fillFrom_staged {rounds wanted : Nat} {delivered : ByteArray}
    (file : OpenFile StoredStream) :
    fillFrom r rounds file.staged wanted delivered =
      { data := (fillFrom r.store rounds file wanted delivered).data
        file := (fillFrom r.store rounds file wanted delivered).file.staged
        failure := (fillFrom r.store rounds file wanted delivered).failure } := by
  induction rounds generalizing file wanted delivered with
  | zero => rfl
  | succ rounds ih =>
    unfold fillFrom
    split
    · rfl
    · have played : FileHost.read r file.staged.stream wanted =
          ((FileHost.read r.store file.stream wanted).1,
            .stored (FileHost.read r.store file.stream wanted).2) := rfl
      rw [played]
      rcases FileHost.read r.store file.stream wanted with ⟨reason | data, stream⟩
      · cases reason with
        | interrupted => exact ih { file with stream }
        | _ => rfl
      · dsimp only
        split
        · rfl
        · exact ih { file with stream }

/-- A read from a stored file does in a rehearsal what it does on the store alone. -/
theorem fill_staged (r : Rehearsal) (file : OpenFile StoredStream) (wanted : Nat) :
    file.staged.fill r wanted =
      { data := (file.fill r.store wanted).data
        file := (file.fill r.store wanted).file.staged
        failure := (file.fill r.store wanted).failure } :=
  fillFrom_staged file

theorem drainFrom_staged {rounds taken : Nat} (file : OpenFile StoredStream) :
    drainFrom data rounds r file.staged taken =
      { count := (drainFrom data rounds r.store file taken).count
        files := { r with store := (drainFrom data rounds r.store file taken).files }
        file := (drainFrom data rounds r.store file taken).file.staged
        failure := (drainFrom data rounds r.store file taken).failure } := by
  induction rounds generalizing r file taken with
  | zero => rfl
  | succ rounds ih =>
    unfold drainFrom
    split
    · rfl
    · have played (piece : ByteArray) : FileHost.write r file.staged.stream piece =
          ((FileHost.write r.store file.stream piece).1,
            { r with store := (FileHost.write r.store file.stream piece).2.1 },
            .stored (FileHost.write r.store file.stream piece).2.2) := rfl
      rw [played]
      rcases FileHost.write r.store file.stream (data.extract taken data.size) with
        ⟨reason | count, store, stream⟩
      · cases reason with
        | interrupted => exact ih (r := { r with store }) { file with stream }
        | _ => rfl
      · dsimp only
        split
        · rfl
        · exact ih (r := { r with store }) { file with stream }

/-- A write to a stored file does in a rehearsal what it does on the store alone. -/
theorem drain_staged (r : Rehearsal) (file : OpenFile StoredStream) (data : ByteArray) :
    file.staged.drain r data =
      { count := (file.drain r.store data).count
        files := { r with store := (file.drain r.store data).files }
        file := (file.drain r.store data).file.staged
        failure := (file.drain r.store data).failure } :=
  drainFrom_staged file

end OpenFile

/-! ### Opening -/

namespace Rehearsal

variable {r : Rehearsal} {name : String} {mode : OpenMode}

/-- A scripted name opens a stream that plays the script from its start. -/
theorem openFile_scripted {script : Script} (allowed : name ∉ r.deniedOpens)
    (scripted : r.scripts.get? name = some script) :
    FileHost.openFile r name mode = .ok (r, .scripted script) := by
  have unfolded : FileHost.openFile r name mode = r.openFile name mode := rfl
  rw [unfolded, openFile, if_neg (by simpa using allowed), scripted]

/-- Any other name that is opened for writing is an empty file of the store. -/
theorem openFile_stored (allowed : name ∉ r.deniedOpens) (plain : r.scripts.get? name = none) :
    FileHost.openFile r name { purpose := .write } =
      .ok ({ r with store := r.store.insert name .empty },
        .stored { name, mode := { purpose := .write } }) := by
  have opened : r.store.openFile name { purpose := .write } = _ :=
    FileStore.openFile_write r.store name
  have unfolded : FileHost.openFile r name { purpose := .write } =
    r.openFile name { purpose := .write } := rfl
  rw [unfolded, openFile, if_neg (by simpa using allowed), plain]
  dsimp only
  rw [opened]
  rfl

/-- A name that is not denied can be opened for writing, and no script changes by that. -/
theorem exists_openFile_write (allowed : name ∉ r.deniedOpens) :
    ∃ files stream, FileHost.openFile r name { purpose := .write } = .ok (files, stream) ∧
      files.scripts = r.scripts := by
  cases found : r.scripts.get? name with
  | some script => exact ⟨_, _, openFile_scripted allowed found, rfl⟩
  | none => exact ⟨_, _, openFile_stored allowed found, rfl⟩

/-- The reads of a script count towards the volume. -/
theorem length_reads_le_volume {script : Script} (scripted : r.scripts.get? name = some script) :
    script.reads.length ≤ FileHost.volume r :=
  Table.le_foldr_of_get? scripted (fun entry => entry.2.reads.length) _

end Rehearsal

end Semihosting
