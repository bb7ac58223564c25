import Semihosting.File.Store

/-!
# Rehearsed hosts

A file store on which failures are rehearsed: some names are denied, and some names open streams
that play a script, answering each request with the next cue whatever the request is.

## Main definitions

* `Cue` — one scripted answer
* `Script` — a stream that plays cues, one list for each kind of request
* `Rehearsal` — a store with denied names and scripts
* `Rehearsal.host` — the rehearsal as a file host
-/

namespace Semihosting

/-! ### Scripts -/

/-- A scripted answer to one request. -/
inductive Cue (α : Type) where
  | interrupted
  | broken
  | reply (answer : α)
deriving DecidableEq, Repr

/-- The next scripted answer and the cues behind it; `usedUp` is the answer of a script that has
come to its end. -/
def Cue.next {α : Type} (usedUp : α) : List (Cue α) → Except IoError α × List (Cue α)
  | [] => (.ok usedUp, [])
  | interrupted :: rest => (.error .interrupted, rest)
  | broken :: rest => (.error .broken, rest)
  | reply answer :: rest => (.ok answer, rest)

theorem Cue.length_next_le {α : Type} (usedUp : α) (cues : List (Cue α)) :
    (next usedUp cues).2.length ≤ cues.length := by
  unfold next
  split <;> simp

/-- An interruption takes a cue. -/
theorem Cue.length_lt_of_next {α : Type} {usedUp : α} {cues rest : List (Cue α)}
    (h : next usedUp cues = (.error .interrupted, rest)) : rest.length < cues.length := by
  unfold next at h
  split at h <;> simp_all

/-- A stream that plays cues. -/
structure Script where
  /-- What reads deliver, cut to what was asked for; nothing at the end. -/
  reads : List (Cue ByteArray) := []
  /-- How many bytes writes take, cut to what was given; everything at the end. -/
  writes : List (Cue Nat) := []
  /-- The positions that seeks answer; zero at the end. -/
  seeks : List (Cue Word) := []
  /-- How flushes end; well at the end. -/
  flushes : List (Cue Unit) := []
deriving DecidableEq

namespace Script

/-- Plays the next read cue. -/
def read (s : Script) (count : Nat) : Except IoError ByteArray × Script :=
  let (answer, reads) := Cue.next .empty s.reads
  (answer.map (Bytes.window · 0 count), { s with reads })

/-- Plays the next write cue. -/
def write (s : Script) (data : ByteArray) : Except IoError Nat × Script :=
  let (answer, writes) := Cue.next data.size s.writes
  (answer.map (min · data.size), { s with writes })

/-- Plays the next seek cue. -/
def seek (s : Script) : Except IoError Nat × Script :=
  let (answer, seeks) := Cue.next 0 s.seeks
  (answer.map (·.toNat), { s with seeks })

/-- Plays the next flush cue. -/
def flush (s : Script) : Except IoError Unit × Script :=
  let (answer, flushes) := Cue.next () s.flushes
  (answer, { s with flushes })

theorem size_le_of_read {s after : Script} {count : Nat} {data : ByteArray}
    (h : s.read count = (.ok data, after)) : data.size ≤ count := by
  simp only [read, Prod.mk.injEq] at h
  obtain ⟨h, -⟩ := h
  cases answer : (Cue.next .empty s.reads).1 with
  | error e => simp [answer, Except.map] at h
  | ok reply =>
    rw [answer] at h
    cases h
    rw [Bytes.size_window]
    omega

theorem le_size_of_write {s after : Script} {data : ByteArray} {count : Nat}
    (h : s.write data = (.ok count, after)) : count ≤ data.size := by
  simp only [write, Prod.mk.injEq] at h
  obtain ⟨h, -⟩ := h
  cases answer : (Cue.next data.size s.writes).1 with
  | error e => simp [answer, Except.map] at h
  | ok reply =>
    rw [answer] at h
    cases h
    exact Nat.min_le_right ..

theorem length_reads_lt {s after : Script} {count : Nat}
    (h : s.read count = (.error .interrupted, after)) : after.reads.length < s.reads.length := by
  simp only [read, Prod.mk.injEq] at h
  obtain ⟨h, rfl⟩ := h
  have played : (Cue.next .empty s.reads).1 = .error .interrupted := by
    cases answer : (Cue.next .empty s.reads).1 with
    | error e =>
      rw [answer] at h
      cases h
      rfl
    | ok reply => simp [answer, Except.map] at h
  exact Cue.length_lt_of_next (Prod.ext played rfl)

theorem length_writes_lt {s after : Script} {data : ByteArray}
    (h : s.write data = (.error .interrupted, after)) :
    after.writes.length < s.writes.length := by
  simp only [write, Prod.mk.injEq] at h
  obtain ⟨h, rfl⟩ := h
  have played : (Cue.next data.size s.writes).1 = .error .interrupted := by
    cases answer : (Cue.next data.size s.writes).1 with
    | error e =>
      rw [answer] at h
      cases h
      rfl
    | ok reply => simp [answer, Except.map] at h
  exact Cue.length_lt_of_next (Prod.ext played rfl)

end Script

/-! ### Stores with rehearsed failures -/

/-- A file store with rehearsed failures. -/
structure Rehearsal where
  store : FileStore := {}
  /-- Names that cannot be opened. -/
  deniedOpens : List String := []
  /-- Names that cannot be saved as a whole. -/
  deniedSaves : List String := []
  /-- Names whose streams play a script. -/
  scripts : Table String Script := .empty

/-- A stream of a rehearsal. -/
inductive RehearsedStream where
  /-- A stream on a stored file. -/
  | stored (stream : StoredStream)
  /-- A stream that plays a script. -/
  | scripted (script : Script)

namespace RehearsedStream

/-- The read cues that are left. -/
def readCues : RehearsedStream → Nat
  | stored _ => 0
  | scripted script => script.reads.length

/-- The write cues that are left. -/
def writeCues : RehearsedStream → Nat
  | stored _ => 0
  | scripted script => script.writes.length

end RehearsedStream

namespace Rehearsal

/-- Opens a file unless its name is denied; a scripted name plays its script from the start. -/
def openFile (r : Rehearsal) (name : String) (mode : OpenMode) :
    Except IoError (Rehearsal × RehearsedStream) :=
  if r.deniedOpens.contains name then .error .denied
  else match r.scripts.get? name with
    -- The rehearsal keeps the script, so the next stream plays it anew.
    | some script => .ok (r, .scripted script)
    | none => (r.store.openFile name mode).map fun (store, stream) =>
        ({ r with store }, .stored stream)

/-- Saves a whole file unless its name is denied. -/
def save (r : Rehearsal) (name : String) (data : ByteArray) : Except IoError Rehearsal :=
  if r.deniedSaves.contains name then .error .denied
  else .ok { r with store := r.store.insert name data }

/-- Reads from a file or plays a read cue. -/
def read (r : Rehearsal) (stream : RehearsedStream) (count : Nat) :
    Except IoError ByteArray × RehearsedStream :=
  match stream with
  | .stored stream =>
    let (answer, stream) := r.store.read stream count
    (answer, .stored stream)
  | .scripted script =>
    let (answer, script) := script.read count
    (answer, .scripted script)

/-- Writes to a file or plays a write cue. -/
def write (r : Rehearsal) (stream : RehearsedStream) (data : ByteArray) :
    Except IoError Nat × Rehearsal × RehearsedStream :=
  match stream with
  | .stored stream =>
    -- The rehearsal is taken apart so that its store can be changed in place.
    let ⟨store, deniedOpens, deniedSaves, scripts⟩ := r
    let (answer, store, stream) := store.write stream data
    (answer, { store, deniedOpens, deniedSaves, scripts }, .stored stream)
  | .scripted script =>
    let (answer, script) := script.write data
    (answer, r, .scripted script)

/-- Moves a stream on a file or plays a seek cue. -/
def seek (r : Rehearsal) (stream : RehearsedStream) (seek : Seek) :
    Except IoError Nat × RehearsedStream :=
  match stream with
  | .stored stream =>
    let (answer, stream) := r.store.seek stream seek
    (answer, .stored stream)
  | .scripted script =>
    let (answer, script) := script.seek
    (answer, .scripted script)

/-- Plays a flush cue; a stream on a file has nothing to flush. -/
def flush (stream : RehearsedStream) : Except IoError Unit × RehearsedStream :=
  match stream with
  | .stored stream => (.ok (), .stored stream)
  | .scripted script =>
    let (answer, script) := script.flush
    (answer, .scripted script)

/-- The stored bytes and all scripted reads. -/
def volume (r : Rehearsal) : Nat :=
  r.scripts.entries.foldr (fun entry rest => entry.2.reads.length + rest) r.store.volume

/-! ### Laws of a file host -/

theorem size_le_of_read {r : Rehearsal} {stream after : RehearsedStream} {count : Nat}
    {data : ByteArray} (h : r.read stream count = (.ok data, after)) : data.size ≤ count := by
  cases stream <;> simp only [read, Prod.mk.injEq] at h
  · exact FileStore.size_le_of_read (Prod.ext h.1 rfl)
  · exact Script.size_le_of_read (Prod.ext h.1 rfl)

theorem le_size_of_write {r r' : Rehearsal} {stream after : RehearsedStream} {data : ByteArray}
    {count : Nat} (h : r.write stream data = (.ok count, r', after)) : count ≤ data.size := by
  cases stream <;> simp only [write, Prod.mk.injEq] at h
  · exact FileStore.le_size_of_write (Prod.ext h.1 rfl)
  · exact Script.le_size_of_write (Prod.ext h.1 rfl)

theorem readCues_le (r : Rehearsal) (stream : RehearsedStream) (count : Nat) :
    (r.read stream count).2.readCues ≤ stream.readCues := by
  cases stream with
  | stored stream => exact Nat.le_refl 0
  | scripted script => exact Cue.length_next_le _ _

theorem writeCues_le (r : Rehearsal) (stream : RehearsedStream) (data : ByteArray) :
    (r.write stream data).2.2.writeCues ≤ stream.writeCues := by
  cases stream with
  | stored stream => exact Nat.le_refl 0
  | scripted script => exact Cue.length_next_le _ _

theorem readCues_lt {r : Rehearsal} {stream after : RehearsedStream} {count : Nat}
    (h : r.read stream count = (.error .interrupted, after)) :
    after.readCues < stream.readCues := by
  cases stream <;> simp only [read, Prod.mk.injEq] at h
  · exact (FileStore.read_ne_interrupted (Prod.ext h.1 rfl)).elim
  · rw [← h.2]
    exact Script.length_reads_lt (Prod.ext h.1 rfl)

theorem writeCues_lt {r r' : Rehearsal} {stream after : RehearsedStream} {data : ByteArray}
    (h : r.write stream data = (.error .interrupted, r', after)) :
    after.writeCues < stream.writeCues := by
  cases stream <;> simp only [write, Prod.mk.injEq] at h
  · exact (FileStore.write_ne_interrupted (Prod.ext h.1 rfl)).elim
  · rw [← h.2.2]
    exact Script.length_writes_lt (Prod.ext h.1 rfl)

/-- A rehearsal is a file host; its scripts are finite, and so are their interruptions. -/
instance host : FileHost Rehearsal RehearsedStream where
  openFile := openFile
  save := save
  read := read
  write := write
  seek := seek
  flush _ := flush
  readDelays := RehearsedStream.readCues
  writeDelays := RehearsedStream.writeCues
  volume := volume
  size_le_of_read := size_le_of_read
  le_size_of_write := le_size_of_write
  readDelays_le := readCues_le
  writeDelays_le := writeCues_le
  readDelays_lt := readCues_lt
  writeDelays_lt := writeCues_lt

end Rehearsal

end Semihosting
