import Mathlib
import Semihosting.Proofs.GuestMemory
import Semihosting.Stdio.StreamTable

/-!
# The stream services, case by case

Each stream service does one of a few things, depending on its arguments, on guest memory and on
whether the handle has a stream. This module has one equation for each case; later proofs use the
equations and do not look into the services again.

## Main definitions

* `Answer.refusal`, `Answer.idle` — answers that change nothing, with a fault or with a result
* `Memory.HoldsStrings`, `Memory.LacksStrings` — both strings of an open are there, or one is not
* `StreamTable.grant?` — what the host opens for the two strings of an open
* `StreamTable.items` — the bytes of whole items that a read stores

## Main results

* `StreamTable.fopen_of_grant`, `StreamTable.fread_of_outside`, … — the equations
-/

namespace Semihosting

/-- The answer of a call that faults and leaves everything as it was. -/
def Answer.refusal {η σ : Type} (fault : Fault) (handler : η) (memory : Memory) (host : Host σ) :
    Answer η σ :=
  { outcome := .error fault, handler, memory, host }

/-- The answer of a call that has a result and does nothing else. -/
def Answer.idle {η σ : Type} (result : Word) (handler : η) (memory : Memory) (host : Host σ) :
    Answer η σ :=
  { outcome := .ok result, handler, memory, host }

namespace Memory

variable {m : Memory} {path mode : Word}

/-- The path and the mode of an open are strings. -/
def HoldsStrings (m : Memory) (path mode : Word) : Prop :=
  (∃ name, m.HoldsString path name) ∧ ∃ letters, m.HoldsString mode letters

/-- The path of an open is no string, or else its mode is none. -/
def LacksStrings (m : Memory) (path mode : Word) (fault : Fault) : Prop :=
  m.LacksString path fault ∨ (∃ name, m.HoldsString path name) ∧ m.LacksString mode fault

theorem holdsStrings_or_lacksStrings (m : Memory) (path mode : Word) :
    m.HoldsStrings path mode ∨ ∃ fault, m.LacksStrings path mode fault := by
  rcases m.holdsString_or_lacksString path with hpath | ⟨fault, lacks⟩
  · rcases m.holdsString_or_lacksString mode with hmode | ⟨fault, lacks⟩
    · exact Or.inl ⟨hpath, hmode⟩
    · exact Or.inr ⟨fault, Or.inr ⟨hpath, lacks⟩⟩
  · exact Or.inr ⟨fault, Or.inl lacks⟩

end Memory

namespace StreamTable

variable {σ ς : Type} [FileHost σ ς] {t : StreamTable ς} {memory : Memory} {host : Host σ}
variable {path mode handle number address size count : Word} {file : OpenFile ς} {fault : Fault}

/-! ### Opening -/

/-- What the host opens for the two strings of an open: its files afterwards, and the stream. -/
def grant? (memory : Memory) (host : Host σ) (path mode : Word) : Option (σ × ς) :=
  match memory.loadString path, memory.loadString mode with
  | .ok name, .ok letters => do
    let mode ← OpenMode.parse? letters
    (FileHost.openFile host.files (Utf8.decode name) mode).toOption
  | _, _ => none

/-- A stream is opened exactly if both strings are there, the second spells a mode and the host
opens the file that the first one names. -/
theorem grant?_eq_some_iff {files : σ} {stream : ς} :
    grant? memory host path mode = some (files, stream) ↔
      ∃ name letters parsed, memory.HoldsString path name ∧ memory.HoldsString mode letters ∧
        OpenMode.parse? letters = some parsed ∧
        FileHost.openFile host.files (Utf8.decode name) parsed = .ok (files, stream) := by
  simp only [← Memory.loadString_eq_ok_iff, grant?]
  cases hp : memory.loadString path with
  | error reason => simp
  | ok name =>
    cases hm : memory.loadString mode with
    | error reason => simp
    | ok letters =>
      cases hl : OpenMode.parse? letters with
      | none => simp [hl]
      | some parsed =>
        cases ho : FileHost.openFile host.files (Utf8.decode name) parsed <;>
          simp [hl, ho, Except.toOption]

theorem openFor_of_grant {name letters : ByteArray} {files : σ} {stream : ς}
    (hp : memory.loadString path = .ok name) (hm : memory.loadString mode = .ok letters)
    (h : grant? memory host path mode = some (files, stream)) :
    openFor host.files name letters = .ok (files, { stream }) := by
  simp only [grant?, hp, hm] at h
  cases hl : OpenMode.parse? letters with
  | none => simp [hl] at h
  | some parsed =>
    cases ho : FileHost.openFile host.files (Utf8.decode name) parsed with
    | error reason => simp [hl, ho, Except.toOption] at h
    | ok opened =>
      obtain rfl : opened = (files, stream) := by simpa [hl, ho, Except.toOption] using h
      simp only [openFor, hl, ho]

theorem openFor_of_denied {name letters : ByteArray}
    (hp : memory.loadString path = .ok name) (hm : memory.loadString mode = .ok letters)
    (h : grant? memory host path mode = none) :
    ∃ event, openFor host.files name letters = .error event := by
  simp only [grant?, hp, hm] at h
  cases hl : OpenMode.parse? letters with
  | none =>
    exact ⟨.modeRejected (Utf8.decode letters) (Utf8.decode name), by simp only [openFor, hl]⟩
  | some parsed =>
    cases ho : FileHost.openFile host.files (Utf8.decode name) parsed with
    | error reason => exact ⟨.openFailed (Utf8.decode name) reason, by simp only [openFor, hl, ho]⟩
    | ok opened => simp [hl, ho, Except.toOption] at h

theorem grant?_of_lacks (h : memory.LacksStrings path mode fault) :
    grant? memory host path mode = none := by
  rcases h with lacks | ⟨-, lacks⟩
  · rw [grant?, Memory.loadString_eq_error_iff.mpr lacks]
  · rw [grant?, Memory.loadString_eq_error_iff.mpr lacks]
    -- The path is a string or it is none; either way there is no grant.
    split <;> simp_all

/-- A grant tells that both strings are there. -/
theorem holdsStrings_of_grant {files : σ} {stream : ς}
    (h : grant? memory host path mode = some (files, stream)) : memory.HoldsStrings path mode := by
  obtain ⟨name, letters, parsed, hname, hletters, -, -⟩ := grant?_eq_some_iff.mp h
  exact ⟨⟨name, hname⟩, ⟨letters, hletters⟩⟩

/-- An open lacks a string, is denied by the host, or is granted. -/
theorem grant_cases (memory : Memory) (host : Host σ) (path mode : Word) :
    (∃ fault, memory.LacksStrings path mode fault) ∨
      (memory.HoldsStrings path mode ∧ grant? memory host path mode = none) ∨
      ∃ files stream, grant? memory host path mode = some (files, stream) := by
  rcases memory.holdsStrings_or_lacksStrings path mode with strings | lacks
  · cases grant : grant? memory host path mode with
    | none => exact Or.inr (Or.inl ⟨strings, rfl⟩)
    | some opened => exact Or.inr (Or.inr ⟨opened.1, opened.2, rfl⟩)
  · exact Or.inl lacks

theorem fopen_of_lacks (h : memory.LacksStrings path mode fault) :
    t.fopen path mode memory host = .refusal fault t memory host := by
  rcases h with lacks | ⟨⟨name, hname⟩, lacks⟩
  · simp only [fopen, Memory.loadString_eq_error_iff.mpr lacks, Answer.refusal]
  · simp only [fopen, Memory.loadString_eq_ok_iff.mpr hname,
      Memory.loadString_eq_error_iff.mpr lacks, Answer.refusal]

/-- A stream that is opened goes under the next handle. -/
theorem fopen_of_grant {files : σ} {stream : ς}
    (h : grant? memory host path mode = some (files, stream)) :
    t.fopen path mode memory host =
      { outcome := .ok t.next, handler := { t.put t.next { stream } with next := t.next + 1 }
        memory, host := { host with files } } := by
  obtain ⟨⟨name, hname⟩, letters, hletters⟩ := holdsStrings_of_grant h
  rw [← Memory.loadString_eq_ok_iff] at hname hletters
  simp only [fopen, hname, hletters, openFor_of_grant hname hletters h]

theorem fopen_of_denied (hs : memory.HoldsStrings path mode)
    (h : grant? memory host path mode = none) :
    ∃ event, t.fopen path mode memory host =
      { outcome := .ok 0, handler := t, memory, host, events := [event] } := by
  obtain ⟨⟨name, hname⟩, letters, hletters⟩ := hs
  rw [← Memory.loadString_eq_ok_iff] at hname hletters
  obtain ⟨event, denied⟩ := openFor_of_denied hname hletters h
  exact ⟨event, by simp only [fopen, hname, hletters, denied]⟩

theorem freopen_of_lacks (h : memory.LacksStrings path mode fault) :
    t.freopen path mode handle memory host = .refusal fault t memory host := by
  rcases h with lacks | ⟨⟨name, hname⟩, lacks⟩
  · simp only [freopen, Memory.loadString_eq_error_iff.mpr lacks, Answer.refusal]
  · simp only [freopen, Memory.loadString_eq_ok_iff.mpr hname,
      Memory.loadString_eq_error_iff.mpr lacks, Answer.refusal]

/-- Nothing is opened for a handle without a stream. -/
theorem freopen_of_dead (hs : memory.HoldsStrings path mode) (dead : t.get? handle = none) :
    t.freopen path mode handle memory host = .idle 0 t memory host := by
  obtain ⟨⟨name, hname⟩, letters, hletters⟩ := hs
  rw [← Memory.loadString_eq_ok_iff] at hname hletters
  simp only [freopen, hname, hletters, dead, Answer.idle]

/-- The new stream takes the handle over, with both flags clear. -/
theorem freopen_of_grant {files : σ} {stream : ς} (live : t.get? handle = some file)
    (h : grant? memory host path mode = some (files, stream)) :
    t.freopen path mode handle memory host =
      { outcome := .ok handle, handler := t.put handle { stream }, memory
        host := { host with files } } := by
  obtain ⟨⟨name, hname⟩, letters, hletters⟩ := holdsStrings_of_grant h
  rw [← Memory.loadString_eq_ok_iff] at hname hletters
  simp only [freopen, hname, hletters, live, openFor_of_grant hname hletters h]

/-- The old stream is closed even if there is no new one. -/
theorem freopen_of_denied (hs : memory.HoldsStrings path mode) (live : t.get? handle = some file)
    (h : grant? memory host path mode = none) :
    ∃ event, t.freopen path mode handle memory host =
      { outcome := .ok 0, handler := t.close handle, memory, host, events := [event] } := by
  obtain ⟨⟨name, hname⟩, letters, hletters⟩ := hs
  rw [← Memory.loadString_eq_ok_iff] at hname hletters
  obtain ⟨event, denied⟩ := openFor_of_denied hname hletters h
  exact ⟨event, by simp only [freopen, hname, hletters, live, denied]⟩

/-- An open that the host does not grant returns zero, if it returns. -/
theorem eq_zero_of_fopen {r : Word} (denied : grant? memory host path mode = none)
    (h : (t.fopen path mode memory host).outcome = .ok r) : r = 0 := by
  rcases memory.holdsStrings_or_lacksStrings path mode with strings | ⟨fault, lacks⟩
  · obtain ⟨event, answer⟩ := fopen_of_denied (t := t) strings denied
    rw [answer] at h
    cases h
    rfl
  · rw [fopen_of_lacks lacks] at h
    cases h

theorem eq_zero_of_freopen {r : Word} (denied : grant? memory host path mode = none)
    (h : (t.freopen path mode handle memory host).outcome = .ok r) : r = 0 := by
  rcases memory.holdsStrings_or_lacksStrings path mode with strings | ⟨fault, lacks⟩
  · cases live : t.get? handle with
    | none =>
      rw [freopen_of_dead strings live] at h
      cases h
      rfl
    | some file =>
      obtain ⟨event, answer⟩ := freopen_of_denied strings live denied
      rw [answer] at h
      cases h
      rfl
  · rw [freopen_of_lacks lacks] at h
    cases h

/-! ### Transfers -/

theorem transferLength_of_le (small : size.toNat * count.toNat ≤ transferLimit) :
    transferLength number size count = .ok (size.toNat * count.toNat) := by
  rw [transferLength]
  exact if_pos small

theorem transferLength_of_lt (large : transferLimit < size.toNat * count.toNat) :
    transferLength number size count = .error (.transferTooLarge number
      (UInt64.ofNat (min (size.toNat * count.toNat) (2 ^ 64 - 1)))) := by
  rw [transferLength]
  exact if_neg (Nat.not_le.mpr large)

/-- A transfer is too large, has nothing to do, or has a stream and something to do. -/
theorem transfer_cases (t : StreamTable ς) (size count handle : Word) :
    transferLimit < size.toNat * count.toNat ∨
      (size.toNat * count.toNat ≤ transferLimit ∧
        (size.toNat * count.toNat = 0 ∨ t.get? handle = none)) ∨
      ∃ file, t.get? handle = some file ∧ 0 < size.toNat * count.toNat ∧
        size.toNat * count.toNat ≤ transferLimit := by
  rcases Nat.lt_or_ge transferLimit (size.toNat * count.toNat) with large | small
  · exact Or.inl large
  · by_cases idle : size.toNat * count.toNat = 0 ∨ t.get? handle = none
    · exact Or.inr (Or.inl ⟨small, idle⟩)
    · rw [not_or] at idle
      obtain ⟨file, live⟩ := Option.ne_none_iff_exists'.mp idle.2
      exact Or.inr (Or.inr ⟨file, live, Nat.pos_of_ne_zero idle.1, small⟩)

theorem fread_of_large (large : transferLimit < size.toNat * count.toNat) :
    t.fread number address size count handle memory host =
      .refusal (.transferTooLarge number
        (UInt64.ofNat (min (size.toNat * count.toNat) (2 ^ 64 - 1)))) t memory host := by
  simp only [fread, transferLength_of_lt large, Answer.refusal]

theorem fwrite_of_large (large : transferLimit < size.toNat * count.toNat) :
    t.fwrite number address size count handle memory host =
      .refusal (.transferTooLarge number
        (UInt64.ofNat (min (size.toNat * count.toNat) (2 ^ 64 - 1)))) t memory host := by
  simp only [fwrite, transferLength_of_lt large, Answer.refusal]

/-- There is nothing to read, or nothing to read from. -/
theorem fread_of_idle (small : size.toNat * count.toNat ≤ transferLimit)
    (idle : size.toNat * count.toNat = 0 ∨ t.get? handle = none) :
    t.fread number address size count handle memory host = .idle 0 t memory host := by
  simp only [fread, transferLength_of_le small, Answer.idle]
  rcases idle with idle | idle
  · rw [idle]
    rfl
  · rw [idle]
    split <;> simp_all

/-- There is nothing to write, or nothing to write to. -/
theorem fwrite_of_idle (small : size.toNat * count.toNat ≤ transferLimit)
    (idle : size.toNat * count.toNat = 0 ∨ t.get? handle = none) :
    t.fwrite number address size count handle memory host = .idle 0 t memory host := by
  simp only [fwrite, transferLength_of_le small, Answer.idle]
  rcases idle with idle | idle
  · rw [idle]
    rfl
  · rw [idle]
    split <;> simp_all

/-- The bytes of the whole items that a stream delivers to a read. -/
def items (host : Host σ) (file : OpenFile ς) (size count : Word) : ByteArray :=
  let delivered := (file.fill host.files (size.toNat * count.toNat)).data
  Bytes.window delivered 0 (delivered.size / size.toNat * size.toNat)

/-- The stream moves on whether or not the items find room in memory. -/
theorem fread_of_live (pos : 0 < size.toNat * count.toNat)
    (small : size.toNat * count.toNat ≤ transferLimit) (live : t.get? handle = some file) :
    t.fread number address size count handle memory host =
      let filled := file.fill host.files (size.toNat * count.toNat)
      let events := filled.failure.toList.map .readFailed
      match memory.store address (items host file size count) with
      | .ok memory =>
        { outcome := .ok (UInt64.ofNat (filled.data.size / size.toNat))
          handler := t.put handle filled.file, memory, host, events }
      | .error fault =>
        { outcome := .error fault, handler := t.put handle filled.file, memory, host, events } := by
  unfold fread
  rw [transferLength_of_le small, live]
  -- The length is within the limit and not zero, and the handle has a stream.
  split
  · next h => cases h
  · next h =>
    injection h with h
    omega
  · next h => cases h
  · next h₁ h₂ =>
    cases h₁
    cases h₂
    rfl

/-- The items find room in memory. -/
theorem fread_of_stored (pos : 0 < size.toNat * count.toNat)
    (small : size.toNat * count.toNat ≤ transferLimit) (live : t.get? handle = some file)
    {left : Memory} (stored : memory.store address (items host file size count) = .ok left) :
    t.fread number address size count handle memory host =
      let filled := file.fill host.files (size.toNat * count.toNat)
      { outcome := .ok (UInt64.ofNat (filled.data.size / size.toNat))
        handler := t.put handle filled.file, memory := left, host
        events := filled.failure.toList.map .readFailed } := by
  rw [fread_of_live pos small live, stored]

/-- The items find no room in memory. -/
theorem fread_of_unstored (pos : 0 < size.toNat * count.toNat)
    (small : size.toNat * count.toNat ≤ transferLimit) (live : t.get? handle = some file)
    (refused : memory.store address (items host file size count) = .error fault) :
    t.fread number address size count handle memory host =
      let filled := file.fill host.files (size.toNat * count.toNat)
      { outcome := .error fault, handler := t.put handle filled.file, memory, host
        events := filled.failure.toList.map .readFailed } := by
  rw [fread_of_live pos small live, refused]

theorem fwrite_of_live (pos : 0 < size.toNat * count.toNat)
    (small : size.toNat * count.toNat ≤ transferLimit) (live : t.get? handle = some file) :
    t.fwrite number address size count handle memory host =
      match memory.load address (UInt64.ofNat (size.toNat * count.toNat)) with
      | .error fault => .refusal fault t memory host
      | .ok data =>
        let drained := file.drain host.files data
        { outcome := .ok (UInt64.ofNat (drained.count / size.toNat))
          handler := t.put handle drained.file, memory
          host := { host with files := drained.files }
          events := drained.failure.toList.map .writeFailed } := by
  unfold fwrite
  rw [transferLength_of_le small, live]
  -- As for a read, only the last case is left.
  split
  · next h => cases h
  · next h =>
    injection h with h
    omega
  · next h => cases h
  · next h₁ h₂ =>
    cases h₁
    cases h₂
    rfl

theorem toNat_length (small : size.toNat * count.toNat ≤ transferLimit) :
    (UInt64.ofNat (size.toNat * count.toNat)).toNat = size.toNat * count.toNat := by
  refine UInt64.toNat_ofNat_of_lt' ?_
  unfold transferLimit at small
  rw [UInt64.size]
  omega

theorem fwrite_of_outside (pos : 0 < size.toNat * count.toNat)
    (small : size.toNat * count.toNat ≤ transferLimit) (live : t.get? handle = some file)
    (outside : ¬ memory.Holds address (size.toNat * count.toNat)) :
    t.fwrite number address size count handle memory host =
      .refusal (.outOfBounds address (UInt64.ofNat (size.toNat * count.toNat))) t memory host := by
  have unread : memory.load address (UInt64.ofNat (size.toNat * count.toNat)) =
      .error (.outOfBounds address (UInt64.ofNat (size.toNat * count.toNat))) := by
    rw [Memory.load_eq_error_iff, toNat_length small]
    exact ⟨outside, rfl⟩
  rw [fwrite_of_live pos small live, unread]

/-- What lies in memory is offered to the stream. -/
theorem fwrite_of_held (pos : 0 < size.toNat * count.toNat)
    (small : size.toNat * count.toNat ≤ transferLimit) (live : t.get? handle = some file)
    (held : memory.Holds address (size.toNat * count.toNat)) :
    t.fwrite number address size count handle memory host =
      let data := Bytes.window memory.bytes address.toNat (size.toNat * count.toNat)
      let drained := file.drain host.files data
      { outcome := .ok (UInt64.ofNat (drained.count / size.toNat))
        handler := t.put handle drained.file, memory
        host := { host with files := drained.files }
        events := drained.failure.toList.map .writeFailed } := by
  have loaded : memory.load address (UInt64.ofNat (size.toNat * count.toNat)) =
      .ok (Bytes.window memory.bytes address.toNat (size.toNat * count.toNat)) := by
    rw [Memory.load_eq_ok_iff, toNat_length small]
    exact ⟨held, rfl⟩
  rw [fwrite_of_live pos small live, loaded]

theorem fgetc_of_live (live : t.get? handle = some file) :
    t.fgetc handle memory host =
      let filled := file.fill host.files 1
      { outcome := .ok (match filled.data.data.toList with
          | [byte] => byte.toUInt64
          | _ => failure)
        handler := t.put handle filled.file, memory, host
        events := filled.failure.toList.map .readFailed } := by
  unfold fgetc
  split
  · next dead =>
    rw [live] at dead
    cases dead
  · next file' live' =>
    rw [live] at live'
    cases live'
    rfl

/-! ### Positions -/

theorem ftell_of_live (live : t.get? handle = some file) :
    t.ftell handle memory host =
      let moved := FileHost.seek host.files file.stream (.current 0)
      { outcome := .ok (match moved.1 with
          | .ok position => UInt64.ofNat position
          | .error _ => failure)
        handler := t.put handle { file with stream := moved.2 }, memory, host } := by
  unfold ftell
  split
  · next dead =>
    rw [live] at dead
    cases dead
  · next file' live' =>
    rw [live] at live'
    cases live'
    rfl

theorem fseek_of_live {offset origin : Word} {seek : Seek} (live : t.get? handle = some file)
    (asked : seek? offset origin = some seek) :
    t.fseek handle offset origin memory host =
      match FileHost.seek host.files file.stream seek with
      | (.ok _, stream) =>
        { outcome := .ok 0, handler := t.put handle { file with stream, eof := false }, memory
          host }
      | (.error _, stream) =>
        { outcome := .ok failure, handler := t.put handle { file with stream }, memory, host } := by
  unfold fseek
  rewrite [live, asked]
  rfl

/-- There is no such place to move to. -/
theorem fseek_of_misput {offset origin : Word} (misput : seek? offset origin = none) :
    t.fseek handle offset origin memory host = .idle failure t memory host := by
  cases live : t.get? handle <;> simp only [fseek, live, misput, Answer.idle]

/-! ### Handles without a stream -/

section Dead

variable (dead : t.get? handle = none)
include dead

theorem fgetc_of_dead : t.fgetc handle memory host = .idle failure t memory host := by
  simp only [fgetc, dead, Answer.idle]

theorem fclose_of_dead : t.fclose handle memory host = .idle failure t memory host := by
  simp only [fclose, dead, close_of_get?_eq_none dead, Answer.idle]

theorem ftell_of_dead : t.ftell handle memory host = .idle failure t memory host := by
  simp only [ftell, dead, Answer.idle]

theorem fseek_of_dead {offset origin : Word} :
    t.fseek handle offset origin memory host = .idle failure t memory host := by
  simp only [fseek, dead, Answer.idle]

omit [FileHost σ ς] in
theorem flag_of_dead {of : OpenFile ς → Bool} :
    t.flag handle of memory host = .idle 0 t memory host := by
  simp [flag, dead, Answer.idle]

end Dead

/-! ### Faults

Only opens and transfers fault. -/

theorem lacksStrings_of_fopen_error
    (h : (t.fopen path mode memory host).outcome = .error fault) :
    memory.LacksStrings path mode fault := by
  rcases grant_cases memory host path mode with
    ⟨reason, lacks⟩ | ⟨strings, denied⟩ | ⟨files, stream, grant⟩
  · rw [fopen_of_lacks lacks] at h
    cases h
    exact lacks
  · obtain ⟨event, answer⟩ := fopen_of_denied (t := t) strings denied
    rw [answer] at h
    cases h
  · rw [fopen_of_grant grant] at h
    cases h

theorem lacksStrings_of_freopen_error
    (h : (t.freopen path mode handle memory host).outcome = .error fault) :
    memory.LacksStrings path mode fault := by
  rcases memory.holdsStrings_or_lacksStrings path mode with strings | ⟨reason, lacks⟩
  · cases live : t.get? handle with
    | none =>
      rw [freopen_of_dead strings live] at h
      cases h
    | some file =>
      cases grant : grant? memory host path mode with
      | none =>
        obtain ⟨event, denied⟩ := freopen_of_denied strings live grant
        rw [denied] at h
        cases h
      | some opened =>
        rw [freopen_of_grant live grant] at h
        cases h
  · rw [freopen_of_lacks lacks] at h
    cases h
    exact lacks

theorem outside_of_fread_error
    (h : (t.fread number address size count handle memory host).outcome = .error fault) :
    (transferLimit < size.toNat * count.toNat ∧
        fault = .transferTooLarge number
          (UInt64.ofNat (min (size.toNat * count.toNat) (2 ^ 64 - 1)))) ∨
      ∃ file, t.get? handle = some file ∧ 0 < size.toNat * count.toNat ∧
        size.toNat * count.toNat ≤ transferLimit ∧
        ¬ memory.Holds address (items host file size count).size ∧
        fault = .outOfBounds address (UInt64.ofNat (items host file size count).size) := by
  rcases t.transfer_cases size count handle with
    large | ⟨small, idle⟩ | ⟨file, live, pos, small⟩
  · rw [fread_of_large large] at h
    cases h
    exact Or.inl ⟨large, rfl⟩
  · rw [fread_of_idle small idle] at h
    cases h
  · rw [fread_of_live pos small live] at h
    dsimp only at h
    -- Only the store at the end can fault now.
    split at h
    · cases h
    · next reason unstored =>
      cases h
      obtain ⟨outside, rfl⟩ := Memory.store_eq_error_iff.mp unstored
      exact Or.inr ⟨file, live, pos, small, outside, rfl⟩

theorem outside_of_fwrite_error
    (h : (t.fwrite number address size count handle memory host).outcome = .error fault) :
    (transferLimit < size.toNat * count.toNat ∧
        fault = .transferTooLarge number
          (UInt64.ofNat (min (size.toNat * count.toNat) (2 ^ 64 - 1)))) ∨
      ∃ file, t.get? handle = some file ∧ 0 < size.toNat * count.toNat ∧
        size.toNat * count.toNat ≤ transferLimit ∧
        ¬ memory.Holds address (size.toNat * count.toNat) ∧
        fault = .outOfBounds address (UInt64.ofNat (size.toNat * count.toNat)) := by
  rcases t.transfer_cases size count handle with
    large | ⟨small, idle⟩ | ⟨file, live, pos, small⟩
  · rw [fwrite_of_large large] at h
    cases h
    exact Or.inl ⟨large, rfl⟩
  · rw [fwrite_of_idle small idle] at h
    cases h
  · rw [fwrite_of_live pos small live] at h
    -- Only the load can fault now; no answer of the stream is a fault.
    split at h
    · next reason unread =>
      cases h
      rw [Memory.load_eq_error_iff, toNat_length small] at unread
      obtain ⟨outside, rfl⟩ := unread
      exact Or.inr ⟨file, live, pos, small, outside, rfl⟩
    · cases h

theorem exists_fgetc_outcome (t : StreamTable ς) (handle : Word) (memory : Memory)
    (host : Host σ) :
    ∃ result, (t.fgetc handle memory host).outcome = .ok result := by
  unfold fgetc
  split
  · exact ⟨_, rfl⟩
  · exact ⟨_, rfl⟩

theorem exists_ftell_outcome (t : StreamTable ς) (handle : Word) (memory : Memory)
    (host : Host σ) :
    ∃ result, (t.ftell handle memory host).outcome = .ok result := by
  unfold ftell
  split
  · exact ⟨_, rfl⟩
  · exact ⟨_, rfl⟩

theorem exists_fseek_outcome (t : StreamTable ς) (handle offset origin : Word)
    (memory : Memory) (host : Host σ) :
    ∃ result, (t.fseek handle offset origin memory host).outcome = .ok result := by
  unfold fseek
  split
  · exact ⟨_, rfl⟩
  · exact ⟨_, rfl⟩
  · split
    · exact ⟨_, rfl⟩
    · exact ⟨_, rfl⟩

end StreamTable

end Semihosting
