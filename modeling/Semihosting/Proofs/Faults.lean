import Semihosting.Proofs.StreamServices
import Semihosting.Proofs.Transcript

/-!
# When a host call faults

A fault is the guest's own doing: an unknown number, a transfer that is too large, or an address
that leads out of memory. What the host makes of a request never turns into a fault.

## Main definitions

* `InputFeed.due` — how many bytes the next delivery of input is to hold
* `Turn.length` — how many bytes a transfer asks for
* `Turn.Faults` — the causes of faults, one constructor for each

## Main results

* `Turn.faults_of_error`, `Turn.error_of_faults` — a call of a debugging session faults exactly
  for one of these causes
-/

namespace Semihosting

open Debugger (panel)

/-! ### Input -/

namespace InputFeed

variable {σ : Type} {f : InputFeed} {buffer length : Word} {memory : Memory} {host : Host σ}
variable {fault : Fault}

/-- How many bytes the next delivery is to hold: what is left, as far as the word at `length`
allows. -/
def due (f : InputFeed) (memory : Memory) (length : Word) : Nat :=
  min f.left (Bytes.toWord (Bytes.window memory.bytes length.toNat 8)).toNat

theorem deliver_of_lengthOutside (given : f.content ≠ none) (outside : ¬ memory.Holds length 8) :
    f.deliver buffer length memory host =
      .refusal (.outOfBounds length 8) f memory host := by
  obtain ⟨content, hc⟩ := Option.ne_none_iff_exists'.mp given
  have unread : memory.loadWord length = .error (.outOfBounds length 8) :=
    Memory.loadWord_eq_error_iff.mpr ⟨outside, rfl⟩
  simp only [deliver, hc, unread, Answer.refusal]

theorem deliver_of_bufferOutside (left : 0 < f.left) (inside : memory.Holds length 8)
    (outside : ¬ memory.Holds buffer (f.due memory length)) :
    f.deliver buffer length memory host =
      .refusal (.outOfBounds buffer (UInt64.ofNat (f.due memory length))) f memory host := by
  cases hc : f.content with
  | none => simp [InputFeed.left, hc] at left
  | some content =>
    have hleft : f.left = content.size - f.offset := by simp only [InputFeed.left, hc]
    have capacity := Memory.loadWord_eq_ok_iff.mpr ⟨inside, rfl⟩
    have some_left : ¬ content.size ≤ f.offset := by omega
    have hdue : min (content.size - f.offset)
        (Bytes.toWord (Bytes.window memory.bytes length.toNat 8)).toNat = f.due memory length := by
      rw [due, hleft]
    -- No more is due than is left, so the piece is as long as what is due.
    have hsize : (Bytes.window content f.offset (f.due memory length)).size =
        f.due memory length := by
      rw [Bytes.size_window, due, hleft]
      omega
    have unstored : memory.store buffer (Bytes.window content f.offset (f.due memory length)) =
        .error (.outOfBounds buffer (UInt64.ofNat (f.due memory length))) := by
      rw [Memory.store_eq_error_iff, hsize]
      exact ⟨outside, rfl⟩
    simp only [deliver, hc, capacity, if_neg some_left, hdue, unstored, Answer.refusal]

/-- The length word can be stored wherever it was read, so a delivery faults only before it has
changed anything. -/
theorem outside_of_deliver_error
    (h : (f.deliver buffer length memory host).outcome = .error fault) :
    (f.content ≠ none ∧ ¬ memory.Holds length 8 ∧ fault = .outOfBounds length 8) ∨
      (0 < f.left ∧ memory.Holds length 8 ∧ ¬ memory.Holds buffer (f.due memory length) ∧
        fault = .outOfBounds buffer (UInt64.ofNat (f.due memory length))) := by
  cases hc : f.content with
  | none => simp [deliver, hc] at h
  | some content =>
    by_cases inside : memory.Holds length 8
    · have hleft : f.left = content.size - f.offset := by simp only [InputFeed.left, hc]
      have capacity := Memory.loadWord_eq_ok_iff.mpr ⟨inside, rfl⟩
      by_cases all : content.size ≤ f.offset
      · -- Nothing is left, and the length word is stored where it was read.
        obtain ⟨n, stored⟩ := Memory.exists_storeWord_eq_ok inside 0
        simp [deliver, hc, capacity, all, stored] at h
      · have left : 0 < f.left := by omega
        by_cases fits : memory.Holds buffer (f.due memory length)
        · exfalso
          -- The piece fits, and storing it leaves the length word in memory.
          simp only [deliver, hc, capacity, if_neg all] at h
          split at h
          · next unstored =>
            rw [Memory.store_eq_error_iff, Bytes.size_window] at unstored
            rw [due, hleft] at fits
            refine unstored.1 ?_
            rw [Nat.min_eq_left (Nat.min_le_left _ _)]
            exact fits
          · next filled stored =>
            have room : filled.Holds length 8 := by
              rw [Memory.Holds, Memory.size_of_store stored]
              exact inside
            obtain ⟨n, again⟩ := Memory.exists_storeWord_eq_ok room
              (UInt64.ofNat (min (content.size - f.offset)
                (Bytes.toWord (Bytes.window memory.bytes length.toNat 8)).toNat))
            simp [again] at h
        · rw [deliver_of_bufferOutside left inside fits] at h
          cases h
          exact Or.inr ⟨left, inside, fits, rfl⟩
    · rw [deliver_of_lengthOutside (by simp [hc]) inside] at h
      cases h
      exact Or.inl ⟨by simp, inside, rfl⟩

end InputFeed

/-! ### Whole files and output -/

theorem Handler.saveFile_of_lacks {σ ς : Type} [FileHost σ ς] {path address count : Word}
    {memory : Memory} {host : Host σ} {fault : Fault} (lacks : memory.LacksString path fault) :
    saveFile path address count memory host = .refusal fault (.saver : Handler ς) memory host := by
  simp only [saveFile, Memory.loadString_eq_error_iff.mpr lacks, Answer.refusal]

theorem Handler.saveFile_of_outside {σ ς : Type} [FileHost σ ς] {path address count : Word}
    {memory : Memory} {host : Host σ} (hpath : ∃ name, memory.HoldsString path name)
    (outside : ¬ memory.Holds address count.toNat) :
    saveFile path address count memory host =
      .refusal (.outOfBounds address count) (.saver : Handler ς) memory host := by
  obtain ⟨name, hname⟩ := hpath
  have unread : memory.load address count = .error (.outOfBounds address count) :=
    Memory.load_eq_error_iff.mpr ⟨outside, rfl⟩
  simp only [saveFile, Memory.loadString_eq_ok_iff.mpr hname, unread, Answer.refusal]

theorem Handler.lacks_of_saveFile_error {σ ς : Type} [FileHost σ ς] {path address count : Word}
    {memory : Memory} {host : Host σ} {fault : Fault}
    (h : (saveFile (ς := ς) path address count memory host).outcome = .error fault) :
    memory.LacksString path fault ∨ (∃ name, memory.HoldsString path name) ∧
      ¬ memory.Holds address count.toNat ∧ fault = .outOfBounds address count := by
  rcases memory.holdsString_or_lacksString path with hpath | ⟨reason, lacks⟩
  · by_cases inside : memory.Holds address count.toNat
    · obtain ⟨name, hname⟩ := hpath
      have read := Memory.load_eq_ok_iff.mpr ⟨inside, rfl⟩
      simp only [saveFile, Memory.loadString_eq_ok_iff.mpr hname, read] at h
      -- The host may refuse the file, but that is a result and no fault.
      split at h <;> cases h
    · rw [saveFile_of_outside hpath inside] at h
      cases h
      exact Or.inr ⟨hpath, inside, rfl⟩
  · rw [saveFile_of_lacks lacks] at h
    cases h
    exact Or.inl lacks

theorem Console.write_of_outside {σ : Type} {c : Console} {descriptor address count : Word}
    {memory : Memory} {host : Host σ} (standard : descriptor = 1 ∨ descriptor = 2)
    (outside : ¬ memory.Holds address count.toNat) :
    c.write descriptor address count memory host =
      .refusal (.outOfBounds address count) c memory host := by
  have unread : memory.load address count = .error (.outOfBounds address count) :=
    Memory.load_eq_error_iff.mpr ⟨outside, rfl⟩
  simp only [write, if_pos standard, unread, Answer.refusal]

theorem Console.outside_of_write_error {σ : Type} {c : Console} {descriptor address count : Word}
    {memory : Memory} {host : Host σ} {fault : Fault}
    (h : (c.write descriptor address count memory host).outcome = .error fault) :
    (descriptor = 1 ∨ descriptor = 2) ∧ ¬ memory.Holds address count.toNat ∧
      fault = .outOfBounds address count := by
  by_cases standard : descriptor = 1 ∨ descriptor = 2
  · by_cases inside : memory.Holds address count.toNat
    · have read := Memory.load_eq_ok_iff.mpr ⟨inside, rfl⟩
      simp only [write, if_pos standard, read] at h
      cases h
    · rw [write_of_outside standard inside] at h
      cases h
      exact ⟨standard, inside, rfl⟩
  · simp only [write, if_neg standard] at h
    cases h

/-! ### Causes -/

namespace Turn

variable {σ ς : Type} [FileHost σ ς] {x : Turn σ ς} {fault : Fault}

/-- How many bytes a transfer asks for, the product being taken in the natural numbers. -/
def length (x : Turn σ ς) : Nat := (x.arg 1).toNat * (x.arg 2).toNat

/-- The bytes of the whole items that the stream of a handle delivers to a read. -/
def items (x : Turn σ ς) (file : OpenFile ς) : ByteArray :=
  StreamTable.items x.host file (x.arg 1) (x.arg 2)

/-- The causes of faults. No host refusal is among them. -/
inductive Faults (x : Turn σ ς) : Fault → Prop
  /-- No service has the number. -/
  | unknownCall (unknown : ∀ service : Service, service.number ≠ x.request.number) :
      Faults x (.unknownCall x.request.number)
  /-- A transfer is too large, whatever the handle. -/
  | transferTooLarge (service : x.service? = some .fread ∨ x.service? = some .fwrite)
      (large : StreamTable.transferLimit < x.length) :
      Faults x (.transferTooLarge x.request.number (UInt64.ofNat (min x.length (2 ^ 64 - 1))))
  /-- A path is no string. -/
  | path {fault : Fault}
      (service : x.service? = some .fopen ∨ x.service? = some .freopen ∨
        x.service? = some .fileWrite)
      (lacks : x.memory.LacksString (x.arg 0) fault) : Faults x fault
  /-- A path is a string, but the mode beside it is none. -/
  | mode {fault : Fault} (service : x.service? = some .fopen ∨ x.service? = some .freopen)
      (path : ∃ name, x.memory.HoldsString (x.arg 0) name)
      (lacks : x.memory.LacksString (x.arg 1) fault) : Faults x fault
  /-- The output of a guest leaves memory. -/
  | printed (service : x.service? = some .write) (descriptor : x.arg 0 = 1 ∨ x.arg 0 = 2)
      (outside : ¬ x.memory.Holds (x.arg 1) (x.arg 2).toNat) :
      Faults x (.outOfBounds (x.arg 1) (x.arg 2))
  /-- The data for a whole file leaves memory. -/
  | saved (service : x.service? = some .fileWrite)
      (path : ∃ name, x.memory.HoldsString (x.arg 0) name)
      (outside : ¬ x.memory.Holds (x.arg 1) (x.arg 2).toNat) :
      Faults x (.outOfBounds (x.arg 1) (x.arg 2))
  /-- The data for an open stream leaves memory. -/
  | written {file : OpenFile ς} (service : x.service? = some .fwrite)
      (live : x.debugger.table.get? (x.arg 3) = some file) (pos : 0 < x.length)
      (small : x.length ≤ StreamTable.transferLimit)
      (outside : ¬ x.memory.Holds (x.arg 0) x.length) :
      Faults x (.outOfBounds (x.arg 0) (UInt64.ofNat x.length))
  /-- The whole items that an open stream delivers do not fit into memory. -/
  | stored {file : OpenFile ς} (service : x.service? = some .fread)
      (live : x.debugger.table.get? (x.arg 3) = some file) (pos : 0 < x.length)
      (small : x.length ≤ StreamTable.transferLimit)
      (outside : ¬ x.memory.Holds (x.arg 0) (x.items file).size) :
      Faults x (.outOfBounds (x.arg 0) (UInt64.ofNat (x.items file).size))
  /-- The session has input, but its length word leaves memory. -/
  | inputLength (service : x.service? = some .readStream)
      (given : x.debugger.feed.content ≠ none) (outside : ¬ x.memory.Holds (x.arg 1) 8) :
      Faults x (.outOfBounds (x.arg 1) 8)
  /-- Input is left, but what is due does not fit into memory. -/
  | input (service : x.service? = some .readStream) (left : 0 < x.debugger.feed.left)
      (inside : x.memory.Holds (x.arg 1) 8)
      (outside : ¬ x.memory.Holds (x.arg 0) (x.debugger.feed.due x.memory (x.arg 1))) :
      Faults x (.outOfBounds (x.arg 0)
        (UInt64.ofNat (x.debugger.feed.due x.memory (x.arg 1))))

/-- Servicing the call changes neither the machine nor the debugger nor the host. -/
def Unchanged (x : Turn σ ς) : Prop :=
  x.serviced.machine = x.machine ∧ x.serviced.debugger = x.debugger ∧ x.serviced.host = x.host

theorem unchanged_of_none (h : x.answer? = none) : x.Unchanged := by
  rw [Unchanged, serviced_of_none h]
  exact ⟨rfl, rfl, rfl⟩

theorem unchanged_of_refusal
    (h : x.answer? = some (.refusal fault x.debugger.handlers x.memory x.host)) :
    x.serviced.outcome = .error fault ∧ x.Unchanged := by
  rw [Unchanged, serviced_of_error h rfl]
  exact ⟨rfl, rfl, rfl, rfl⟩

theorem unchanged_of_streams {t : StreamTable ς} {rest : List (Handler ς)}
    {act : Reaction (StreamTable ς) σ} (h : x.debugger.handlers = .streams t :: rest)
    (hact : t.react? x.request = some act)
    (refusal : act x.memory x.host = .refusal fault t x.memory x.host) :
    x.serviced.outcome = .error fault ∧ x.Unchanged := by
  apply unchanged_of_refusal
  rw [answer?_of_streams h hact, refusal, h]
  rfl

/-- The items of a read find no room in memory: the open file has moved on, and nothing else has
changed. -/
structure Overran (x : Turn σ ς) (t : StreamTable ς) (f : InputFeed) (c : Console)
    (file moved : OpenFile ς) : Prop where
  /-- The call is a read. -/
  service : x.service? = some .fread
  /-- The handlers before the call. -/
  handlers : x.debugger.handlers = panel t f c
  /-- The handle has a stream. -/
  live : t.get? (x.arg 3) = some file
  /-- There is something to read, within the limit. -/
  wanted : 0 < x.length ∧ x.length ≤ StreamTable.transferLimit
  /-- The whole items that the stream delivers do not fit. -/
  outside : ¬ x.memory.Holds (x.arg 0) (x.items file).size
  /-- The machine is as it was. -/
  machine : x.serviced.machine = x.machine
  /-- The host is as it was. -/
  host : x.serviced.host = x.host
  /-- Only the open file of the handle has been replaced. -/
  debugger : x.serviced.debugger =
    { x.debugger with handlers := panel (t.put (x.arg 3) moved) f c }

section Panel

variable {t : StreamTable ς} {f : InputFeed} {c : Console}

theorem overran_of_outside {file : OpenFile ς} (h : x.debugger.handlers = panel t f c)
    (service : x.service? = some .fread) (live : t.get? (x.arg 3) = some file)
    (pos : 0 < x.length) (small : x.length ≤ StreamTable.transferLimit)
    (outside : ¬ x.memory.Holds (x.arg 0) (x.items file).size) :
    x.serviced.outcome = .error (.outOfBounds (x.arg 0) (UInt64.ofNat (x.items file).size)) ∧
      x.Overran t f c file (file.fill x.host.files x.length).file := by
  have unstored : x.memory.store (x.arg 0) (StreamTable.items x.host file (x.arg 1) (x.arg 2)) =
      .error (.outOfBounds (x.arg 0) (UInt64.ofNat (x.items file).size)) :=
    Memory.store_eq_error_iff.mpr ⟨outside, rfl⟩
  have hanswer := answer?_streams h (react?_of_service service)
  rw [StreamTable.fread_of_live pos small live] at hanswer
  simp only [unstored] at hanswer
  have hserviced := serviced_of_error hanswer rfl
  refine ⟨by rw [hserviced], service, h, live, ⟨pos, small⟩, outside, ?_, ?_, ?_⟩
  · rw [hserviced]
    rfl
  · rw [hserviced]
    rfl
  · rw [hserviced]
    rfl

/-- Every cause brings about its fault, and the call changes nothing but perhaps the stream that it
was to read. -/
theorem error_of_faults (h : x.debugger.handlers = panel t f c) (hf : x.Faults fault) :
    (x.serviced.outcome = .error fault ∧ x.Unchanged) ∨
      (x.serviced.outcome = .error fault ∧
        ∃ file, x.Overran t f c file (file.fill x.host.files x.length).file) := by
  have htable : x.debugger.table = t := Debugger.table_eq h
  have hfeed : x.debugger.feed = f := Debugger.feed_eq h
  cases hf with
  | unknownCall unknown =>
    -- No service has the number, so no handler takes the call.
    have hnone : x.service? = none := by
      cases hs : x.service? with
      | none => rfl
      | some service => exact absurd (Service.ofNumber?_eq_some_iff.mp hs) (unknown service)
    have hanswer := answer?_unknown h hnone
    exact Or.inl ⟨by rw [serviced_of_none hanswer], unchanged_of_none hanswer⟩
  | transferTooLarge service large =>
    rcases service with service | service
    · exact Or.inl <| unchanged_of_streams h (react?_of_service service)
        (StreamTable.fread_of_large large)
    · exact Or.inl <| unchanged_of_streams h (react?_of_service service)
        (StreamTable.fwrite_of_large large)
  | path service lacks =>
    rcases service with service | service | service
    · exact Or.inl <| unchanged_of_streams h (react?_of_service service)
        (StreamTable.fopen_of_lacks (Or.inl lacks))
    · exact Or.inl <| unchanged_of_streams h (react?_of_service service)
        (StreamTable.freopen_of_lacks (Or.inl lacks))
    · have hanswer := answer?_fileWrite h service
      rw [Handler.saveFile_of_lacks lacks] at hanswer
      exact Or.inl <| unchanged_of_refusal (hanswer.trans (by rw [h]; rfl))
  | mode service path lacks =>
    rcases service with service | service
    · exact Or.inl <| unchanged_of_streams h (react?_of_service service)
        (StreamTable.fopen_of_lacks (Or.inr ⟨path, lacks⟩))
    · exact Or.inl <| unchanged_of_streams h (react?_of_service service)
        (StreamTable.freopen_of_lacks (Or.inr ⟨path, lacks⟩))
  | printed service descriptor outside =>
    have hanswer := answer?_write h service
    rw [Console.write_of_outside descriptor outside] at hanswer
    exact Or.inl <| unchanged_of_refusal (hanswer.trans (by rw [h]; rfl))
  | saved service path outside =>
    have hanswer := answer?_fileWrite h service
    rw [Handler.saveFile_of_outside path outside] at hanswer
    exact Or.inl <| unchanged_of_refusal (hanswer.trans (by rw [h]; rfl))
  | written service live pos small outside =>
    rw [htable] at live
    exact Or.inl <| unchanged_of_streams h (react?_of_service service)
      (StreamTable.fwrite_of_outside pos small live outside)
  | stored service live pos small outside =>
    rw [htable] at live
    -- Here alone the stream is read before the fault is known.
    obtain ⟨herror, hover⟩ := overran_of_outside h service live pos small outside
    exact Or.inr ⟨herror, _, hover⟩
  | inputLength service given outside =>
    rw [hfeed] at given
    have hanswer := answer?_readStream h service
    rw [InputFeed.deliver_of_lengthOutside given outside] at hanswer
    exact Or.inl <| unchanged_of_refusal (hanswer.trans (by rw [h]; rfl))
  | input service left inside outside =>
    rw [hfeed] at left outside ⊢
    have hanswer := answer?_readStream h service
    rw [InputFeed.deliver_of_bufferOutside left inside outside] at hanswer
    exact Or.inl <| unchanged_of_refusal (hanswer.trans (by rw [h]; rfl))

/-- A fault has one of the causes. -/
theorem faults_of_error (h : x.debugger.handlers = panel t f c)
    (he : x.serviced.outcome = .error fault) : x.Faults fault := by
  have htable : x.debugger.table = t := Debugger.table_eq h
  have hfeed : x.debugger.feed = f := Debugger.feed_eq h
  cases hs : x.service? with
  | none =>
    rw [serviced_of_none (answer?_unknown h hs)] at he
    cases he
    refine .unknownCall fun service same => ?_
    rw [service?, Request.service?, Service.ofNumber?_eq_some_iff.mpr same] at hs
    cases hs
  | some service =>
    -- The fault of the call is the fault of the service.
    have answered {act : Reaction (StreamTable ς) σ} (hact : t.react? x.request = some act) :
        (act x.memory x.host).outcome = .error fault :=
      (outcome_eq_error_iff (answer?_streams h hact)).mp he
    have hact := react?_of_service (t := t) hs
    cases service with
    | fopen =>
      rcases StreamTable.lacksStrings_of_fopen_error (answered hact) with lacks | ⟨path, lacks⟩
      · exact .path (Or.inl hs) lacks
      · exact .mode (Or.inl hs) path lacks
    | freopen =>
      rcases StreamTable.lacksStrings_of_freopen_error (answered hact) with lacks | ⟨path, lacks⟩
      · exact .path (Or.inr (Or.inl hs)) lacks
      · exact .mode (Or.inr hs) path lacks
    | fread =>
      rcases StreamTable.outside_of_fread_error (answered hact) with
        ⟨large, rfl⟩ | ⟨file, live, pos, small, outside, rfl⟩
      · exact .transferTooLarge (Or.inl hs) large
      · exact .stored hs (htable ▸ live) pos small outside
    | fwrite =>
      rcases StreamTable.outside_of_fwrite_error (answered hact) with
        ⟨large, rfl⟩ | ⟨file, live, pos, small, outside, rfl⟩
      · exact .transferTooLarge (Or.inr hs) large
      · exact .written hs (htable ▸ live) pos small outside
    -- A flag is always answered.
    | feof => cases answered hact
    | ferror => cases answered hact
    | fgetc =>
      obtain ⟨result, ok⟩ := t.exists_fgetc_outcome (x.arg 0) x.memory x.host
      rw [answered hact] at ok
      cases ok
    | fclose => cases answered hact
    | ftell =>
      obtain ⟨result, ok⟩ := t.exists_ftell_outcome (x.arg 0) x.memory x.host
      rw [answered hact] at ok
      cases ok
    | fseek =>
      obtain ⟨result, ok⟩ := t.exists_fseek_outcome (x.arg 0) (x.arg 1) (x.arg 2) x.memory x.host
      rw [answered hact] at ok
      cases ok
    | fileWrite =>
      have ho := (outcome_eq_error_iff (answer?_fileWrite h hs)).mp he
      rcases Handler.lacks_of_saveFile_error ho with lacks | ⟨path, outside, rfl⟩
      · exact .path (Or.inr (Or.inr hs)) lacks
      · exact .saved hs path outside
    | write =>
      have ho := (outcome_eq_error_iff (answer?_write h hs)).mp he
      obtain ⟨standard, outside, rfl⟩ := Console.outside_of_write_error ho
      exact .printed hs standard outside
    | read => cases (outcome_eq_error_iff (answer?_read h hs)).mp he
    | close => cases (outcome_eq_error_iff (answer?_close h hs)).mp he
    | readStream =>
      have ho := (outcome_eq_error_iff (answer?_readStream h hs)).mp he
      rcases InputFeed.outside_of_deliver_error ho with
        ⟨given, outside, rfl⟩ | ⟨left, inside, outside, rfl⟩
      · exact .inputLength hs (hfeed ▸ given) outside
      · rw [← hfeed] at left outside ⊢
        exact .input hs left inside outside
    | random => cases (outcome_eq_error_iff (answer?_random h hs)).mp he
    | timestamp => cases (outcome_eq_error_iff (answer?_timestamp h hs)).mp he

end Panel

end Turn

end Semihosting
