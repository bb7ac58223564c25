import Semihosting.Proofs.GuardedAccess
import Semihosting.Proofs.InputDelivery

/-!
# Guarded calls

Every service is written down once more with guarded steps, and so is the debugger. A call that is
made at a stage of a session on a file store takes all its steps and comes to what servicing it
comes to: whatever is in the registers and in memory, no sum leaves the words, no difference is
negative, nothing is divided by zero and no index lies outside. This rests on what a session keeps:
positions fit in words, the input was delivered up to some point in it, and the counters are behind
the number of calls.

## Main definitions

* `Guarded.fopen`, …, `Guarded.deliver` — the services that compute something
* `Guarded.react?`, `Guarded.service` — handlers and debugger
* `Handler.Sound` — what the steps of a handler rely on
* `Stage.Steady` — what a session keeps

## Main results

* `Guarded.service_eq` — a debugger with sound handlers takes all its steps
* `Turn.steady_after` — a session stays as it is relied on
* `Transcript.never_stops` — no call of a session goes wrong
-/

namespace Semihosting

open Debugger (panel)

namespace Guarded

/-- How a handler answers a request, if no step goes wrong. -/
abbrev Act (η : Type) := Memory → Host FileStore → Option (Answer η FileStore)

def Act.map {η θ : Type} (f : η → θ) (act : Act η) : Act θ :=
  fun memory host => (act memory host).map (·.map f)

/-- A reaction that computes nothing. -/
def plain {η : Type} (act : Reaction η FileStore) : Act η :=
  fun memory host => some (act memory host)

/-! ### Streams -/

section Streams

variable (t : StreamTable StoredStream)

def fopen (path mode : Word) : Act (StreamTable StoredStream) := fun memory host => do
  match ← loadString memory path with
  | .error fault => some (.refusal fault t memory host)
  | .ok path =>
    match ← loadString memory mode with
    | .error fault => some (.refusal fault t memory host)
    | .ok mode =>
      match StreamTable.openFor host.files path mode with
      | .ok (files, file) =>
        let next ← sum t.next.toNat 1
        some { outcome := .ok t.next
               handler := { t.put t.next file with next := UInt64.ofNat next }
               memory, host := { host with files } }
      | .error event => some { outcome := .ok 0, handler := t, memory, host, events := [event] }

def freopen (path mode handle : Word) : Act (StreamTable StoredStream) := fun memory host => do
  match ← loadString memory path with
  | .error fault => some (.refusal fault t memory host)
  | .ok path =>
    match ← loadString memory mode with
    | .error fault => some (.refusal fault t memory host)
    | .ok mode =>
      match t.get? handle with
      | none => some (.idle 0 t memory host)
      | some _ =>
        match StreamTable.openFor host.files path mode with
        | .ok (files, file) =>
          some { outcome := .ok handle, handler := t.put handle file, memory
                 host := { host with files } }
        | .error event =>
          some { outcome := .ok 0, handler := t.close handle, memory, host, events := [event] }

/-- The length of a transfer. A product that is no word is a fault of the guest, too. -/
def transferLength (number size count : Word) : Except Fault Nat :=
  match product size.toNat count.toNat with
  | some length =>
    if length ≤ StreamTable.transferLimit then .ok length
    else .error (.transferTooLarge number (UInt64.ofNat length))
  | none => .error (.transferTooLarge number (UInt64.ofNat 0xffffffffffffffff))

def fread (number address size count handle : Word) : Act (StreamTable StoredStream) :=
  fun memory host =>
    match transferLength number size count, t.get? handle with
    | .error fault, _ => some (.refusal fault t memory host)
    | .ok 0, _ | .ok _, none => some (.idle 0 t memory host)
    | .ok length, some file => do
      demand (length ≤ StreamTable.transferLimit)
      let filled ← fill host.files file length
      demand (filled.data.size ≤ length)
      let items ← quotient filled.data.size size.toNat
      let stored ← product items size.toNat
      demand (stored ≤ filled.data.size)
      let data ← slice filled.data 0 stored
      let result ← word items
      let handler := t.put handle filled.file
      let events := filled.failure.toList.map .readFailed
      match ← store memory address data with
      | .ok memory => some { outcome := .ok result, handler, memory, host, events }
      | .error fault => some { outcome := .error fault, handler, memory, host, events }

def fwrite (number address size count handle : Word) : Act (StreamTable StoredStream) :=
  fun memory host =>
    match transferLength number size count, t.get? handle with
    | .error fault, _ => some (.refusal fault t memory host)
    | .ok 0, _ | .ok _, none => some (.idle 0 t memory host)
    | .ok length, some file => do
      let wanted ← word length
      match ← load memory address wanted with
      | .error fault => some (.refusal fault t memory host)
      | .ok data =>
        let drained ← drain host.files file data
        demand (drained.count ≤ length)
        let items ← quotient drained.count size.toNat
        let result ← word items
        some { outcome := .ok result
               handler := t.put handle drained.file
               memory
               host := { host with files := drained.files }
               events := drained.failure.toList.map .writeFailed }

def fgetc (handle : Word) : Act (StreamTable StoredStream) := fun memory host =>
  match t.get? handle with
  | none => some (.idle StreamTable.failure t memory host)
  | some file => do
    let filled ← fill host.files file 1
    demand (filled.data.size ≤ 1)
    let result ←
      if filled.data.size = 1 then filled.data[0]?.map UInt8.toUInt64
      else some StreamTable.failure
    some { outcome := .ok result
           handler := t.put handle filled.file
           memory
           host
           events := filled.failure.toList.map .readFailed }

def streams? (r : Request) : Option (Act (StreamTable StoredStream)) :=
  match r.service? with
  | some .fopen => some (fopen t (r.arg 0) (r.arg 1))
  | some .freopen => some (freopen t (r.arg 0) (r.arg 1) (r.arg 2))
  | some .fread => some (fread t r.number (r.arg 0) (r.arg 1) (r.arg 2) (r.arg 3))
  | some .feof => some (plain (t.flag (r.arg 0) OpenFile.eof))
  | some .ferror => some (plain (t.flag (r.arg 0) OpenFile.error))
  | some .fgetc => some (fgetc t (r.arg 0))
  | some .fclose => some (plain (t.fclose (r.arg 0)))
  | some .ftell => some (plain (t.ftell (r.arg 0)))
  | some .fseek => some (plain (t.fseek (r.arg 0) (r.arg 1) (r.arg 2)))
  | some .fwrite => some (fwrite t r.number (r.arg 0) (r.arg 1) (r.arg 2) (r.arg 3))
  | _ => none

end Streams

/-! ### Other handlers -/

def deliver (f : InputFeed) (buffer length : Word) : Act InputFeed := fun memory host =>
  match f.content with
  | none => some { outcome := .ok (-1), handler := f, memory, host, events := [.inputMissing] }
  | some content => do
    match ← loadWord memory length with
    | .error fault => some (.refusal fault f memory host)
    | .ok capacity =>
      demand (f.offset ≤ content.size)
      let remaining ← slice content f.offset content.size
      if remaining.size = 0 then
        match ← storeWord memory length 0 with
        | .ok memory => some (.idle 1 f memory host)
        | .error fault => some (.refusal fault f memory host)
      else
        let count := min remaining.size capacity.toNat
        let piece ← slice remaining 0 count
        match ← store memory buffer piece with
        | .error fault => some (.refusal fault f memory host)
        | .ok filled =>
          let told ← word count
          match ← storeWord filled length told with
          | .error fault => some (.refusal fault f filled host)
          | .ok memory =>
            let offset ← sum f.offset count
            demand (offset ≤ content.size)
            let left ← difference content.size offset
            some { outcome := .ok 0, handler := { f with offset }, memory, host
                   events := [.inputDelivered count left] }

def saveFile (path address count : Word) : Act (Handler StoredStream) := fun memory host => do
  match ← loadString memory path with
  | .error fault => some (.refusal fault .saver memory host)
  | .ok path =>
    match ← load memory address count with
    | .error fault => some (.refusal fault .saver memory host)
    | .ok data =>
      let name := Utf8.decode path
      match FileHost.save host.files name data with
      | .ok files =>
        some { outcome := .ok 0, handler := .saver, memory, host := { host with files }
               events := [.fileSaved data.size name] }
      | .error reason =>
        some { outcome := .ok (-1), handler := .saver, memory, host
               events := [.saveFailed name reason] }

def printOut (c : Console) (descriptor address count : Word) : Act Console := fun memory host =>
  if descriptor = 1 ∨ descriptor = 2 then do
    match ← load memory address count with
    | .error fault => some (.refusal fault c memory host)
    | .ok data =>
      let (lines, console) := c.feed data
      some { outcome := .ok count, handler := console, memory, host := host.print lines }
  else some (.idle Console.refused c memory host)

/-- The reaction to a request, if the handler takes it. Handlers that only ask the host for a word,
and those that do not come up in a session, compute nothing. -/
def react? (h : Handler StoredStream) (r : Request) : Option (Act (Handler StoredStream)) :=
  match h with
  | .streams t => (streams? t r).map (·.map .streams)
  | .input f =>
    if r.service? = some .readStream then
      some ((deliver f (r.arg 0) (r.arg 1)).map .input)
    else none
  | .saver =>
    if r.service? = some .fileWrite then some (saveFile (r.arg 0) (r.arg 1) (r.arg 2)) else none
  | .console c =>
    if r.service? = some .write then
      some ((printOut c (r.arg 0) (r.arg 1) (r.arg 2)).map .console)
    else ((Handler.console c).react? r).map plain
  | .entropy | .clock | .stub .. => (h.react? r).map plain

/-- The reaction of the first handler that takes a request; the others stay as they are. -/
def reactAll? (r : Request) :
    List (Handler StoredStream) → Option (Act (List (Handler StoredStream)))
  | [] => none
  | handler :: rest =>
    match react? handler r with
    | some act => some (act.map (· :: rest))
    | none => (reactAll? r rest).map (·.map (handler :: ·))

/-- Services the request in the registers. -/
def service (d : Debugger StoredStream) (machine : Machine) (host : Host FileStore) :
    Option (Serviced FileStore StoredStream) :=
  let request := Request.capture machine.registers
  match reactAll? request d.handlers with
  | none =>
    some { outcome := .error (.unknownCall request.number), machine, debugger := d, host
           events := [.callUnknown request] }
  | some act => do
    let answer ← act machine.memory host
    match answer.outcome with
    | .ok result =>
      let served ← sum d.served 1
      let call := request.answered result
      some { outcome := .ok call
             machine := { registers := machine.registers.set .a0 result, memory := answer.memory }
             debugger := { handlers := answer.handler, served }
             host := answer.host
             events := answer.events ++ [.callServed call] }
    | .error fault =>
      some { outcome := .error fault
             machine := { registers := machine.registers, memory := answer.memory }
             debugger := { handlers := answer.handler, served := d.served }
             host := answer.host
             events := answer.events }

/-! ### No step goes wrong -/

/-- No step of a reaction goes wrong on this host, and it comes to the reaction in whole numbers. -/
def Follows {η : Type} (host : Host FileStore) (act : Act η) (act' : Reaction η FileStore) : Prop :=
  ∀ memory, act memory host = some (act' memory host)

section Follows

variable {t : StreamTable StoredStream} {host : Host FileStore}
variable {number path mode address size count handle : Word}

theorem Follows.map {η θ : Type} {act : Act η} {act' : Reaction η FileStore}
    (h : Follows host act act') (f : η → θ) : Follows host (act.map f) (act'.map f) := by
  intro memory
  rw [Act.map, h memory]
  rfl

theorem Follows.option {η θ : Type} {act? : Option (Act η)} {act?' : Option (Reaction η FileStore)}
    (related : Option.Rel (Follows host) act? act?') (f : η → θ) :
    Option.Rel (Follows host) (act?.map (·.map f)) (act?'.map (·.map f)) := by
  cases related with
  | none => exact .none
  | some follows => exact .some (follows.map f)

theorem follows_plain {η : Type} (act : Reaction η FileStore) : Follows host (plain act) act :=
  fun _ => rfl

/-- The counter goes on to the next handle. -/
theorem follows_fopen (room : t.next.toNat + 1 < 2 ^ 64) :
    Follows host (fopen t path mode) (t.fopen path mode) := by
  intro memory
  have next : UInt64.ofNat (t.next.toNat + 1) = t.next + 1 := by
    rw [UInt64.ofNat_add, UInt64.ofNat_toNat]
    rfl
  unfold fopen StreamTable.fopen
  simp only [loadString_eq, Option.bind_eq_bind, Option.bind_some]
  cases memory.loadString path with
  | error fault => rfl
  | ok name =>
    dsimp only
    cases memory.loadString mode with
    | error fault => rfl
    | ok letters =>
      dsimp only
      cases StreamTable.openFor host.files name letters with
      | error event => rfl
      | ok opened => simp only [sum_of_lt room, next, Option.bind_some]

theorem follows_freopen :
    Follows host (freopen t path mode handle) (t.freopen path mode handle) := by
  intro memory
  unfold freopen StreamTable.freopen
  simp only [loadString_eq, Option.bind_eq_bind, Option.bind_some]
  cases memory.loadString path with
  | error fault => rfl
  | ok name =>
    dsimp only
    cases memory.loadString mode with
    | error fault => rfl
    | ok letters =>
      dsimp only
      cases t.get? handle with
      | none => rfl
      | some old =>
        dsimp only
        cases StreamTable.openFor host.files name letters <;> rfl

theorem transferLength_eq :
    transferLength number size count = StreamTable.transferLength number size count := by
  unfold transferLength StreamTable.transferLength product
  -- A product that is no word is cut off at the largest word, which is beyond the limit as well.
  by_cases fits : size.toNat * count.toNat < 2 ^ 64
  · have whole : min (size.toNat * count.toNat) 0xffffffffffffffff = size.toNat * count.toNat := by
      omega
    dsimp only
    rw [if_pos fits, whole]
  · have most : min (size.toNat * count.toNat) 0xffffffffffffffff = 0xffffffffffffffff := by omega
    have large : ¬ size.toNat * count.toNat ≤ StreamTable.transferLimit := by
      rw [StreamTable.transferLimit]
      omega
    dsimp only
    rw [if_neg fits, most, if_neg large]

/-- A transfer of some bytes is within the limit, and its items have a size. -/
theorem length_of_transfer {length : Nat}
    (h : StreamTable.transferLength number size count = .ok (length + 1)) :
    length + 1 ≤ StreamTable.transferLimit ∧ size.toNat ≠ 0 := by
  unfold StreamTable.transferLength at h
  dsimp only at h
  split at h
  · next small =>
    have same : size.toNat * count.toNat = length + 1 := Except.ok.inj h
    refine ⟨by omega, fun none => ?_⟩
    rw [none, Nat.zero_mul] at same
    cases same
  · cases h

/-- What is stored is no more than was delivered, and that is no more than the buffer holds. -/
theorem follows_fread (addressable : host.files.Addressable)
    (within : ∀ file, t.get? handle = some file → file.stream.position < 2 ^ 64) :
    Follows host (fread t number address size count handle)
      (t.fread number address size count handle) := by
  intro memory
  unfold fread StreamTable.fread
  rw [transferLength_eq]
  cases asked : StreamTable.transferLength number size count with
  | error fault => rfl
  | ok length =>
    cases length with
    | zero => rfl
    | succ rest =>
      obtain ⟨small, some⟩ := length_of_transfer asked
      cases live : t.get? handle with
      | none => rfl
      | some file =>
        have word : rest + 1 < 2 ^ 64 := by
          rw [StreamTable.transferLimit] at small
          omega
        simp only [fill_eq addressable (within file live) word, Option.bind_eq_bind,
          Option.bind_some]
        -- From here on only the number of bytes counts, not where they come from.
        have delivered := OpenFile.size_fill_le host.files file (rest + 1)
        generalize file.fill host.files (rest + 1) = filled at delivered
        have stored := Nat.div_mul_le_self filled.data.size size.toNat
        have items := Nat.div_le_self filled.data.size size.toNat
        have data : (filled.data.extract 0 (filled.data.size / size.toNat * size.toNat)).size <
            2 ^ 64 := by
          rw [ByteArray.size_extract]
          omega
        have product : product (filled.data.size / size.toNat) size.toNat = _ :=
          product_of_lt (by omega)
        have counted : Guarded.word (filled.data.size / size.toNat) = _ := word_of_lt (by omega)
        simp only [demand_of small, demand_of delivered, quotient_of_ne some, product,
          demand_of stored, slice_of_le (Nat.zero_le _) stored, counted, store_eq data,
          Option.bind_some, Bytes.window, Nat.zero_add]
        cases memory.store address _ <;> rfl

theorem follows_fwrite (addressable : host.files.Addressable) :
    Follows host (fwrite t number address size count handle)
      (t.fwrite number address size count handle) := by
  intro memory
  unfold fwrite StreamTable.fwrite
  rw [transferLength_eq]
  cases asked : StreamTable.transferLength number size count with
  | error fault => rfl
  | ok length =>
    cases length with
    | zero => rfl
    | succ rest =>
      obtain ⟨small, some⟩ := length_of_transfer asked
      cases t.get? handle with
      | none => rfl
      | some file =>
        have fits : rest + 1 < 2 ^ 64 := by
          rw [StreamTable.transferLimit] at small
          omega
        simp only [word_of_lt fits, load_eq, Option.bind_eq_bind, Option.bind_some]
        cases loaded : memory.load address (UInt64.ofNat (rest + 1)) with
        | error fault => rfl
        | ok data =>
          -- A load that succeeds has the length that was asked for.
          obtain ⟨inside, rfl⟩ := Memory.load_eq_ok_iff.mp loaded
          rw [UInt64.toNat_ofNat_of_lt' fits, Memory.size] at inside
          rw [UInt64.toNat_ofNat_of_lt' fits]
          generalize window : Bytes.window memory.bytes address.toNat (rest + 1) = data
          have length : data.size = rest + 1 := by
            rw [← window, Bytes.size_window]
            omega
          have taken := OpenFile.count_drain_le host.files file data
          have items := Nat.div_le_self (file.drain host.files data).count size.toNat
          have drained : drain host.files file data = _ :=
            drain_eq addressable.limit (by omega)
          have counted : word ((file.drain host.files data).count / size.toNat) = _ :=
            word_of_lt (by omega)
          have within : (file.drain host.files data).count ≤ rest + 1 := by omega
          simp only [drained, demand_of within, quotient_of_ne some, counted, Option.bind_some]

theorem follows_fgetc (addressable : host.files.Addressable)
    (within : ∀ file, t.get? handle = some file → file.stream.position < 2 ^ 64) :
    Follows host (fgetc t handle) (t.fgetc handle) := by
  intro memory
  unfold fgetc StreamTable.fgetc
  cases live : t.get? handle with
  | none => rfl
  | some file =>
    have delivered := OpenFile.size_fill_le host.files file 1
    simp only [fill_eq addressable (within file live) (by decide : 1 < 2 ^ 64), demand_of delivered,
      Option.bind_eq_bind, Option.bind_some]
    generalize file.fill host.files 1 = filled
    by_cases one : filled.data.size = 1
    · obtain ⟨byte, single⟩ : ∃ byte, filled.data.data.toList = [byte] :=
        List.length_eq_one_iff.mp (by rw [Bytes.length_toList, one])
      have first : filled.data[0]? = some byte := by
        rw [Bytes.getElem?_toList, single]
        rfl
      simp only [if_pos one, first, single, Option.map_some, Option.bind_some]
    · have none : ∀ byte, filled.data.data.toList ≠ [byte] := by
        intro byte single
        rw [← Bytes.length_toList, single] at one
        exact one rfl
      rw [if_neg one]
      split
      · next byte single => exact absurd single (none byte)
      · rfl

/-- A table takes all its steps if positions and the next handle fit in words. -/
theorem rel_streams (addressable : host.files.Addressable) (room : t.next.toNat + 1 < 2 ^ 64)
    (within : ∀ {w file}, t.get? w = some file → file.stream.position < 2 ^ 64) (r : Request) :
    Option.Rel (Follows host) (streams? t r) (t.react? r) := by
  unfold streams? StreamTable.react?
  cases r.service? with
  | none => exact .none
  | some service =>
    cases service with
    | fopen => exact .some (follows_fopen room)
    | freopen => exact .some follows_freopen
    | fread => exact .some (follows_fread addressable fun _ => within)
    | fgetc => exact .some (follows_fgetc addressable fun _ => within)
    | fwrite => exact .some (follows_fwrite addressable)
    | feof | ferror | fclose | ftell | fseek => exact .some (follows_plain _)
    | close | read | write | readStream | timestamp | random | fileWrite => exact .none

/-- A piece of the input begins where the last one has ended, and ends within the input. -/
theorem follows_deliver {f : InputFeed} {buffer length : Word}
    (inside : ∀ {content}, f.content = some content →
      f.offset ≤ content.size ∧ content.size < 2 ^ 64) :
    Follows host (deliver f buffer length) (f.deliver buffer length) := by
  intro memory
  unfold deliver InputFeed.deliver
  cases given : f.content with
  | none => rfl
  | some content =>
    obtain ⟨le, small⟩ := inside given
    simp only [loadWord_eq, Option.bind_eq_bind, Option.bind_some]
    cases memory.loadWord length with
    | error fault => rfl
    | ok capacity =>
      have remaining := slice_of_le le (Nat.le_refl _)
      have left : (content.extract f.offset content.size).size = content.size - f.offset := by
        rw [ByteArray.size_extract, Nat.min_self]
      simp only [demand_of le, remaining, left, Option.bind_some]
      by_cases used_up : content.size ≤ f.offset
      · rw [if_pos (Nat.sub_eq_zero_of_le used_up), if_pos used_up]
        simp only [storeWord_eq, Option.bind_some]
        cases memory.storeWord length 0 <;> rfl
      · rw [if_neg (by omega), if_neg used_up]
        -- The guest may offer as much room as it likes; the piece ends where the input ends.
        generalize counted : min (content.size - f.offset) capacity.toNat = count
        have few : count ≤ content.size - f.offset := by omega
        have piece : slice (content.extract f.offset content.size) 0 count =
            some (Bytes.window content f.offset count) := by
          rw [slice_of_le (Nat.zero_le _) (by rw [left]; exact few), ByteArray.extract_extract,
            Nat.add_zero, Nat.min_eq_left (by omega)]
          rfl
        have size : (Bytes.window content f.offset count).size < 2 ^ 64 := by
          rw [Bytes.size_window]
          omega
        simp only [piece, store_eq size, word_of_lt (by omega : count < 2 ^ 64), Option.bind_some]
        cases memory.store buffer (Bytes.window content f.offset count) with
        | error fault => rfl
        | ok filled =>
          simp only [storeWord_eq, Option.bind_some]
          cases filled.storeWord length (UInt64.ofNat count) with
          | error fault => rfl
          | ok told =>
            have within : f.offset + count ≤ content.size := by omega
            simp only [sum_of_lt (Nat.lt_of_le_of_lt within small), demand_of within,
              difference_of_le within, Option.bind_some]

theorem follows_saveFile :
    Follows host (saveFile path address count) (Handler.saveFile path address count) := by
  intro memory
  unfold saveFile Handler.saveFile
  simp only [loadString_eq, Option.bind_eq_bind, Option.bind_some]
  cases memory.loadString path with
  | error fault => rfl
  | ok name =>
    simp only [load_eq, Option.bind_some]
    cases memory.load address count with
    | error fault => rfl
    | ok data =>
      dsimp only
      cases FileHost.save host.files (Utf8.decode name) data <;> rfl

theorem follows_printOut {c : Console} {descriptor : Word} :
    Follows host (printOut c descriptor address count) (c.write descriptor address count) := by
  intro memory
  unfold printOut Console.write
  split
  · simp only [load_eq, Option.bind_eq_bind, Option.bind_some]
    cases memory.load address count <;> rfl
  · rfl

end Follows

end Guarded

/-! ### Handlers and debugger -/

/-- What the steps of a handler rely on: the positions of streams and the next handle fit in words,
and no more of the input was delivered than there is. -/
def Handler.Sound : Handler StoredStream → Prop
  | streams t => (∀ {w file}, t.get? w = some file → file.stream.position < 2 ^ 64) ∧
      t.next.toNat + 1 < 2 ^ 64
  | input f => ∀ {content}, f.content = some content →
      f.offset ≤ content.size ∧ content.size < 2 ^ 64
  | _ => True

namespace Guarded

variable {host : Host FileStore}

theorem rel_handler {h : Handler StoredStream} (addressable : host.files.Addressable)
    (sound : h.Sound) (r : Request) : Option.Rel (Follows host) (react? h r) (h.react? r) := by
  cases h with
  | streams t =>
    obtain ⟨within, room⟩ := sound
    exact Follows.option (rel_streams addressable room within r) _
  | input f =>
    simp only [react?, Handler.react?, InputFeed.react?]
    by_cases hs : r.service? = some .readStream
    · rw [if_pos hs, hs]
      exact .some ((follows_deliver sound).map _)
    · rw [if_neg hs]
      split
      · contradiction
      · exact .none
  | saver =>
    simp only [react?, Handler.react?]
    split
    · exact .some follows_saveFile
    · exact .none
  | console c =>
    simp only [react?, Handler.react?]
    by_cases hs : r.service? = some .write
    · rw [if_pos hs, Console.react?, hs]
      exact .some (follows_printOut.map _)
    · rw [if_neg hs]
      cases (c.react? (σ := FileStore) r).map _ with
      | none => exact .none
      | some act => exact .some (follows_plain act)
  | entropy | clock | stub =>
    simp only [react?, Handler.react?]
    split
    · exact .some (follows_plain _)
    · exact .none

/-- Handlers on which all can rely take all their steps. -/
theorem rel_handlers {handlers : List (Handler StoredStream)}
    (addressable : host.files.Addressable) (sound : ∀ h ∈ handlers, h.Sound) (r : Request) :
    Option.Rel (Follows host) (reactAll? r handlers) (Debugger.react? r handlers) := by
  induction handlers with
  | nil => exact .none
  | cons first rest ih =>
    have here := rel_handler addressable (sound first List.mem_cons_self) r
    have behind := ih fun h there => sound h (List.mem_cons_of_mem _ there)
    rw [reactAll?, Debugger.react?]
    generalize react? first r = act?, first.react? (σ := FileStore) r = act?' at here
    cases here with
    | some follows => exact .some (follows.map _)
    | none => exact Follows.option behind _

/-- A debugger with sound handlers takes all its steps. -/
theorem service_eq {d : Debugger StoredStream} (addressable : host.files.Addressable)
    (sound : ∀ h ∈ d.handlers, h.Sound) (served : d.served + 1 < 2 ^ 64) (machine : Machine) :
    service d machine host = some (d.service machine host) := by
  have related := rel_handlers addressable sound (Request.capture machine.registers)
  unfold service Debugger.service
  dsimp only
  generalize reactAll? (Request.capture machine.registers) d.handlers = act?,
    Debugger.react? (σ := FileStore) (Request.capture machine.registers) d.handlers = act?'
    at related
  cases related with
  | none => rfl
  | @some act act' follows =>
    simp only [follows machine.memory, Option.bind_eq_bind, Option.bind_some]
    cases (act' machine.memory host).outcome with
    | error fault => rfl
    | ok result => simp only [sum_of_lt served, Option.bind_some]

end Guarded

/-! ### Sessions -/

/-- After so many calls positions are within words, and the counters are not further on than the
number of calls allows. -/
structure Stage.Steady (s : Stage FileStore StoredStream) (calls : Nat) : Prop where
  positioned : s.Positioned
  next : s.debugger.table.next.toNat ≤ calls + 1
  served : s.debugger.served ≤ calls

namespace Turn

variable {x : Turn FileStore StoredStream} {t : StreamTable StoredStream} {f : InputFeed}
variable {c : Console} {calls : Nat}

/-- A call is counted once or not at all. -/
theorem served_after_le {σ ς : Type} [FileHost σ ς] (x : Turn σ ς) :
    x.after.debugger.served ≤ x.debugger.served + 1 := by
  rw [served_after]
  split
  · exact Nat.le_refl _
  · exact Nat.le_succ _

/-- A call hands out one handle at most. -/
theorem next_after (h : x.debugger.handlers = panel t f c) :
    x.after.debugger.table.next.toNat ≤ x.debugger.table.next.toNat + 1 := by
  obtain ⟨t', rest', after, step⟩ := exists_tableStep (x := x) h
  have handed : x.opened?.toList.length ≤ 1 := by
    cases x.opened? with
    | none => exact Nat.zero_le _
    | some handle => exact Nat.le_refl 1
  rw [Debugger.table_eq after, Debugger.table_eq h, step.next_eq, UInt64.toNat_add]
  have word : (UInt64.ofNat x.opened?.toList.length).toNat = x.opened?.toList.length :=
    UInt64.toNat_ofNat_of_lt' (by rw [UInt64.size]; omega)
  omega

/-- One more call keeps a session as it is relied on. -/
theorem steady_after (h : x.debugger.handlers = panel t f c) (steady : x.toStage.Steady calls) :
    x.after.Steady (calls + 1) where
  positioned := positioned_after h steady.positioned
  next := Nat.le_trans (next_after h) (Nat.succ_le_succ steady.next)
  served := Nat.le_trans x.served_after_le (Nat.succ_le_succ steady.served)

end Turn

namespace Transcript

variable {content : Option ByteArray} {host : Host FileStore}
variable {turns : List (Turn FileStore StoredStream)} {s : Stage FileStore StoredStream}
variable {t : StreamTable StoredStream} {f : InputFeed} {c : Console}

theorem steady (run : Transcript (.initial content host) turns s)
    (addressable : host.files.Addressable) :
    (∃ t f c, s.debugger.handlers = panel t f c) ∧ s.Steady turns.length := by
  induction run with
  | nil =>
    exact ⟨⟨{}, { content }, {}, rfl⟩, ⟨addressable, fun live => by cases live⟩, Nat.le_refl 1,
      Nat.le_refl 0⟩
  | @snoc turns s run machine ih =>
    obtain ⟨⟨t, f, c, h⟩, steady⟩ := ih
    rw [List.length_append]
    exact ⟨Turn.exists_panel_after (x := ⟨s, machine⟩) h,
      Turn.steady_after (x := ⟨s, machine⟩) h steady⟩

/-- The input feed of a session stands within its input. -/
theorem feed_inside (run : Transcript (.initial content host) turns s)
    (h : s.debugger.handlers = panel t f c) {bytes : ByteArray} (given : f.content = some bytes) :
    content = some bytes ∧ f.offset ≤ bytes.size := by
  have server : s.debugger.server? .readStream = some (.input f) := by
    rw [Debugger.server?, h]
    rfl
  cases content with
  | none =>
    rw [run.server?_of_inputMissing rfl] at server
    cases server
    cases given
  | some content =>
    obtain ⟨le, server'⟩ := run.server?_of_input rfl
    rw [server'] at server
    cases server
    cases given
    exact ⟨rfl, le⟩

/-- No call of a session goes wrong. Let the limit, the lengths of the files and the length of the
input be words, and let there be fewer calls than words. Then every call takes all its steps, by any
machine at any stage: no sum leaves the words, no difference is negative, nothing is divided by
zero, no index lies outside, and what servicing the call leaves behind is what comes of these
steps. -/
theorem never_stops (run : Transcript (.initial content host) turns s)
    (addressable : host.files.Addressable)
    (input : ∀ bytes, content = some bytes → bytes.size < 2 ^ 64)
    (few : turns.length < 2 ^ 64 - 1) {x : Turn FileStore StoredStream} (there : x ∈ turns) :
    Guarded.service x.debugger x.machine x.host = some x.serviced := by
  obtain ⟨before, after, rfl⟩ := List.append_of_mem there
  obtain ⟨s₁, first, rest⟩ := append_iff.mp run
  obtain rfl := rest.toStage_eq
  obtain ⟨⟨t, f, c, h⟩, steady⟩ := first.steady addressable
  -- The next handle is ahead of the calls by one, and the call may hand out one more.
  have earlier : before.length + 2 < 2 ^ 64 := by
    rw [List.length_append, List.length_cons] at few
    omega
  have served := steady.served
  have next := steady.next
  rw [Debugger.table_eq h] at next
  refine Guarded.service_eq steady.positioned.files ?_ (by omega) x.machine
  intro handler among
  rw [h] at among
  simp only [panel, List.mem_cons, List.not_mem_nil, or_false] at among
  rcases among with rfl | rfl | rfl | rfl | rfl | rfl
  · refine ⟨fun live => ?_, by omega⟩
    rw [← Debugger.table_eq h] at live
    exact steady.positioned.position live
  · intro bytes given
    obtain ⟨same, le⟩ := first.feed_inside h given
    exact ⟨le, input bytes same⟩
  · trivial
  · trivial
  · trivial
  · trivial

end Transcript

/-! ### A write in the middle of the words

The stream stands as far from the start as a signed offset leads, and one byte further. The guest
asks for a byte to be written there, which is far beyond the limit. -/

namespace FarOut

def writing : Turn FileStore StoredStream := ⟨moving.after, .asking .fwrite [0, 1, 1, 1] memory⟩

theorem run_writing :
    Transcript opening.toStage [opening, seeking, moving, writing] writing.after :=
  run.snoc _

theorem outcome_writing : writing.serviced.outcome = .ok (writing.request.answered 0) := by
  decide +kernel

end FarOut

/-- The distance to the limit is not even computed: nothing is written, and nothing goes wrong. -/
theorem Transcript.never_stops_farOut :
    ∃ left, Guarded.service FarOut.writing.debugger FarOut.writing.machine FarOut.writing.host =
        some left ∧ left.outcome = .ok (FarOut.writing.request.answered 0) := by
  have given : ∀ bytes, (none : Option ByteArray) = some bytes → bytes.size < 2 ^ 64 :=
    fun _ none => by cases none
  exact ⟨_, FarOut.run_writing.never_stops FarOut.addressable given (by decide) (by simp),
    FarOut.outcome_writing⟩

end Semihosting
