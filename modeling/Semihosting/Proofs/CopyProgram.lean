import Semihosting.Proofs.GuestHeap
import Semihosting.Proofs.Relay
import Semihosting.Proofs.StreamCalls

/-!
# The copy program

The copy program moves data through a buffer in guest memory, by calls on two handles. What it does
is what the two streams do when data is moved from one to the other directly: the buffer hands on
every chunk unchanged, and the bound on the rounds is never reached.

## Main definitions

* `Relay.Ending.complaint?` — what the program prints about the way a copy ends
* `Guest.Follows` — the rounds of the program do what the rounds of the two streams do
* `Guest.copyBuffer` — where the buffer lies, which says how much memory the program needs
* `Guest.Conversation` — what a copy says to the two streams that it opens

## Main results

* `Guest.Has.copyChunks` — the rounds of the program follow the rounds of the two streams
* `Guest.Has.copyFile` — the program from its start to its end, if both files are opened
* `Guest.Has.copyFile_of_denied` — the program if there is nothing to copy
-/

namespace Semihosting

open Program (chunk)

namespace Relay.Ending

/-- What the program prints when a copy ends this way. -/
def complaint? (source target : String) : Ending → Option String
  | finished => none
  | readFailed => some ("copy: error reading " ++ source ++ "\n")
  | writeFailed => some ("copy: error writing " ++ target ++ "\n")

/-- How many calls the rounds of a copy take. -/
def calls (chunks : Nat) : Ending → Nat
  | writeFailed => 2 * chunks
  | _ => 2 * chunks + 2

end Relay.Ending

namespace Guest

variable {σ ς : Type}

/-- The view after a text was printed, if there is one. -/
def View.told (v : View σ ς) : Option String → View σ ς
  | none => v
  | some text =>
    { v with
      console := (v.console.feed text.toUTF8).2
      host := v.host.print (v.console.feed text.toUTF8).1, served := v.served + 1 }

@[simp] theorem View.table_told (v : View σ ς) (text? : Option String) :
    (v.told text?).table = v.table := by
  cases text? <;> rfl

@[simp] theorem View.files_told (v : View σ ς) (text? : Option String) :
    (v.told text?).host.files = v.host.files := by
  cases text? <;> rfl

/-- A call more can be counted before or behind what was printed. -/
theorem View.told_close (v : View σ ς) (text? : Option String) (t : StreamTable ς) :
    { v.told text? with table := t, served := (v.told text?).served + 1 } =
      View.told { v with table := t, served := v.served + 1 } text? := by
  cases text? <;> rfl

/-- The bytes of a text, if there is one. -/
def spoken : Option String → List UInt8
  | none => []
  | some text => text.toUTF8.data.toList

variable [FileHost σ ς] {g : Guest σ ς} {v : View σ ς} {source target : String}

/-- Closing a stream is the same before and behind something that was printed. -/
theorem Has.fclose_told {handle : Word} {file : OpenFile ς} {text? : Option String}
    (has : g.Has (v.told text?)) (live : v.table.get? handle = some file) :
    ∃ g' x, Performs (call .fclose [handle]) g [x]
        (.ok (if (FileHost.flush v.host.files file.stream).1.isOk then 0
          else StreamTable.failure)) g' ∧
      x.Says handle [.flush (FileHost.flush v.host.files file.stream).1] ∧ x.stdout = [] ∧
      g'.Has
        (View.told { v with table := v.table.close handle, served := v.served + 1 } text?) := by
  have closed := has.fclose (show (v.told text?).table.get? handle = some file by
    rw [View.table_told]; exact live)
  rw [View.files_told, View.told_close, View.table_told] at closed
  exact closed

/-! ### Rounds -/

section Rounds

variable {buffer input output : Word} {r r' : Relay σ ς} {chunks : List ByteArray}
variable {log : List Exchange} {ending : Relay.Ending}

/-- Writing to the console says nothing to a stream. -/
theorem exchanges_of_write {x : Turn σ ς} (h : x.service? = some .write) : x.exchanges = [] := by
  simp [Turn.exchanges, h]

/-- What the stream under a handle is asked, in a copy from one handle to another: all reads if it
is the input, all writes if it is the output. -/
def share (input output : Word) (log : List Exchange) (handle : Word) : List Exchange :=
  if handle = input then log.filter Exchange.isRead
  else if handle = output then log.filter Exchange.isWrite else []

omit [FileHost σ ς] in
theorem share_append (log log' : List Exchange) (handle : Word) :
    share input output (log ++ log') handle =
      share input output log handle ++ share input output log' handle := by
  unfold share
  split_ifs <;> simp

theorem share_readLog (handle : Word) :
    share input output r.readLog handle = if handle = input then r.readLog else [] := by
  simp [share]

theorem share_writeLog (apart : input ≠ output) (handle : Word) :
    share input output r.writeLog handle = if handle = output then r.writeLog else [] := by
  unfold share
  rw [Relay.filter_isRead_writeLog, Relay.filter_isWrite_writeLog]
  by_cases first : handle = input
  · rw [if_pos first, if_neg (by rw [first]; exact apart)]
  · rw [if_neg first]

/-- In the end each of the two streams is asked one thing more. -/
theorem share_closed (apart : input ≠ output) (last last' : Exchange) (handle : Word) :
    share input output log handle ++ ((if handle = input then [last] else []) ++
        if handle = output then [last'] else []) =
      if handle = input then log.filter Exchange.isRead ++ [last]
      else if handle = output then log.filter Exchange.isWrite ++ [last'] else [] := by
  unfold share
  by_cases first : handle = input
  · rw [if_pos first, if_pos first, if_pos first, if_neg (by rw [first]; exact apart),
      List.append_nil]
  · rw [if_neg first, if_neg first, if_neg first, List.nil_append]
    split_ifs <;> rfl

/-- The guest has the two streams under two handles, a buffer, and room for a message. -/
structure Copies (v : View σ ς) (r : Relay σ ς) (buffer input output : Word)
    (source target : String) : Prop where
  files : v.host.files = r.files
  input_live : v.table.get? input = some r.input
  output_live : v.table.get? output = some r.output
  apart : input ≠ output
  held : v.memory.Holds buffer chunk.toNat
  room : v.heap + 21 + max source.toUTF8.size target.toUTF8.size ≤ v.memory.size

/-- A message fits into the room that is kept for it. -/
theorem size_message (front name : String) :
    (front ++ name ++ "\n").toUTF8.size = front.toUTF8.size + name.toUTF8.size + 1 := by
  simp only [String.toUTF8_eq_toByteArray, String.size_toByteArray, String.utf8ByteSize_append]
  rfl

/-- A chunk is read into the buffer. -/
theorem Has.readChunk (has : g.Has v) (copies : Copies v r buffer input output source target) :
    ∃ g' x m, Performs (call .fread [buffer, 1, chunk, input]) g [x]
        (.ok (UInt64.ofNat r.filled.data.size)) g' ∧
      x.Says input r.readLog ∧ x.stdout = [] ∧ v.memory.store buffer r.filled.data = .ok m ∧
      g'.Has { v with
        memory := m, table := v.table.put input r.filled.file, served := v.served + 1 } := by
  have read := has.fread copies.input_live (by decide) (by decide) copies.held
  rw [copies.files] at read
  exact read

/-- A chunk is written from the buffer. -/
theorem Copies.writeChunk (copies : Copies v r buffer input output source target) {m : Memory}
    (some : r.filled.data.size ≠ 0) (stored : v.memory.store buffer r.filled.data = .ok m)
    (read : g.Has { v with
      memory := m, table := v.table.put input r.filled.file, served := v.served + 1 }) :
    ∃ g' x, Performs (call .fwrite [buffer, 1, UInt64.ofNat r.filled.data.size, output]) g [x]
        (.ok (UInt64.ofNat r.drained.count)) g' ∧
      x.Says output r.writeLog ∧ x.stdout = [] ∧
      g'.Has { v with
        memory := m, table := (v.table.put input r.filled.file).put output r.drained.file
        host := { v.host with files := r.drained.files }, served := v.served + 1 + 1 } := by
  have live : (v.table.put input r.filled.file).get? output = Option.some r.output := by
    rw [StreamTable.get?_put, if_neg copies.apart.symm]
    exact copies.output_live
  have le : r.filled.data.size ≤ chunk.toNat := OpenFile.size_fill_le ..
  have limit : chunk.toNat ≤ StreamTable.transferLimit := by decide
  have written := read.fwrite live (by omega) (by omega) (Memory.load_of_store stored)
  dsimp only at written
  rw [copies.files] at written
  exact written

theorem le_chunk (r : Relay σ ς) : r.filled.data.size ≤ 4096 := OpenFile.size_fill_le ..

/-- The counts of a round are small, so they are the same words only if they are equal. -/
theorem ofNat_eq_iff {a b : Nat} (ha : a ≤ 4096) (hb : b ≤ 4096) :
    UInt64.ofNat a = UInt64.ofNat b ↔ a = b := by
  have small {n : Nat} (h : n ≤ 4096) : (UInt64.ofNat n).toNat = n :=
    UInt64.toNat_ofNat_of_lt' (Nat.lt_of_le_of_lt h (by decide))
  rw [← UInt64.toNat_inj, small ha, small hb]

/-- A text of a message is printed, and says nothing to a stream. -/
theorem Has.complain (has : g.Has v) (front name : String) (short : front.toUTF8.size ≤ 20)
    (room : v.heap + 21 + name.toUTF8.size ≤ v.memory.size) :
    ∃ g' x m, Performs (discard (Guest.print (front ++ name ++ "\n"))) g [x] (.ok PUnit.unit) g' ∧
      x.exchanges = [] ∧ x.stdout = spoken (front ++ name ++ "\n") ∧
      g'.Has (View.told { v with memory := m } (front ++ name ++ "\n")) := by
  obtain ⟨g', x, m, printed, written, said, -, has'⟩ := has.print (front ++ name ++ "\n")
    (by rw [size_message]; omega)
  exact ⟨g', x, m, printed.discard, exchanges_of_write written, said, has'⟩

/-- The rounds of the program, from a guest that has a view, do what the rounds of the two streams
do, and the program says what there is to say about their end. If more rounds are allowed than there
are chunks, the number that is allowed makes no difference. -/
def Follows (g : Guest σ ς) (v : View σ ς) (buffer input output : Word) (source target : String)
    (chunks : List ByteArray) (log : List Exchange) (ending : Relay.Ending) (r' : Relay σ ς) :
    Prop :=
  ∃ turns g' m t,
    (∀ rounds, chunks.length < rounds →
      Performs (Program.copyChunks source target buffer input output rounds) g turns
        (.ok (if ending = .finished then 0 else 1)) g') ∧
    (∀ w, turns.flatMap (·.exchangesOn w) = share input output log w) ∧
    turns.flatMap Turn.stdout = spoken (ending.complaint? source target) ∧
    g'.Has (View.told
      { v with
        memory := m, table := t, host := { v.host with files := r'.files }
        served := v.served + ending.calls chunks.length } (ending.complaint? source target)) ∧
    t.get? input = some r'.input ∧ t.get? output = some r'.output

/-- The last round, if nothing was read: the flag tells the end of the file from an error. -/
theorem Has.copyChunks_of_dry (has : g.Has v)
    (copies : Copies v r buffer input output source target) (none : r.filled.data.size = 0) :
    Follows g v buffer input output source target [] r.readLog
      (if r.filled.file.error then .readFailed else .finished)
      { r with input := r.filled.file } := by
  obtain ⟨g₁, x₁, m, read, said, still, stored, has₁⟩ := has.readChunk copies
  rw [none] at read
  have live : (v.table.put input r.filled.file).get? input = some r.filled.file := by
    rw [StreamTable.get?_put, if_pos rfl]
  have other : (v.table.put input r.filled.file).get? output = some r.output := by
    rw [StreamTable.get?_put, if_neg copies.apart.symm]
    exact copies.output_live
  obtain ⟨g₂, x₂, asked, silent, still', has₂⟩ := has₁.ferror live
  rw [Follows, ← copies.files]
  cases error : r.filled.file.error with
  | false =>
    rw [error] at asked
    refine ⟨[x₁] ++ ([x₂] ++ []), g₂, m, _, fun rounds enough => ?_, fun w => ?_,
      by simp [still, still', spoken, Relay.Ending.complaint?], has₂, live, other⟩
    · obtain ⟨rounds, rfl⟩ : ∃ k, rounds = k + 1 := ⟨rounds - 1, by omega⟩
      exact read.bind (asked.bind (.pure 0 g₂))
    · simp [said.exchangesOn, Turn.exchangesOn_of_silent silent, share_readLog]
  | true =>
    rw [error] at asked
    obtain ⟨g₃, x₃, m', printed, quiet, heard, has₃⟩ :=
      has₂.complain "copy: error reading " source (by decide) (by
        have room := copies.room
        dsimp only
        rw [Memory.size_of_store stored]
        omega)
    refine ⟨[x₁] ++ ([x₂] ++ ([x₃] ++ [])), g₃, m', _, fun rounds enough => ?_, fun w => ?_,
      by simp [still, still', heard, Relay.Ending.complaint?], has₃, live, other⟩
    · obtain ⟨rounds, rfl⟩ : ∃ k, rounds = k + 1 := ⟨rounds - 1, by omega⟩
      exact read.bind (asked.bind (printed.bind (.pure 1 g₃)))
    · simp [said.exchangesOn, Turn.exchangesOn_of_silent silent, Turn.exchangesOn_of_silent quiet,
        share_readLog]

/-- What was read is there to be written. -/
theorem ofNat_size_filled_ne_zero (some : r.filled.data.size ≠ 0) :
    ¬ UInt64.ofNat r.filled.data.size = 0 := fun zero =>
  some ((ofNat_eq_iff (le_chunk r) (Nat.zero_le _)).mp zero)

/-- The last round, if not everything was written. -/
theorem Has.copyChunks_of_jammed (has : g.Has v)
    (copies : Copies v r buffer input output source target) (some : r.filled.data.size ≠ 0)
    (part : r.drained.count ≠ r.filled.data.size) :
    Follows g v buffer input output source target [r.filled.data]
      (r.readLog ++ r.writeLog) .writeFailed r.next := by
  obtain ⟨g₁, x₁, m, read, said, still, stored, has₁⟩ := has.readChunk copies
  obtain ⟨g₂, x₂, wrote, told, still', has₂⟩ := copies.writeChunk some stored has₁
  obtain ⟨g₃, x₃, m', printed, quiet, heard, has₃⟩ :=
    has₂.complain "copy: error writing " target (by decide) (by
      have room := copies.room
      dsimp only
      rw [Memory.size_of_store stored]
      omega)
  have short : UInt64.ofNat r.drained.count ≠ UInt64.ofNat r.filled.data.size := fun same =>
    part ((ofNat_eq_iff (Nat.le_trans (OpenFile.count_drain_le ..) (le_chunk r))
      (le_chunk r)).mp same)
  refine ⟨[x₁] ++ ([x₂] ++ ([x₃] ++ [])), g₃, m', _, fun rounds enough => ?_, fun w => ?_,
    by simp [still, still', heard, Relay.Ending.complaint?], has₃, ?_, ?_⟩
  · obtain ⟨rounds, rfl⟩ : ∃ k, rounds = k + 1 := ⟨rounds - 1, by omega⟩
    refine read.bind ?_
    rw [if_neg (ofNat_size_filled_ne_zero some)]
    refine wrote.bind ?_
    rw [if_pos short]
    exact printed.bind (.pure 1 g₃)
  · simp [said.exchangesOn, told.exchangesOn, Turn.exchangesOn_of_silent quiet, share_append,
      share_readLog, share_writeLog copies.apart]
  · rw [StreamTable.get?_put, if_neg copies.apart, StreamTable.get?_put, if_pos rfl]
    rfl
  · rw [StreamTable.get?_put, if_pos rfl]
    rfl

/-- After a round the streams have moved on, and all else is as before. -/
theorem Copies.next (copies : Copies v r buffer input output source target) {m : Memory}
    (size : m.size = v.memory.size) (served : Nat) :
    Copies { v with
      memory := m, table := (v.table.put input r.filled.file).put output r.drained.file
      host := { v.host with files := r.drained.files }, served } r.next buffer input output source
      target where
  files := rfl
  input_live := by
    rw [StreamTable.get?_put, if_neg copies.apart, StreamTable.get?_put, if_pos rfl]
    rfl
  output_live := by
    rw [StreamTable.get?_put, if_pos rfl]
    rfl
  apart := copies.apart
  held := by
    rw [Memory.Holds, size]
    exact copies.held
  room := by
    rw [size]
    exact copies.room

/-- The rounds of the program follow the rounds of the two streams. -/
theorem Has.copyChunks (runs : r.Runs chunks log ending r') (has : g.Has v)
    (copies : Copies v r buffer input output source target) :
    Follows g v buffer input output source target chunks log ending r' := by
  induction runs generalizing g v with
  | dry none => exact has.copyChunks_of_dry copies none
  | jammed some part => exact has.copyChunks_of_jammed copies some part
  | @moved r r' chunks log ending some whole rest ih =>
    obtain ⟨g₁, x₁, m, read, said, still, stored, has₁⟩ := has.readChunk copies
    obtain ⟨g₂, x₂, wrote, told, still', has₂⟩ := copies.writeChunk some stored has₁
    obtain ⟨turns, g', m', t, performs, more, heard, has', input_live, output_live⟩ :=
      ih has₂ (copies.next (Memory.size_of_store stored) _)
    refine ⟨[x₁] ++ ([x₂] ++ turns), g', m', t, fun rounds enough => ?_, fun w => ?_,
      by simp [still, still', heard], ?_, input_live, output_live⟩
    · rw [List.length_cons] at enough
      obtain ⟨rounds, rfl⟩ : ∃ k, rounds = k + 1 := ⟨rounds - 1, by omega⟩
      refine read.bind ?_
      rw [if_neg (ofNat_size_filled_ne_zero some)]
      refine wrote.bind ?_
      rw [whole, if_neg fun other => other rfl]
      exact performs rounds (by omega)
    · simp [said.exchangesOn, told.exchangesOn, more w, share_append, share_readLog,
        share_writeLog copies.apart]
    · have calls : v.served + 1 + 1 + ending.calls chunks.length =
          v.served + ending.calls (r.filled.data :: chunks).length := by
        cases ending <;> simp only [Relay.Ending.calls, List.length_cons] <;> omega
      rw [← calls]
      exact has'

/-- If more rounds are allowed than there are chunks, their number makes no difference. -/
theorem Has.copyChunks_eq (runs : r.Runs chunks log ending r') (has : g.Has v)
    (copies : Copies v r buffer input output source target) {rounds rounds' : Nat}
    (enough : chunks.length < rounds) (enough' : chunks.length < rounds') :
    Program.copyChunks source target buffer input output rounds g =
      Program.copyChunks source target buffer input output rounds' g := by
  obtain ⟨turns, g', m, t, performs, -⟩ := has.copyChunks runs copies
  rw [(performs rounds enough).eq, (performs rounds' enough').eq]

end Rounds

/-! ### The whole program -/

/-- The buffer lies behind the strings that the program puts on the heap. -/
def copyBuffer (heap : Nat) (source target : String) : Nat :=
  roundUp (heap + source.toUTF8.size + target.toUTF8.size + 8) 8

/-- The strings and the buffer of the program, as it finds them when it begins to make calls. -/
structure Prepared (v : View σ ς) (source target : String)
    (sourcePath targetPath readMode writeMode buffer : Word) : Prop where
  source_named : v.memory.HoldsString sourcePath (spelled source).toUTF8
  target_named : v.memory.HoldsString targetPath (spelled target).toUTF8
  read_asked : v.memory.HoldsString readMode "rb".toUTF8
  write_asked : v.memory.HoldsString writeMode "wb".toUTF8
  held : v.memory.Holds buffer chunk.toNat
  room : v.heap + 21 + max source.toUTF8.size target.toUTF8.size ≤ v.memory.size

/-- The program puts its strings and its buffer on the heap before it makes a call. -/
theorem Has.prepare (has : g.Has v) (source target : String)
    (room : copyBuffer v.heap source target + chunk.toNat + 21 +
      max source.toUTF8.size target.toUTF8.size ≤ v.memory.size) :
    ∃ sourcePath targetPath readMode writeMode buffer g' m h,
      (∀ {β : Type} {next : Word → Word → Word → Word → Word → Action σ ς β}
        {turns : List (Turn σ ς)} {outcome : Except Fault β} {g'' : Guest σ ς},
        Performs (next sourcePath targetPath readMode writeMode buffer) g' turns outcome g'' →
        Performs (do
          let sourcePath ← Guest.allocateString source
          let targetPath ← Guest.allocateString target
          let readMode ← Guest.allocateString "rb"
          let writeMode ← Guest.allocateString "wb"
          let buffer ← Guest.allocate chunk 8
          next sourcePath targetPath readMode writeMode buffer) g turns outcome g'') ∧
      Prepared { v with memory := m, heap := h } source target sourcePath targetPath readMode
        writeMode buffer ∧
      g'.Has { v with memory := m, heap := h } := by
  have rb : "rb".toUTF8.size = 2 := by decide
  have wb : "wb".toUTF8.size = 2 := by decide
  have chunk_eq : chunk.toNat = 4096 := rfl
  have up : v.heap + source.toUTF8.size + target.toUTF8.size + 8 ≤
      copyBuffer v.heap source target := by
    rw [copyBuffer, roundUp]
    omega
  obtain ⟨g₁, m₁, first, named, above₁, has₁⟩ := has.allocateString source (by omega)
  have size₁ := above₁.size_eq
  obtain ⟨g₂, m₂, second, named', above₂, has₂⟩ := has₁.allocateString target
    (by dsimp only; omega)
  have size₂ := above₂.size_eq
  obtain ⟨g₃, m₃, third, asked, above₃, has₃⟩ := has₂.allocateString "rb"
    (by dsimp only at size₂ ⊢; omega)
  have size₃ := above₃.size_eq
  obtain ⟨g₄, m₄, fourth, asked', above₄, has₄⟩ := has₃.allocateString "wb"
    (by dsimp only at size₂ size₃ ⊢; omega)
  have size₄ := above₄.size_eq
  dsimp only at second third fourth named' asked asked' above₂ above₃ above₄ size₂ size₃ size₄ has₄
  rw [rb, wb] at has₄
  rw [rb] at fourth asked' above₄
  have heap : v.heap + source.toUTF8.size + 1 + target.toUTF8.size + 1 + 2 + 1 + 2 + 1 =
      v.heap + source.toUTF8.size + target.toUTF8.size + 8 := by omega
  rw [heap] at has₄
  have buffer : roundUp (v.heap + source.toUTF8.size + target.toUTF8.size + 8) (8 : Word).toNat =
      copyBuffer v.heap source target := rfl
  obtain ⟨g₅, fifth, has₅⟩ := has₄.allocate chunk 8 (by
    dsimp only
    rw [buffer]
    omega)
  dsimp only at fifth has₅
  rw [buffer] at fifth has₅
  -- Every string stays below what is handed out behind it.
  have place {n : Nat} (h : n ≤ m₄.size) : (UInt64.ofNat n).toNat = n := toNat_ofNat_of_le_size h
  have short := size_spelled_le source
  have short' := size_spelled_le target
  rw [spelled_eq (by decide)] at asked asked'
  refine ⟨_, _, _, _, _, g₅, m₄, _,
    fun rest => first.bind (second.bind (third.bind (fourth.bind (fifth.bind rest)))), ?_, has₅⟩
  refine ⟨?_, ?_, ?_, asked', ?_, ?_⟩
  · refine ((named.of_agreesOn above₂ ?_).of_agreesOn above₃ ?_).of_agreesOn above₄ ?_ <;>
      rw [place (by omega)] <;> omega
  · refine (named'.of_agreesOn above₃ ?_).of_agreesOn above₄ ?_ <;> rw [place (by omega)] <;> omega
  · refine asked.of_agreesOn above₄ ?_
    rw [place (by omega)]
    omega
  · rw [Memory.Holds, place (by omega)]
    dsimp only
    omega
  · dsimp only
    omega

section Opened

variable {files₁ files₂ : σ} {input output : ς} {r' : Relay σ ς} {chunks : List ByteArray}
variable {log : List Exchange} {ending : Relay.Ending}

/-- What a copy says to the two streams that it opens, the first one to read from it and the second
one to write to it: the reads and the writes, and the flushes when they are closed. It says nothing
to any other stream. Unless a write fails it reads until there is nothing more, or a read fails. -/
structure Conversation (turns : List (Turn σ ς)) (source target : String) (input output : Word)
    (reads writes : List Exchange) (flushed : Except IoError Unit) : Prop where
  apart : input ≠ output
  opens : ∃ x y rest, turns = x :: y :: rest ∧
    x.OpensFile source "rb" input ∧ y.OpensFile target "wb" output
  said : ∃ flushed', ∀ w, turns.flatMap (·.exchangesOn w) =
    if w = input then reads ++ [.flush flushed']
    else if w = output then writes ++ [.flush flushed] else []
  reads_only : reads.all Exchange.isRead
  writes_only : writes.all Exchange.isWrite
  complete : writes.any Exchange.writeFails ∨
    ∃ front last, reads = front ++ [last] ∧ last.readEnds

/-- If both files are opened, the program does what the two streams do when data is moved from one
to the other, and closes them. It succeeds if the copy ends well and the output can be flushed. -/
theorem Has.copyFile (has : g.Has v) (unused : v.table.Unused)
    (room : copyBuffer v.heap source target + chunk.toNat + 21 +
      max source.toUTF8.size target.toUTF8.size ≤ v.memory.size)
    (opened : FileHost.openFile v.host.files (spelled source) { purpose := .read } =
      .ok (files₁, input))
    (opened' : FileHost.openFile files₁ (spelled target) { purpose := .write } =
      .ok (files₂, output))
    (runs : Relay.Runs ⟨files₂, { stream := input }, { stream := output }⟩ chunks log ending r')
    (enough : chunks.length ≤ FileHost.volume files₂) :
    ∃ turns g' m h t, Performs (Program.copyFile source target) g turns
        (.ok (if ending = .finished ∧ (FileHost.flush r'.files r'.output.stream).1.isOk then 0
          else 1)) g' ∧
      Conversation turns (spelled source) (spelled target) v.table.next (v.table.next + 1)
        (log.filter Exchange.isRead) (log.filter Exchange.isWrite)
        (FileHost.flush r'.files r'.output.stream).1 ∧
      turns.flatMap Turn.stdout = spoken (ending.complaint? source target) ∧
      g'.Has (View.told
        { v with
          memory := m, heap := h, table := t, host := { v.host with files := r'.files }
          served := v.served + ending.calls chunks.length + 4 }
        (ending.complaint? source target)) := by
  obtain ⟨sourcePath, targetPath, readMode, writeMode, buffer, g₀, m₀, h, begun, prepared, has₀⟩ :=
    has.prepare source target room
  obtain ⟨g₁, x₁, first, opens, silent₁, still₁, has₁⟩ := has₀.fopen_of_ok prepared.source_named
    prepared.read_asked (by decide) opened
  obtain ⟨g₂, x₂, second, opens', silent₂, still₂, has₂⟩ := has₁.fopen_of_ok prepared.target_named
    prepared.write_asked (by decide) opened'
  dsimp only [StreamTable.next_add] at first second opens opens' has₂
  have apart : v.table.next ≠ v.table.next + 1 := by
    intro same
    exact absurd (add_eq_left.mp same.symm) (by decide)
  have volume : g₂.supply = FileHost.volume files₂ + g₂.debugger.supply := by
    rw [supply, has₂.host]
  -- The two streams are under the next two handles.
  obtain ⟨turns, g₃, m, t, rounds, said, heard, has₃, input_live, output_live⟩ :=
    has₂.copyChunks runs
      (show Copies _ _ buffer v.table.next (v.table.next + 1) source target from
        { files := rfl
          input_live := by simp [apart]
          output_live := by simp
          apart
          held := prepared.held
          room := prepared.room })
  obtain ⟨g₄, x₃, third, flushed, still₃, has₄⟩ := has₃.fclose_told input_live
  have live : (t.close v.table.next).get? (v.table.next + 1) = some r'.output := by
    rw [StreamTable.get?_close, if_neg apart.symm]
    exact output_live
  obtain ⟨g₅, x₄, fourth, flushed', still₄, has₅⟩ := has₄.fclose_told live
  refine ⟨[x₁] ++ ([x₂] ++ ([] ++ (turns ++ ([x₃] ++ ([x₄] ++ []))))), g₅, m, h,
    (t.close v.table.next).close (v.table.next + 1), ?_, ?_, ?_, ?_⟩
  · refine begun (first.bind ?_)
    rw [if_neg unused.nonzero]
    refine second.bind ?_
    rw [if_neg unused.nonzero']
    refine Performs.bind (.silent rfl rfl)
      ((rounds _ (show chunks.length < g₂.supply + 1 by omega)).bind
        (third.discard.bind (fourth.bind ?_)))
    cases (FileHost.flush r'.files r'.output.stream).1 with
    | ok => cases ending <;> exact .pure _ g₅
    | error => cases ending <;> exact .pure _ g₅
  · refine ⟨apart, ⟨x₁, x₂, _, rfl, opens, opens'⟩,
      ⟨(FileHost.flush r'.files r'.input.stream).1, fun w => ?_⟩, by simp, by simp, ?_⟩
    · simp only [List.flatMap_append, List.flatMap_singleton,
        Turn.exchangesOn_of_silent silent₁, Turn.exchangesOn_of_silent silent₂, said w,
        flushed.exchangesOn, flushed'.exchangesOn, List.nil_append, List.append_nil]
      exact share_closed apart ..
    · by_cases jam : ending = .writeFailed
      · rw [Exchange.writeFails_filter_isWrite]
        exact Or.inl (runs.writeFailed_iff.mp jam)
      · exact Or.inr (runs.reads_end jam)
  · simp [still₁, still₂, heard, still₃, still₄]
  · have calls : v.served + 1 + 1 + ending.calls chunks.length + 1 + 1 =
        v.served + ending.calls chunks.length + 4 := by omega
    rw [← calls]
    exact has₅

/-- If there is nothing to copy, the program says so and changes no file. -/
theorem Has.copyFile_of_denied (has : g.Has v)
    (room : copyBuffer v.heap source target + chunk.toNat + 21 +
      max source.toUTF8.size target.toUTF8.size ≤ v.memory.size) {reason : IoError}
    (denied : FileHost.openFile v.host.files (spelled source) { purpose := .read } =
      .error reason) :
    ∃ turns g' m h, Performs (Program.copyFile source target) g turns (.ok 1) g' ∧
      turns.flatMap Turn.exchanges = [] ∧
      turns.flatMap Turn.stdout = spoken ("copy: cannot open " ++ source ++ "\n") ∧
      g'.Has (View.told { v with memory := m, heap := h, served := v.served + 1 }
        ("copy: cannot open " ++ source ++ "\n")) := by
  obtain ⟨sourcePath, targetPath, readMode, writeMode, buffer, g₀, m₀, h, begun, prepared, has₀⟩ :=
    has.prepare source target room
  obtain ⟨g₁, x₁, first, silent₁, still₁, has₁⟩ := has₀.fopen_of_error prepared.source_named
    prepared.read_asked (by decide) denied
  obtain ⟨g₂, x₂, m, second, silent₂, heard, has₂⟩ :=
    has₁.complain "copy: cannot open " source (by decide) (by
      have room := prepared.room
      dsimp only at room ⊢
      omega)
  refine ⟨[x₁] ++ ([x₂] ++ []), g₂, m, h, ?_, by simp [silent₁, silent₂],
    by simp [still₁, heard], has₂⟩
  refine begun (first.bind ?_)
  rw [if_pos rfl]
  exact second.bind (.pure 1 g₂)

end Opened

end Guest

end Semihosting
