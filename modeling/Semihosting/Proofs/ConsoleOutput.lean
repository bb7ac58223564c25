import Mathlib.Data.List.Induction
import Semihosting.Proofs.LossyDecoding
import Semihosting.Proofs.Servers

/-!
# What the console prints

The console cuts what is written to it into lines. How the guest has cut it into calls makes no
difference: the lines are those of all the bytes written so far, taken as one byte string, and a
character that was begun by one call may be ended by another.

## Main definitions

* `Console.ended`, `Console.unended` — the lines of a byte string, and what stands behind them
* `Console.pieces` — what newlines separate, without an empty piece at the end
* `Console.feedPieces` — the lines that a byte string ends if it is cut at its newlines first
* `Turn.output` — the bytes that a call writes to the console
* `Console.Shows` — what a console has printed and keeps, from the bytes written to it

## Main results

* `Console.feed_eq_feedPieces` — taking bytes one by one comes to cutting them at their newlines
* `Console.Shows.feed` — feeding more bytes is feeding one longer byte string
* `Turn.shows_after` — one call shows what it has written behind what was written before
* `Transcript.printed_eq_output` — what a run prints, from all the bytes it writes
-/

namespace Semihosting

open Utf8 (text)

namespace Console

/-! ### Lines -/

/-- The lines of a byte string: the pieces that newlines end. -/
def ended (bytes : List UInt8) : List (List UInt8) := (bytes.splitOn newline).dropLast

/-- What stands behind the last newline of a byte string. -/
def unended (bytes : List UInt8) : List UInt8 := (bytes.splitOn newline).getLastD []

@[simp] theorem ended_nil : ended [] = [] := rfl

@[simp] theorem unended_nil : unended [] = [] := rfl

variable {bytes : List UInt8} {b : UInt8}

theorem splitOn_eq (bytes : List UInt8) :
    bytes.splitOn newline = ended bytes ++ [unended bytes] := by
  have nonempty := List.splitOn_ne_nil newline bytes
  rw [ended, unended, List.getLastD_eq_getLast?, List.getLast?_eq_some_getLast nonempty,
    Option.getD_some, List.dropLast_concat_getLast]

/-- A further byte ends the rest of the string, or joins it. -/
theorem splitOn_snoc (bytes : List UInt8) (b : UInt8) :
    (bytes ++ [b]).splitOn newline =
      if b = newline then ended bytes ++ [unended bytes] ++ [[]]
      else ended bytes ++ [unended bytes ++ [b]] := by
  rw [← splitOn_eq]
  split
  · next h => rw [h, List.splitOn_append_cons_self, List.splitOn_nil]
  · next h =>
    induction bytes with
    | nil => simp [List.splitOn_cons_eq_if_modifyHead, h]
    | cons first bytes ih =>
      rw [List.cons_append, List.splitOn_cons_eq_if_modifyHead, ih, ended, ended, unended, unended,
        List.splitOn_cons_eq_if_modifyHead]
      obtain ⟨line, rest, split⟩ := List.exists_cons_of_ne_nil (List.splitOn_ne_nil newline bytes)
      rw [split]
      -- The first byte ends a line of its own, or stands in front of the first line.
      by_cases first = newline <;> cases rest <;> simp_all

theorem ended_snoc :
    ended (bytes ++ [b]) = if b = newline then ended bytes ++ [unended bytes] else ended bytes := by
  rw [ended, splitOn_snoc]
  split <;> exact List.dropLast_concat

theorem unended_snoc :
    unended (bytes ++ [b]) = if b = newline then [] else unended bytes ++ [b] := by
  rw [unended, splitOn_snoc]
  split <;> exact List.getLastD_concat

/-- Nothing stands behind the last newline exactly if the string is empty or ends with it. -/
theorem unended_eq_nil_iff : unended bytes = [] ↔ bytes = [] ∨ bytes.getLast? = some newline := by
  rcases List.eq_nil_or_concat bytes with rfl | ⟨bytes, b, rfl⟩
  · simp
  · rw [List.concat_eq_append, unended_snoc]
    by_cases h : b = newline <;> simp [h]

/-- The pieces of a byte string between its newlines, without an empty piece at the end. -/
def pieces (bytes : List UInt8) : List (List UInt8) :=
  let all := bytes.splitOn newline
  if all.getLast? = some [] then all.dropLast else all

/-- The pieces are the lines, and the rest if there is one. -/
theorem pieces_eq (bytes : List UInt8) :
    pieces bytes = ended bytes ++ if unended bytes = [] then [] else [unended bytes] := by
  simp only [pieces, splitOn_eq, List.getLast?_concat, Option.some.injEq, List.dropLast_concat]
  split
  · rw [List.append_nil]
  · rfl

/-- The lines with their newlines, and the rest, are the whole string. -/
theorem flatMap_ended (bytes : List UInt8) :
    (ended bytes).flatMap (· ++ [newline]) ++ unended bytes = bytes := by
  induction bytes using List.reverseRecOn with
  | nil => rfl
  | append_singleton bytes b ih =>
    rw [ended_snoc, unended_snoc]
    split
    · next h => simp [List.flatMap_append, ← List.append_assoc, ih, h]
    · rw [← List.append_assoc, ih]

/-- A newline is a character of its own, so lines are decoded one by one. -/
theorem text_flatMap (lines : List (List UInt8)) (rest : List UInt8) :
    text (lines.flatMap (· ++ [newline]) ++ rest) =
      String.join (lines.map fun line => text line ++ "\n") ++ text rest := by
  induction lines with
  | nil => simp
  | cons line lines ih =>
    have first := Utf8.text_append_cons (b := newline) (by decide) line
      (lines.flatMap (· ++ [newline]) ++ rest)
    simp only [List.flatMap_cons, List.append_assoc, List.cons_append, List.nil_append,
      List.map_cons, String.join_cons, String.append_assoc] at first ⊢
    rw [first, ih]
    rfl

/-- The lines and the rest, decoded one by one, are the whole string decoded at once. -/
theorem join_ended (bytes : List UInt8) :
    String.join ((ended bytes).map fun line => text line ++ "\n") ++ text (unended bytes) =
      text bytes := by
  rw [← text_flatMap, flatMap_ended]

/-! ### Feeding pieces -/

/-- Ends the pending line with some more bytes, and prints it. -/
def endLine (state : Array String × Console) (line : List UInt8) : Array String × Console :=
  (state.1.push (Utf8.decode (state.2.pending ++ ⟨line.toArray⟩)), {})

/-- The lines that some bytes end, and the console behind them, if the bytes are cut at their
newlines first: every piece but the last one ends a line, and the last one is kept. -/
def feedPieces (c : Console) (data : ByteArray) : Array String × Console :=
  let (lines, console) := (ended data.data.toList).foldl endLine (#[], c)
  (lines, { pending := console.pending ++ ⟨(unended data.data.toList).toArray⟩ })

theorem foldl_take_eq (state : Array String × Console) (bytes : List UInt8) :
    bytes.foldl take state =
      (((ended bytes).foldl endLine state).1,
        ⟨((ended bytes).foldl endLine state).2.pending ++ ⟨(unended bytes).toArray⟩⟩) := by
  induction bytes using List.reverseRecOn with
  | nil => exact Prod.ext rfl (congrArg Console.mk ByteArray.append_empty.symm)
  | append_singleton bytes b ih =>
    rw [List.foldl_append, ih, List.foldl_cons, List.foldl_nil, ended_snoc, unended_snoc, take]
    split
    · -- The rest of the string becomes a line of its own.
      rw [List.foldl_append]
      rfl
    · refine Prod.ext rfl (congrArg Console.mk (Bytes.ext_toList ?_))
      simp

/-- Taking bytes one by one comes to cutting them at their newlines. -/
theorem feed_eq_feedPieces (c : Console) (data : ByteArray) : c.feed data = c.feedPieces data :=
  foldl_take_eq (#[], c) data.data.toList

/-! ### What a console shows -/

/-- A console has printed the lines of a byte string behind those printed before, and keeps what
stands behind them. -/
structure Shows (before printed : Array String) (bytes : List UInt8) (c : Console) : Prop where
  /-- Every line was decoded as a whole. -/
  printed_eq : printed.toList = before.toList ++ (ended bytes).map text
  pending_eq : c.pending.data.toList = unended bytes

variable {before printed : Array String} {c : Console}

theorem Shows.take (shows : Shows before printed bytes c) (b : UInt8) :
    Shows before (take (printed, c) b).1 (bytes ++ [b]) (take (printed, c) b).2 := by
  obtain ⟨printed_eq, pending_eq⟩ := shows
  unfold Console.take
  split
  · next h =>
    refine ⟨?_, ?_⟩
    · rw [Array.toList_push, printed_eq, ended_snoc, if_pos h, List.map_append, List.append_assoc,
        ← pending_eq, List.map_singleton, Utf8.text_toList]
    · rw [unended_snoc, if_pos h]
      rfl
  · next h =>
    refine ⟨?_, ?_⟩
    · rw [printed_eq, ended_snoc, if_neg h]
    · rw [unended_snoc, if_neg h, ← pending_eq, ByteArray.data_push, Array.toList_push]

/-- What is printed before makes no difference to what is printed next. -/
theorem foldl_take (printed lines : Array String) (c : Console) (data : List UInt8) :
    data.foldl Console.take (printed ++ lines, c) =
      (printed ++ (data.foldl Console.take (lines, c)).1,
        (data.foldl Console.take (lines, c)).2) := by
  induction data generalizing lines c with
  | nil => rfl
  | cons b data ih =>
    have step : Console.take (printed ++ lines, c) b =
        (printed ++ (Console.take (lines, c) b).1, (Console.take (lines, c) b).2) := by
      unfold Console.take
      split
      · simp
      · rfl
    rw [List.foldl_cons, step, ih, List.foldl_cons]

/-- Feeding a console twice is feeding it once. -/
theorem Shows.feed (shows : Shows before printed bytes c) (data : ByteArray) :
    Shows before (printed ++ (c.feed data).1) (bytes ++ data.data.toList) (c.feed data).2 := by
  have folded := foldl_take printed #[] c data.data.toList
  rw [Array.append_empty] at folded
  have all (more : List UInt8) :
      Shows before (more.foldl Console.take (printed, c)).1 (bytes ++ more)
        (more.foldl Console.take (printed, c)).2 := by
    induction more using List.reverseRecOn with
    | nil => simpa using shows
    | append_singleton more b ih =>
      rw [List.foldl_append, List.foldl_cons, List.foldl_nil, ← List.append_assoc]
      exact ih.take b
  have fed := all data.data.toList
  rw [folded] at fed
  exact fed

/-- The last line is printed when the console goes away, unless there is none. -/
theorem Shows.flush (shows : Shows before printed bytes c) :
    c.flush.toList = if unended bytes = [] then [] else [text (unended bytes)] := by
  have length : c.pending.size = (unended bytes).length := by
    rw [← shows.pending_eq, Bytes.length_toList]
  have line : Utf8.decode c.pending = text (unended bytes) := by
    rw [← shows.pending_eq, Utf8.text_toList]
  by_cases h : unended bytes = []
  · have empty : c.pending.isEmpty = true := by simp [ByteArray.isEmpty, length, h]
    rw [Console.flush, if_pos empty, if_pos h]
  · have some : ¬ c.pending.isEmpty = true := by simp [ByteArray.isEmpty, length, h]
    rw [Console.flush, if_neg some, if_neg h, line]

/-- In the end every piece was printed as a line. -/
theorem Shows.printed_flush (shows : Shows before printed bytes c) :
    (printed ++ c.flush).toList = before.toList ++ (pieces bytes).map text := by
  rw [Array.toList_append, shows.printed_eq, shows.flush, List.append_assoc, pieces_eq,
    List.map_append]
  split <;> rfl

/-- In the end all bytes were printed, with a newline behind them if there was none. -/
theorem Shows.whole (shows : Shows before printed bytes c) :
    ∃ lines, (printed ++ c.flush).toList = before.toList ++ lines ∧
      String.join (lines.map (· ++ "\n")) =
        text bytes ++ if bytes = [] ∨ bytes.getLast? = some newline then "" else "\n" := by
  refine ⟨(ended bytes).map text ++ c.flush.toList, ?_, ?_⟩
  · rw [Array.toList_append, shows.printed_eq, List.append_assoc]
  · rw [shows.flush, ← join_ended bytes]
    by_cases h : unended bytes = []
    · rw [if_pos (unended_eq_nil_iff.mp h), if_pos h, h, Utf8.text_nil]
      simp [Function.comp_def]
    · rw [if_neg (fun there => h (unended_eq_nil_iff.mpr there)), if_neg h]
      simp [Function.comp_def, String.append_assoc]

end Console

/-! ### Runs -/

variable {σ ς : Type} [FileHost σ ς]

namespace Turn

/-- The bytes that a call writes to the console: what it finds in guest memory, if it is a write to
standard output or standard error that does not fault. -/
def output (x : Turn σ ς) : List UInt8 :=
  if x.service? = some .write ∧ (x.arg 0 = 1 ∨ x.arg 0 = 2) ∧ x.result?.isSome then
    (Bytes.window x.memory.bytes (x.arg 1).toNat (x.arg 2).toNat).data.toList
  else []

variable {x : Turn σ ς} {c : Console} {before : Array String} {bytes : List UInt8}

theorem output_of_ne (hs : x.service? ≠ some .write) : x.output = [] := if_neg fun h => hs h.1

/-- A write to any other descriptor is refused, and changes nothing. -/
theorem refused_of_write (h : x.debugger.server? .write = some (.console c))
    (hs : x.service? = some .write) (other : ¬ (x.arg 0 = 1 ∨ x.arg 0 = 2)) :
    x.result? = some Console.refused ∧ x.output = [] ∧
      x.after.debugger.server? .write = some (.console c) ∧ x.after.host = x.host := by
  have hr : x.request.service? = some .write := hs
  obtain ⟨act, hact, answered⟩ := answer?_of_server hs h
  simp only [Handler.react?, Console.react?, hr, Option.map_some, Option.some.injEq] at hact
  subst hact
  obtain ⟨server, host, -, result⟩ := answered
  rw [Reaction.map, Answer.map, Console.write, if_neg other] at server host result
  exact ⟨result, if_neg fun there => other there.2.1, server, host⟩

/-- A call that writes to the console feeds it what it writes. -/
theorem shows_of_write (h : x.debugger.server? .write = some (.console c))
    (hs : x.service? = some .write) (shows : Console.Shows before x.host.printed bytes c) :
    ∃ c', x.after.debugger.server? .write = some (.console c') ∧
      Console.Shows before x.after.host.printed (bytes ++ x.output) c' := by
  by_cases served : x.arg 0 = 1 ∨ x.arg 0 = 2
  · have hr : x.request.service? = some .write := hs
    obtain ⟨act, hact, answered⟩ := answer?_of_server hs h
    simp only [Handler.react?, Console.react?, hr, Option.map_some, Option.some.injEq] at hact
    subst hact
    obtain ⟨server, host, -, result⟩ := answered
    rw [Reaction.map, Answer.map, Console.write, if_pos served] at server host result
    cases loaded : x.memory.load (x.arg 1) (x.arg 2) with
    | error fault =>
      simp only [loaded] at server host result
      have silent : x.output = [] := if_neg fun there => by
        rw [result] at there
        exact absurd there.2.2 (by simp [Except.toOption])
      rw [silent, List.append_nil, host]
      exact ⟨c, server, shows⟩
    | ok data =>
      simp only [loaded] at server host result
      obtain ⟨-, rfl⟩ := Memory.load_eq_ok_iff.mp loaded
      have written : x.output =
          (Bytes.window x.memory.bytes (x.arg 1).toNat (x.arg 2).toNat).data.toList :=
        if_pos ⟨hs, served, by rw [result]; rfl⟩
      rw [written, host]
      exact ⟨_, server, shows.feed _⟩
  · obtain ⟨-, silent, server, host⟩ := refused_of_write h hs served
    rw [silent, List.append_nil, host]
    exact ⟨c, server, shows⟩

/-- Every other call leaves the console as it is. -/
theorem server?_write_after (h : x.debugger.server? .write = some (.console c))
    (hs : x.service? ≠ some .write) : x.after.debugger.server? .write = some (.console c) := by
  have hr : x.request.service? ≠ some .write := hs
  rcases server?_after h with same | ⟨act, hact, moved⟩
  · exact same
  · obtain ⟨act, reacts, rfl⟩ := Option.map_eq_some_iff.mp hact
    unfold Console.react? at reacts
    -- Reading and closing do not touch what is kept.
    split at reacts
    · next written => exact absurd written hr
    · cases reacts
      exact moved
    · cases reacts
      exact moved
    · cases reacts

/-- One call: the console shows what the call has written behind what was written before. -/
theorem shows_after (h : x.debugger.server? .write = some (.console c))
    (shows : Console.Shows before x.host.printed bytes c) :
    ∃ c', x.after.debugger.server? .write = some (.console c') ∧
      Console.Shows before x.after.host.printed (bytes ++ x.output) c' := by
  by_cases hs : x.service? = some .write
  · exact shows_of_write h hs shows
  · refine ⟨c, server?_write_after h hs, ?_⟩
    rw [output_of_ne hs, List.append_nil, printed_after hs]
    exact shows

end Turn

namespace Transcript

variable {s₀ s : Stage σ ς} {turns : List (Turn σ ς)}

/-- A console that was fresh shows what the run has written. -/
theorem shows (run : Transcript s₀ turns s)
    (fresh : s₀.debugger.server? .write = some (.console {})) :
    ∃ c, s.debugger.server? .write = some (.console c) ∧
      Console.Shows s₀.host.printed s.host.printed (turns.flatMap Turn.output) c := by
  induction run with
  | nil => exact ⟨{}, fresh, by simp, rfl⟩
  | snoc run machine ih =>
    obtain ⟨c, server, shows⟩ := ih
    rw [List.flatMap_append, List.flatMap_singleton]
    exact Turn.shows_after server shows

end Transcript

/-! ### A character in two pieces

The guest writes the first byte of a character to standard output, and its second byte, a newline
and one letter to standard error. -/

namespace Halves

def memory : Memory := ⟨⟨#[0xc3, 0xa9, 0x0a, 0x68]⟩, by decide⟩

def first : Turn FileStore StoredStream :=
  ⟨.initial none { files := {} }, .asking .write [1, 0, 1] memory⟩

def second : Turn FileStore StoredStream := ⟨first.after, .asking .write [2, 1, 3] memory⟩

theorem run : Transcript first.toStage [first, second] second.after :=
  (Transcript.nil.snoc _).snoc _

theorem output_eq : [first, second].flatMap Turn.output = [0xc3, 0xa9, 0x0a, 0x68] := by cbv

theorem text_eq : text [0xc3, 0xa9] = "é" := by cbv

end Halves

/-- However the guest cuts what it writes to a fresh console into calls, the lines printed are the
lines of all the bytes written, each decoded as a whole, the console keeps the bytes of the line
that has not ended, and prints that line in the end, unless there is none. All lines together are
the bytes decoded at once. A write to any other descriptor is refused. -/
theorem Transcript.printed_eq_output {s₀ s : Stage σ ς} {turns : List (Turn σ ς)}
    (run : Transcript s₀ turns s) (fresh : s₀.debugger.server? .write = some (.console {})) :
    ∃ c lines, s.debugger.server? .write = some (.console c) ∧
      s.host.printed.toList =
        s₀.host.printed.toList ++ (Console.ended (turns.flatMap Turn.output)).map text ∧
      c.pending.data.toList = Console.unended (turns.flatMap Turn.output) ∧
      (Handler.console (ς := ς) c).finish.toList =
        (if Console.unended (turns.flatMap Turn.output) = [] then []
          else [text (Console.unended (turns.flatMap Turn.output))]) ∧
      (s.host.printed ++ (Handler.console (ς := ς) c).finish).toList =
        s₀.host.printed.toList ++ lines ∧
      String.join (lines.map (· ++ "\n")) =
        text (turns.flatMap Turn.output) ++
          (if turns.flatMap Turn.output = [] ∨
              (turns.flatMap Turn.output).getLast? = some Console.newline then ""
            else "\n") ∧
      ∀ x ∈ turns, x.service? = some .write → ¬ (x.arg 0 = 1 ∨ x.arg 0 = 2) →
        x.result? = some Console.refused ∧ x.output = [] := by
  obtain ⟨c, server, shows⟩ := run.shows fresh
  obtain ⟨lines, all, joined⟩ := shows.whole
  refine ⟨c, lines, server, shows.printed_eq, shows.pending_eq, shows.flush, all, joined, ?_⟩
  intro x there hs other
  obtain ⟨before, after, rfl⟩ := List.append_of_mem there
  obtain ⟨s₁, first, rest⟩ := Transcript.append_iff.mp run
  obtain ⟨c', server', -⟩ := first.shows fresh
  rw [← rest.toStage_eq] at server'
  obtain ⟨refused, silent, -⟩ := Turn.refused_of_write server' hs other
  exact ⟨refused, silent⟩

/-- The two halves of a character are one character, and the last letter waits for its newline. -/
theorem printed_eq_output_halves :
    Halves.second.after.host.printed.toList = ["é"] ∧
      ∃ c, Halves.second.after.debugger.server? .write = some (.console c) ∧
        c.pending.data.toList = [0x68] := by
  obtain ⟨c, -, server, printed, pending, -⟩ :=
    Transcript.printed_eq_output Halves.run (by cbv)
  have lines : Console.ended [0xc3, 0xa9, 0x0a, 0x68] = [[0xc3, 0xa9]] := by decide
  have rest : Console.unended [0xc3, 0xa9, 0x0a, 0x68] = [0x68] := by decide
  rw [Halves.output_eq, lines, List.map_singleton, Halves.text_eq] at printed
  rw [Halves.output_eq, rest] at pending
  exact ⟨printed, c, server, pending⟩

end Semihosting
