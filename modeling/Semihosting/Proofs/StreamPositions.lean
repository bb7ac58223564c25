import Semihosting.Proofs.FileLimit
import Semihosting.Proofs.GuestCalls
import Semihosting.Proofs.StreamSteps

/-!
# Positions of streams

The position of a stream on a stored file fits in a word, and a guest that asks for it is told all
of it. A move leads to the place that it asks for, counted in whole numbers, if there is such a
position, and else nowhere. But the guest reads what it is told as a signed number, so from the
middle of the words on a position looks like a failure, and cannot be moved to from the start.

## Main definitions

* `FileStore.Addressable` — the limit and the lengths of all files fit in words
* `Stage.Positioned` — so do the positions of all streams
* `Stage.Tells` — what a guest is told of the position of a handle
* `Turn.LeadsTo` — what comes of a move to a place

## Main results

* `Turn.positioned_after` — one more call keeps positions within words
* `Transcript.tells_position` — after any run, where a stream is and where a move leads to
* `not_signed_position` — a position can be read as a negative number
-/

namespace Semihosting

open Debugger (panel)

/-! ### Places that a move asks for -/

/-- The move leads to a position if there is one at the place that it asks for. -/
theorem Seek.target?_eq_some_iff {seek : Seek} {bound position length place : Nat} :
    seek.target? bound position length = some place ↔
      seek.target position length = place ∧ place < bound := by
  unfold target?
  dsimp only
  split
  · rw [Option.some.injEq]
    omega
  · simp only [reduceCtorEq, false_iff]
    omega

namespace StreamTable

/-- The number from which an origin counts: 0, the position of the stream or the length of its
file. -/
def seekBase? (origin : Word) (position length : Nat) : Option Int :=
  if origin = 0 then some 0
  else if origin = 1 then some position
  else if origin = 2 then some length
  else none

/-- The place asked for is the offset counted from the base, in whole numbers. Only a negative
offset from the start asks for no move at all. -/
theorem seek?_cases (offset : Word) {origin : Word} {position length : Nat} {base : Int}
    (counts : seekBase? origin position length = some base) :
    (∃ seek, seek? offset origin = some seek ∧
        seek.target position length = base + offset.signed) ∨
      seek? offset origin = none ∧ base + offset.signed < 0 := by
  unfold seekBase? at counts
  unfold seek?
  split at counts
  · next start =>
    cases counts
    rw [if_pos start, Int.zero_add]
    split
    · next forward =>
      refine Or.inl ⟨_, rfl, ?_⟩
      have small : offset.toNat < 0x8000000000000000 := by
        by_contra large
        have := Word.signed_of_le (Nat.not_lt.mp large)
        have := offset.toNat_lt
        omega
      exact (Word.signed_of_lt small).symm
    · next backward => exact Or.inr ⟨rfl, Int.not_le.mp backward⟩
  · next other =>
    rw [if_neg other]
    split at counts
    · next current =>
      cases counts
      exact Or.inl ⟨_, if_pos current, rfl⟩
    · next other =>
      rw [if_neg other]
      split at counts
      · next fromEnd =>
        cases counts
        exact Or.inl ⟨_, if_pos fromEnd, rfl⟩
      · cases counts

end StreamTable

/-! ### Positions within words -/

variable {x : Turn FileStore StoredStream} {turns : List (Turn FileStore StoredStream)}
variable {t : StreamTable StoredStream} {rest : List (Handler StoredStream)} {w p : Word}
variable {file file' : OpenFile StoredStream} {f : InputFeed} {c : Console}

namespace FileStore

variable {s : FileStore} {data : ByteArray} {wanted : Nat}

/-- The limit and the lengths of all files fit in words. -/
structure Addressable (s : FileStore) : Prop where
  limit : s.limit < 2 ^ 64
  size : ∀ {name content}, s.get? name = some content → content.size < 2 ^ 64

theorem Addressable.size_content (addressable : s.Addressable) (name : String) :
    (s.content name).size < 2 ^ 64 := by
  rw [content]
  cases stored : s.get? name with
  | none => decide
  | some bytes => exact addressable.size stored

/-- A stream that moves is at the place asked for; one that does not stays where it is. -/
theorem seek_cases (s : FileStore) (stream : StoredStream) (seek : Seek) :
    (∃ position : Nat, position < 2 ^ 64 ∧
        seek.target stream.position (s.content stream.name).size = position ∧
        FileHost.seek s stream seek = (.ok position, { stream with position })) ∨
      (∀ position : Nat, position < 2 ^ 64 →
        seek.target stream.position (s.content stream.name).size ≠ position) ∧
        FileHost.seek s stream seek = (.error .seekOutOfRange, stream) := by
  have unfolded : FileHost.seek s stream seek = s.seek stream seek := rfl
  rw [unfolded, FileStore.seek]
  cases target : seek.target? 0x10000000000000000 stream.position
    (s.content stream.name).size with
  | some position =>
    obtain ⟨place, within⟩ := Seek.target?_eq_some_iff.mp target
    exact Or.inl ⟨position, within, place, rfl⟩
  | none =>
    refine Or.inr ⟨fun position within place => ?_, rfl⟩
    have found := target.symm.trans (Seek.target?_eq_some_iff.mpr ⟨place, within⟩)
    cases found

/-- To move by nothing is to stay. -/
theorem seek_zero {stream : StoredStream} (within : stream.position < 2 ^ 64) :
    FileHost.seek s stream (.current 0) = (.ok stream.position, stream) := by
  rcases s.seek_cases stream (.current 0) with ⟨position, -, place, moved⟩ | ⟨nowhere, -⟩
  · obtain rfl : position = stream.position := by
      rw [Seek.target, Int.add_zero] at place
      omega
    exact moved
  · exact absurd (Int.add_zero _) (nowhere stream.position within)

theorem position_seek {stream : StoredStream} (seek : Seek) (within : stream.position < 2 ^ 64) :
    (FileHost.seek s stream seek).2.position < 2 ^ 64 := by
  rcases s.seek_cases stream seek with ⟨position, small, -, moved⟩ | ⟨-, still⟩
  · rw [moved]
    exact small
  · rw [still]
    exact within

/-- A read ends at the end of the file, or where it has begun. -/
theorem position_fill (addressable : s.Addressable) (pos : 0 < wanted)
    (within : file.stream.position < 2 ^ 64) :
    (file.fill s wanted).file.stream.position < 2 ^ 64 := by
  cases readable : file.stream.mode.readable with
  | true =>
    have size := addressable.size_content file.stream.name
    rw [fill_eq readable]
    dsimp only
    rw [Bytes.size_window]
    omega
  | false =>
    rw [fill_of_unreadable readable pos]
    exact within

/-- A write ends within the limit, or where it has begun. -/
theorem position_drain (addressable : s.Addressable) (data : ByteArray)
    (within : file.stream.position < 2 ^ 64) :
    (file.drain s data).file.stream.position < 2 ^ 64 := by
  have limit := addressable.limit
  rw [drain_eq]
  dsimp only
  split
  · exact within
  · next some =>
    have writable := writable_of_pos (Nat.pos_of_ne_zero some)
    rw [allowance_of_writable writable] at some ⊢
    dsimp only
    omega

end FileStore

/-- The positions of all streams fit in words, as do the lengths of all files. -/
structure Stage.Positioned (s : Stage FileStore StoredStream) : Prop where
  files : s.host.files.Addressable
  position : ∀ {w file}, s.debugger.table.get? w = some file → file.stream.position < 2 ^ 64

namespace Turn

/-- What a call saves has a length that fits in a word, and streams keep to the limit. -/
theorem addressable_after (h : x.debugger.handlers = panel t f c)
    (addressable : x.host.files.Addressable) : x.after.host.files.Addressable where
  limit := by
    rw [limit_after h]
    exact addressable.limit
  size := by
    intro name content stored
    have limit := addressable.limit
    rcases size_after h stored with ⟨data, saves, size⟩ | ⟨-, within | ⟨old, there, size⟩⟩
    · rw [← size, saves.size_eq]
      exact (x.arg 2).toNat_lt
    · omega
    · rw [size]
      exact addressable.size there

/-- One more call keeps positions within words. -/
theorem positioned_after (h : x.debugger.handlers = panel t f c)
    (positioned : x.toStage.Positioned) : x.after.Positioned where
  files := addressable_after h positioned.files
  position := by
    intro w file' found
    have before : ∀ file, t.get? w = some file → file.stream.position < 2 ^ 64 := by
      intro file live
      rw [← Debugger.table_eq h] at live
      exact positioned.position live
    have step := handleStep h found
    generalize t.get? w = was at step before
    cases step with
    | renewed renews grant =>
      obtain ⟨path, letters, mode, -, -, -, opened⟩ := StreamTable.grant?_eq_some_iff.mp grant
      obtain ⟨rfl, -⟩ := FileStore.openFile_cases opened
      exact Nat.two_pow_pos 64
    | kept quiet => exact before _ rfl
    | told quiet => exact FileStore.position_seek _ (before _ rfl)
    | rewound rewinds => exact FileStore.position_seek _ (before _ rfl)
    | filled pulls => exact FileStore.position_fill positioned.files pulls.pos (before _ rfl)
    | drained pushes => exact FileStore.position_drain positioned.files _ (before _ rfl)

end Turn

/-- Along a whole run all positions fit in words. -/
theorem Transcript.positioned {content : Option ByteArray} {host : Host FileStore}
    {s : Stage FileStore StoredStream} (run : Transcript (.initial content host) turns s)
    (addressable : host.files.Addressable) :
    (∃ t f c, s.debugger.handlers = panel t f c) ∧ s.Positioned := by
  induction run with
  | nil => exact ⟨⟨{}, { content }, {}, rfl⟩, addressable, fun live => by cases live⟩
  | @snoc turns s run machine ih =>
    obtain ⟨⟨t, f, c, h⟩, positioned⟩ := ih
    exact ⟨Turn.exists_panel_after (x := ⟨s, machine⟩) h,
      Turn.positioned_after (x := ⟨s, machine⟩) h positioned⟩

/-! ### What is told of a position -/

/-- Whoever asks where the stream of a handle is gets this word. -/
def Stage.Tells (s : Stage FileStore StoredStream) (w p : Word) : Prop :=
  ∀ x : Turn FileStore StoredStream, x.toStage = s → x.service? = some .ftell → x.arg 0 = w →
    x.result? = some p

namespace Turn

/-- The effect of a call on the position of a handle. -/
theorem told_of_live (h : x.debugger.handlers = .streams t :: rest)
    (live : t.get? (x.arg 0) = some file) (within : file.stream.position < 2 ^ 64)
    (hs : x.service? = some .ftell) :
    x.result? = some (UInt64.ofNat file.stream.position) ∧
      x.after.debugger.handlers = .streams (t.put (x.arg 0) file) :: rest := by
  have answer := answer?_of_streams h (react?_of_service hs)
  rw [StreamTable.ftell_of_live live, FileStore.seek_zero within] at answer
  exact ⟨result?_eq answer, handlers_after answer⟩

/-- A move of a stream succeeds if there is a position at the place that it asks for, and then the
stream is there. Else the stream stays. -/
theorem moved_of_live (h : x.debugger.handlers = .streams t :: rest)
    (live : t.get? (x.arg 0) = some file) (hs : x.service? = some .fseek) {base : Int}
    (counts : StreamTable.seekBase? (x.arg 2) file.stream.position
      (x.host.files.content file.stream.name).size = some base) :
    (∃ position : Nat, position < 2 ^ 64 ∧ base + (x.arg 1).signed = position ∧
        x.result? = some 0 ∧
        x.after.debugger.handlers = .streams (t.put (x.arg 0)
          { file with stream := { file.stream with position }, eof := false }) :: rest) ∨
      (∀ position : Nat, position < 2 ^ 64 → base + (x.arg 1).signed ≠ position) ∧
        x.result? = some StreamTable.failure ∧
        ∃ t', t'.get? (x.arg 0) = some file ∧
          x.after.debugger.handlers = .streams t' :: rest := by
  have answer := answer?_of_streams h (react?_of_service hs)
  rcases StreamTable.seek?_cases (x.arg 1) counts with
    ⟨seek, asked, place⟩ | ⟨misput, backward⟩
  · rw [StreamTable.fseek_of_live live asked] at answer
    rcases x.host.files.seek_cases file.stream seek with
      ⟨position, small, there, moved⟩ | ⟨nowhere, still⟩
    · rw [moved] at answer
      exact Or.inl ⟨position, small, place.symm.trans there, result?_eq answer,
        handlers_after answer⟩
    · rw [still] at answer
      refine Or.inr ⟨fun position small there => nowhere position small (place.trans there),
        result?_eq answer, t.put (x.arg 0) file, ?_, handlers_after answer⟩
      rw [StreamTable.get?_put, if_pos rfl]
  · rw [StreamTable.fseek_of_misput misput] at answer
    exact Or.inr ⟨fun position _ => by omega, result?_eq answer, t, live, handlers_after answer⟩

end Turn

namespace Stage

variable {s : Stage FileStore StoredStream}

/-- A guest is told the whole position of a stream. -/
theorem tells_of_live (h : s.debugger.handlers = .streams t :: rest)
    (live : t.get? w = some file) (within : file.stream.position < 2 ^ 64) :
    s.Tells w (UInt64.ofNat file.stream.position) := by
  intro x here hs handle
  subst here
  subst handle
  exact (Turn.told_of_live h live within hs).1

/-- A guest can always ask, so there is one answer only. -/
theorem Tells.unique {q : Word} (h : s.Tells w p) (h' : s.Tells w q) : p = q := by
  let x : Turn FileStore StoredStream := ⟨s, .asking .ftell [w] (.blank 0)⟩
  have request : x.request = .ofList Service.ftell.number [w] := Request.capture_load ..
  have hs : x.service? = some .ftell := by
    rw [Turn.service?, request]
    exact Request.service?_ofList ..
  have handle : x.arg 0 = w := by
    rw [Turn.arg, request, Request.arg, Request.getElem_ofList]
    rfl
  exact Option.some.inj ((h x rfl hs handle).symm.trans (h' x rfl hs handle))

end Stage

/-- What comes of a move of a handle to a place, from where the guest was told `p`. -/
structure Turn.LeadsTo (x : Turn FileStore StoredStream) (w p : Word) (place : Int) : Prop where
  /-- The move succeeds exactly if the place is a position. -/
  result : x.result? = some (if 0 ≤ place ∧ place < 2 ^ 64 then 0 else StreamTable.failure)
  /-- Then the guest is told this position, and can read it as a signed number in the lower half
  only. -/
  moved : 0 ≤ place → place < 2 ^ 64 →
    ∃ q, x.after.Tells w q ∧ (q.toNat : Int) = place ∧ (q.signed = place ↔ place < 2 ^ 63)
  /-- Else it is told the same as before. -/
  stayed : ¬ (0 ≤ place ∧ place < 2 ^ 64) → x.after.Tells w p

theorem Word.signed_eq_iff {place : Int} (same : (p.toNat : Int) = place) :
    p.signed = place ↔ place < 2 ^ 63 := by
  rcases Nat.lt_or_ge p.toNat 0x8000000000000000 with small | large
  · rw [Word.signed_of_lt small]
    omega
  · rw [Word.signed_of_le large]
    omega

theorem Turn.leadsTo_of_live (h : x.debugger.handlers = .streams t :: rest)
    (live : t.get? (x.arg 0) = some file) (within : file.stream.position < 2 ^ 64)
    (hs : x.service? = some .fseek) {base : Int}
    (counts : StreamTable.seekBase? (x.arg 2) file.stream.position
      (x.host.files.content file.stream.name).size = some base) :
    x.LeadsTo (x.arg 0) (UInt64.ofNat file.stream.position) (base + (x.arg 1).signed) := by
  rcases moved_of_live h live hs counts with
    ⟨position, small, place, result, after⟩ | ⟨nowhere, result, t', live', after⟩
  · have there : 0 ≤ base + (x.arg 1).signed ∧ base + (x.arg 1).signed < 2 ^ 64 := by omega
    refine ⟨by rw [result, if_pos there], fun _ _ => ?_, fun none => absurd there none⟩
    have same : ((UInt64.ofNat position).toNat : Int) = base + (x.arg 1).signed := by
      rw [UInt64.toNat_ofNat_of_lt' small, place]
    refine ⟨UInt64.ofNat position, ?_, same, Word.signed_eq_iff same⟩
    have live' : (t.put (x.arg 0)
        { file with stream := { file.stream with position }, eof := false }).get? (x.arg 0) =
        some { file with stream := { file.stream with position }, eof := false } := by
      rw [StreamTable.get?_put, if_pos rfl]
    exact Stage.tells_of_live after live' small
  · have none : ¬ (0 ≤ base + (x.arg 1).signed ∧ base + (x.arg 1).signed < 2 ^ 64) := by
      rintro ⟨forward, small⟩
      exact nowhere (base + (x.arg 1).signed).toNat (by omega) (by omega)
    exact ⟨by rw [result, if_neg none], fun forward small => absurd ⟨forward, small⟩ none,
      fun _ => Stage.tells_of_live after live' within⟩

/-! ### Signed readings -/

theorem Word.signed_nonneg_iff : 0 ≤ p.signed ↔ p.toNat < 2 ^ 63 := by
  have := p.toNat_lt
  rcases Nat.lt_or_ge p.toNat 0x8000000000000000 with small | large
  · rw [Word.signed_of_lt small]
    omega
  · rw [Word.signed_of_le large]
    omega

theorem Word.signed_lt (p : Word) : p.signed < 2 ^ 63 := by
  have := p.toNat_lt
  rcases Nat.lt_or_ge p.toNat 0x8000000000000000 with small | large
  · rw [Word.signed_of_lt small]
    omega
  · rw [Word.signed_of_le large]
    omega

/-- A move from the start to the position that the guest was told leaves the stream where it is. It
succeeds if the position is in the lower half of the words. -/
theorem Turn.LeadsTo.home (leads : x.LeadsTo w p p.signed) :
    (x.result? = some 0 ↔ 0 ≤ p.signed) ∧ x.after.Tells w p := by
  have small := Word.signed_lt p
  by_cases lower : 0 ≤ p.signed
  · obtain ⟨q, tells, same, -⟩ := leads.moved lower (by omega)
    obtain rfl : q = p := by
      rw [Word.signed_of_lt (Word.signed_nonneg_iff.mp lower)] at same
      exact UInt64.toNat_inj.mp (Int.ofNat.inj same)
    refine ⟨?_, tells⟩
    rw [leads.result, if_pos ⟨lower, by omega⟩]
    simp [lower]
  · have none : ¬ (0 ≤ p.signed ∧ p.signed < 2 ^ 64) := fun there => lower there.1
    refine ⟨?_, leads.stayed none⟩
    rw [leads.result, if_neg none]
    simp [lower, StreamTable.failure]

/-! ### A stream in the middle of the words -/

namespace FarOut

/-- The path `f` and the mode `w`. -/
def memory : Memory := ⟨⟨#[0x66, 0, 0x77, 0]⟩, by decide⟩

def opening : Turn FileStore StoredStream :=
  ⟨.initial none { files := {} }, .asking .fopen [0, 2] memory⟩

/-- The stream moves as far from the start as one offset goes. -/
def seeking : Turn FileStore StoredStream :=
  ⟨opening.after, .asking .fseek [1, 0x7fffffffffffffff, 0] memory⟩

/-- It moves on by one byte. -/
def moving : Turn FileStore StoredStream := ⟨seeking.after, .asking .fseek [1, 1, 1] memory⟩

/-- The guest asks where it is. -/
def asking : Turn FileStore StoredStream := ⟨moving.after, .asking .ftell [1] memory⟩

theorem run : Transcript opening.toStage [opening, seeking, moving] moving.after :=
  ((Transcript.nil.snoc _).snoc _).snoc _

theorem addressable : FileStore.Addressable {} := by
  refine ⟨by decide, fun stored => ?_⟩
  cases stored

theorem live : moving.after.debugger.table.get? 1 =
    some { stream := { name := "f", mode := { purpose := .write }, position := 2 ^ 63 } } := by
  decide +kernel

end FarOut

/-! ### Whole runs -/

/-- After any run a guest that asks where a stream is gets its position as a word, which reads as a
positive number up to the middle of the words. Asking does not move the stream, nor does a move from
the start to what the guest was told, which fails beyond the middle. And any move from one of the
three origins leads to the place that it asks for. -/
theorem Transcript.tells_position {content : Option ByteArray} {host : Host FileStore}
    {s : Stage FileStore StoredStream} (run : Transcript (.initial content host) turns s)
    (addressable : host.files.Addressable) (live : s.debugger.table.get? w = some file) :
    ∃ p : Word, p.toNat = file.stream.position ∧
      (0 ≤ p.signed ↔ file.stream.position < 2 ^ 63) ∧ s.Tells w p ∧
      ∀ x : Turn FileStore StoredStream, x.toStage = s → x.arg 0 = w →
        (x.service? = some .ftell → x.after.Tells w p) ∧
          (x.service? = some .fseek → x.arg 1 = p → x.arg 2 = 0 →
            (x.result? = some 0 ↔ 0 ≤ p.signed) ∧ x.after.Tells w p) ∧
          (x.service? = some .fseek → ∀ base,
            StreamTable.seekBase? (x.arg 2) file.stream.position
              (s.host.files.content file.stream.name).size = some base →
            x.LeadsTo w p (base + (x.arg 1).signed)) := by
  obtain ⟨⟨t, f, c, handlers⟩, positioned⟩ := run.positioned addressable
  have within := positioned.position live
  have whole : (UInt64.ofNat file.stream.position).toNat = file.stream.position :=
    UInt64.toNat_ofNat_of_lt' within
  rw [Debugger.table_eq handlers] at live
  refine ⟨UInt64.ofNat file.stream.position, whole, ?_, Stage.tells_of_live handlers live within,
    ?_⟩
  · rw [Word.signed_nonneg_iff, whole]
  · rintro x rfl rfl
    have leads : x.service? = some .fseek → ∀ base,
        StreamTable.seekBase? (x.arg 2) file.stream.position
          (x.host.files.content file.stream.name).size = some base →
        x.LeadsTo (x.arg 0) (UInt64.ofNat file.stream.position) (base + (x.arg 1).signed) :=
      fun hs _ counts => Turn.leadsTo_of_live handlers live within hs counts
    refine ⟨fun hs => ?_, fun hs told start => ?_, leads⟩
    · obtain ⟨-, after⟩ := Turn.told_of_live handlers live within hs
      refine Stage.tells_of_live after ?_ within
      rw [StreamTable.get?_put, if_pos rfl]
    · have home := leads hs 0 (by rw [StreamTable.seekBase?, if_pos start])
      rw [Int.zero_add, told] at home
      exact home.home

/-- In the middle of the words the position reads as a negative number, and the stream cannot be
moved from the start to what the guest was told. -/
theorem tells_position_farOut :
    FarOut.moving.after.Tells 1 0x8000000000000000 ∧
      ¬ (0 : Int) ≤ Word.signed 0x8000000000000000 := by
  obtain ⟨p, position, reads, tells, -⟩ :=
    FarOut.run.tells_position FarOut.addressable FarOut.live
  obtain rfl : p = 0x8000000000000000 := UInt64.toNat_inj.mp position
  exact ⟨tells, fun lower => absurd (reads.mp lower) (by decide)⟩

/-- So not every answer to a guest that asks where a stream is reads as a position. -/
theorem not_signed_position :
    ¬ ∀ (content : Option ByteArray) (host : Host FileStore)
      (turns : List (Turn FileStore StoredStream)) (s : Stage FileStore StoredStream) (w : Word),
      host.files.Addressable → Transcript (.initial content host) turns s →
      (s.debugger.table.get? w).isSome → ∃ p, s.Tells w p ∧ 0 ≤ p.signed := by
  intro holds
  have live : (FarOut.moving.after.debugger.table.get? 1).isSome := by rw [FarOut.live]; rfl
  obtain ⟨p, tells, lower⟩ := holds none _ _ _ 1 FarOut.addressable FarOut.run live
  have told := tells FarOut.asking rfl (by decide +kernel) (by decide +kernel)
  have result : FarOut.asking.result? = some 0x8000000000000000 := by decide +kernel
  obtain rfl : p = 0x8000000000000000 := Option.some.inj (told.symm.trans result)
  exact absurd lower (by decide)

end Semihosting
