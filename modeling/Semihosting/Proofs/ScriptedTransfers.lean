import Semihosting.Proofs.RehearsedStream

/-!
# Transfers on streams that play scripts

A stream plays a script if its answers are the entries of the script one after another, whatever it
is asked for; an entry is only cut to the size of the request. Behind the script a read delivers
nothing, and a write takes everything.

A transfer on such a stream plays the entries up to and including the first that completes it, moves
nothing or fails for good. Entries that are interruptions, and entries that move too little, are
followed by another request for what is missing still. So a transfer ends, what it leaves of the
script is known, and its outcome can be read off the entries that it has played.

## Main definitions

* `Progress` — how a request has gone, with `Progress.Halts` for a transfer that goes no further
* `Progress.Course` — the entries that a transfer plays
* `ReadsFrom`, `WritesFrom` — the answers of a stream are the entries of a script
* `OpenFile.Fills`, `OpenFile.Drains` — all that comes of a transfer

## Main results

* `Progress.Course.total_lt_iff` — a transfer is cut short exactly where its last entry halts it
* `OpenFile.fillFrom_plays`, `OpenFile.drainFrom_plays` — reading and writing, from anywhere on
* `OpenFile.transfers_play_scripts` — reading and writing as a whole
* `Rehearsal.readsFrom_scripted`, `Rehearsal.writesFrom_scripted` — scripted streams play their cues
-/

namespace Semihosting

/-! ### How requests go -/

/-- How a request has gone: how many bytes it has moved, or why it was refused. -/
abbrev Progress := Except IoError Nat

namespace Progress

variable {p : Progress} {played : List Progress} {wanted : Nat}

/-- How many bytes a request has moved. -/
def moved : Progress → Nat
  | .ok count => count
  | .error _ => 0

/-- A request was refused, and not only interrupted. -/
def Fails (p : Progress) : Prop := ∃ reason, p = .error reason ∧ reason ≠ .interrupted

/-- A request has moved nothing, although it was not refused. -/
def Dry (p : Progress) : Prop := p = .ok 0

/-- A transfer goes no further. -/
def Halts (p : Progress) : Prop := p.Dry ∨ p.Fails

theorem not_halts_interrupted : ¬ Halts (.error .interrupted) := by
  rintro (⟨⟨⟩⟩ | ⟨reason, ⟨⟩, other⟩)
  exact other rfl

theorem not_halts_ok {count : Nat} (some : count ≠ 0) : ¬ Halts (.ok count) := by
  rintro (dry | ⟨reason, ⟨⟩, -⟩)
  exact some (Except.ok.inj dry)

/-- How many bytes some requests have moved together. -/
def total (played : List Progress) : Nat := (played.map moved).sum

/-- How many bytes were moved before each of some requests. -/
def totals (played : List Progress) : List Nat :=
  (List.range played.length).map fun i => total (played.take i)

/-- The last of some requests, if there is one, is of a kind. -/
def EndsWith (kind : Progress → Prop) (played : List Progress) : Prop :=
  ∃ last, played.getLast? = some last ∧ kind last

/-- The entries that a transfer of `wanted` bytes plays: none if nothing is wanted, and otherwise
those up to the first that completes the transfer or halts it. -/
inductive Course (wanted : Nat) : List Progress → Prop
  | nothing : wanted = 0 → Course wanted []
  | upTo {before : List Progress} {last : Progress} : (∀ p ∈ before, ¬ p.Halts) →
      total before < wanted → last.Halts ∨ wanted ≤ total (before ++ [last]) →
      Course wanted (before ++ [last])

theorem moved_of_halts (h : p.Halts) : p.moved = 0 := by
  rcases h with rfl | ⟨reason, rfl, -⟩ <;> rfl

theorem total_cons (p : Progress) (played : List Progress) :
    total (p :: played) = p.moved + total played := by
  rw [total, List.map_cons, List.sum_cons, total]

theorem total_append_singleton (before : List Progress) (last : Progress) :
    total (before ++ [last]) = total before + last.moved := by
  simp [total]

theorem totals_cons (p : Progress) (played : List Progress) :
    totals (p :: played) = 0 :: (totals played).map (p.moved + ·) := by
  rw [totals, List.length_cons, List.range_succ_eq_map, List.map_cons, List.map_map, totals,
    List.map_map]
  refine congrArg _ (List.map_congr_left fun i _ => ?_)
  rw [Function.comp_apply, Function.comp_apply, List.take_succ_cons, total_cons]

/-- A first request that is not of a kind leaves the matter to those behind it. -/
theorem endsWith_cons_iff {kind : Progress → Prop} (other : ¬ kind p) :
    EndsWith kind (p :: played) ↔ EndsWith kind played := by
  cases played with
  | nil => simp [EndsWith, other]
  | cons q played => rw [EndsWith, EndsWith, List.getLast?_cons_cons]

theorem endsWith_singleton {kind : Progress → Prop} : EndsWith kind [p] ↔ kind p := by
  simp [EndsWith]

theorem endsWith_halts_iff :
    EndsWith Halts played ↔ EndsWith Dry played ∨ EndsWith Fails played := by
  constructor
  · rintro ⟨last, ends, dry | fails⟩
    · exact .inl ⟨last, ends, dry⟩
    · exact .inr ⟨last, ends, fails⟩
  · rintro (⟨last, ends, dry⟩ | ⟨last, ends, fails⟩)
    · exact ⟨last, ends, .inl dry⟩
    · exact ⟨last, ends, .inr fails⟩

namespace Course

theorem eq_nil (course : Course 0 played) : played = [] := by
  cases course with
  | nothing => rfl
  | upTo _ less => exact absurd less (Nat.not_lt_zero _)

theorem of_halts (pos : 0 < wanted) (h : p.Halts) : Course wanted [p] := by
  have course : Course wanted ([] ++ [p]) := .upTo nofun pos (.inl h)
  exact course

/-- A request that goes on is followed by those of a transfer of what is missing. -/
theorem cons (pos : 0 < wanted) (goes_on : ¬ p.Halts) (course : Course (wanted - p.moved) played) :
    Course wanted (p :: played) := by
  cases course with
  | nothing all =>
    -- Nothing more is wanted, so the first request has completed the transfer.
    have whole : wanted ≤ total ([] ++ [p]) := by
      rw [List.nil_append, total_cons, total, List.map_nil, List.sum_nil]
      omega
    have course : Course wanted ([] ++ [p]) := .upTo nofun pos (.inr whole)
    exact course
  | @upTo before last going less ends =>
    have short : total (p :: before) < wanted := by
      rw [total_cons]
      omega
    have course : Course wanted ((p :: before) ++ [last]) :=
      .upTo (List.forall_mem_cons.mpr ⟨goes_on, going⟩) short (ends.imp_right fun whole => by
        rw [List.cons_append, total_cons]
        omega)
    exact course

/-- A transfer is cut short exactly where its last request halts it. -/
theorem total_lt_iff (course : Course wanted played) :
    total played < wanted ↔ EndsWith Halts played := by
  cases course with
  | nothing none => simp [none, EndsWith]
  | @upTo before last _ less ends =>
    rw [EndsWith, List.getLast?_concat]
    constructor
    · intro short
      exact ⟨last, rfl, ends.resolve_right (Nat.not_le.mpr short)⟩
    · rintro ⟨final, same, halts⟩
      obtain rfl := Option.some.inj same
      rw [total_append_singleton, moved_of_halts halts]
      exact less

end Course

end Progress

/-! ### Streams that play scripts -/

section Scripts

variable {σ ς : Type} [FileHost σ ς]

/-- The stream behind reads that have asked for some numbers of bytes. -/
def afterReads (files : σ) (stream : ς) (counts : List Nat) : ς :=
  counts.foldl (fun stream count => (FileHost.read files stream count).2) stream

/-- Whatever was asked for before, a read is answered with the next entry of a script, cut to what
it asks for. Where the script is used up, nothing is delivered. -/
def ReadsFrom (files : σ) (stream : ς) (script : List (Except IoError ByteArray)) : Prop :=
  ∀ counts count, (FileHost.read files (afterReads files stream counts) count).1 =
    (script[counts.length]?.getD (.ok .empty)).map (Bytes.window · 0 count)

/-- The files and the stream behind writes of some slices. -/
def afterWrites (files : σ) (stream : ς) (slices : List ByteArray) : σ × ς :=
  slices.foldl (fun place slice => (FileHost.write place.1 place.2 slice).2) (files, stream)

/-- Whatever was written before, a write is answered with the next entry of a script, cut to what is
written. Where the script is used up, everything is taken. -/
def WritesFrom (files : σ) (stream : ς) (script : List (Except IoError Nat)) : Prop :=
  ∀ slices slice, (FileHost.write (afterWrites files stream slices).1
      (afterWrites files stream slices).2 slice).1 =
    (script[slices.length]?.getD (.ok slice.size)).map (min · slice.size)

variable {files : σ} {stream : ς}

/-- The entries behind the first one answer the requests behind the first one. -/
theorem ReadsFrom.tail {script : List (Except IoError ByteArray)}
    (reads : ReadsFrom files stream script) (count : Nat) :
    ReadsFrom files (FileHost.read files stream count).2 (script.drop 1) := by
  intro counts next
  rw [List.getElem?_drop, Nat.add_comm]
  exact reads (count :: counts) next

theorem WritesFrom.tail {script : List (Except IoError Nat)}
    (writes : WritesFrom files stream script) (slice : ByteArray) :
    WritesFrom (FileHost.write files stream slice).2.1 (FileHost.write files stream slice).2.2
      (script.drop 1) := by
  intro slices next
  rw [List.getElem?_drop, Nat.add_comm]
  exact writes (slice :: slices) next

end Scripts

namespace OpenFile

variable {σ ς : Type} [FileHost σ ς] {files : σ} {file : OpenFile ς}

/-! ### Reading -/

/-- The bytes of an entry. -/
def entryBytes : Except IoError ByteArray → List UInt8
  | .ok data => data.data.toList
  | .error _ => []

/-- How reads have gone, by the entries that they have played. -/
def progress (played : List (Except IoError ByteArray)) : List Progress :=
  played.map (·.map ByteArray.size)

/-- All that comes of a read of `wanted` bytes behind those already delivered, on a stream that
plays a script. -/
structure Fills (files : σ) (file : OpenFile ς) (script : List (Except IoError ByteArray))
    (wanted : Nat) (delivered : ByteArray) (played : List (Except IoError ByteArray))
    (filled : Filled ς) : Prop where
  /-- Entries are played from the start of the script on, the end of it being one as well. -/
  played_prefix : played <+: script ++ [.ok .empty]
  course : Progress.Course wanted (progress played)
  /-- Each request asks for what is missing still. -/
  asked : filled.file.stream =
    afterReads files file.stream ((Progress.totals (progress played)).map (wanted - ·))
  /-- The other entries are left. -/
  left : ReadsFrom files filled.file.stream (script.drop played.length)
  /-- What the entries deliver lies one behind the other, and is cut at the end. -/
  data_eq : filled.data.data.toList =
    delivered.data.toList ++ (played.flatMap entryBytes).take wanted
  eof_iff : filled.file.eof ↔ file.eof ∨ Progress.EndsWith Progress.Dry (progress played)
  error_iff : filled.file.error ↔ file.error ∨ Progress.EndsWith Progress.Fails (progress played)

variable {script played : List (Except IoError ByteArray)} {entry : Except IoError ByteArray}
variable {wanted : Nat} {delivered : ByteArray} {filled : Filled ς} {after : ς}

theorem progress_cons (entry : Except IoError ByteArray)
    (played : List (Except IoError ByteArray)) :
    progress (entry :: played) = entry.map ByteArray.size :: progress played :=
  List.map_cons

theorem length_entryBytes (entry : Except IoError ByteArray) :
    (entryBytes entry).length = Progress.moved (entry.map ByteArray.size) := by
  cases entry with
  | ok data => exact Bytes.length_toList data
  | error reason => rfl

/-- A read of nothing plays no entry. -/
theorem Fills.nothing (reads : ReadsFrom files file.stream script) :
    Fills files file script 0 delivered [] { data := delivered, file } where
  played_prefix := List.nil_prefix
  course := .nothing rfl
  asked := rfl
  left := reads
  data_eq := by simp
  eof_iff := by simp [Progress.EndsWith, progress]
  error_iff := by simp [Progress.EndsWith, progress]

/-- A read ends at an entry that halts it. -/
theorem Fills.of_halts (pos : 0 < wanted) (first : [entry] <+: script ++ [.ok .empty])
    (halts : Progress.Halts (entry.map ByteArray.size))
    (stream : filled.file.stream = (FileHost.read files file.stream wanted).2)
    (left : ReadsFrom files filled.file.stream (script.drop 1)) (data : filled.data = delivered)
    (eof : filled.file.eof ↔ file.eof ∨ Progress.Dry (entry.map ByteArray.size))
    (error : filled.file.error ↔ file.error ∨ Progress.Fails (entry.map ByteArray.size)) :
    Fills files file script wanted delivered [entry] filled where
  played_prefix := first
  course := .of_halts pos halts
  asked := stream
  left := left
  data_eq := by
    have none := Progress.moved_of_halts halts
    rw [← length_entryBytes, List.length_eq_zero_iff] at none
    rw [data, List.flatMap_singleton, none, List.take_nil, List.append_nil]
  eof_iff := by rw [eof, progress, List.map_singleton, Progress.endsWith_singleton]
  error_iff := by rw [error, progress, List.map_singleton, Progress.endsWith_singleton]

/-- An entry that does not halt a read is played before those that the rest of the read plays. -/
theorem Fills.cons {more : ByteArray} (pos : 0 < wanted)
    (next : script[0]?.getD (.ok .empty) = entry)
    (goes_on : ¬ Progress.Halts (entry.map ByteArray.size))
    (answered : (FileHost.read files file.stream wanted).2 = after)
    (more_eq : more.data.toList = delivered.data.toList ++ (entryBytes entry).take wanted)
    (rest : Fills files { file with stream := after } (script.drop 1)
      (wanted - Progress.moved (entry.map ByteArray.size)) more played filled) :
    Fills files file script wanted delivered (entry :: played) filled where
  played_prefix := by
    cases script with
    | nil => exact absurd (.inl (next ▸ rfl)) goes_on
    | cons head script => exact List.cons_prefix_cons.mpr ⟨next.symm, rest.played_prefix⟩
  course := rest.course.cons pos goes_on
  asked := by
    have missing (t : Nat) : wanted - Progress.moved (entry.map ByteArray.size) - t =
        wanted - (Progress.moved (entry.map ByteArray.size) + t) := Nat.sub_sub ..
    rw [rest.asked, progress_cons, Progress.totals_cons, List.map_cons, List.map_map,
      afterReads, afterReads, List.foldl_cons, Nat.sub_zero, answered]
    simp only [missing]
    rfl
  left := by
    rw [List.length_cons, Nat.add_comm, ← List.drop_drop]
    exact rest.left
  data_eq := by
    rw [rest.data_eq, more_eq, List.flatMap_cons, List.take_append, length_entryBytes,
      List.append_assoc]
  eof_iff := by
    rw [rest.eof_iff, progress_cons, Progress.endsWith_cons_iff fun dry => goes_on (.inl dry)]
  error_iff := by
    rw [rest.error_iff, progress_cons, Progress.endsWith_cons_iff fun fails => goes_on (.inr fails)]

/-- The entry that answers the next request is the first one, or the end of the script. -/
theorem next_prefix {α : Type} (script : List α) (end_ : α) :
    [script[0]?.getD end_] <+: script ++ [end_] := by
  cases script <;> simp

/-- A read plays entries up to the first that completes it or halts it. -/
theorem fillFrom_plays {rounds : Nat} (reads : ReadsFrom files file.stream script)
    (enough : wanted + FileHost.readDelays (σ := σ) file.stream ≤ rounds) :
    ∃ played, Fills files file script wanted delivered played
      (fillFrom files rounds file wanted delivered) := by
  -- The induction is on the requests that are allowed still, with whatever stream, script and
  -- number of bytes are left for them.
  induction rounds generalizing file script wanted delivered with
  | zero =>
    obtain rfl : wanted = 0 := by omega
    exact ⟨[], .nothing reads⟩
  | succ rounds ih =>
    rcases Nat.eq_zero_or_pos wanted with rfl | pos
    · rw [fillFrom_of_done]
      exact ⟨[], .nothing reads⟩
    have left := reads.tail wanted
    have fewer := FileHost.readDelays_le files file.stream wanted
    have first := next_prefix script (.ok .empty)
    have answer : (FileHost.read files file.stream wanted).1 = _ := reads [] wanted
    rw [List.length_nil] at answer
    unfold fillFrom
    rw [if_neg (Nat.ne_of_gt pos)]
    rcases answered : FileHost.read files file.stream wanted with ⟨result, after⟩
    rw [answered] at answer left fewer
    have stream := congrArg Prod.snd answered
    dsimp only at answer left fewer stream
    -- From here on it does not matter whether the entry is the end of the script.
    generalize next : script[0]?.getD (.ok .empty) = entry at first answer
    subst answer
    -- A request that does not halt the read leaves the rest of the script to the others.
    have further (wanted : Nat) (delivered : ByteArray)
        (enough : wanted + FileHost.readDelays (σ := σ) after ≤ rounds) :
        ∃ played, Fills files { file with stream := after } (script.drop 1) wanted delivered played
          (fillFrom files rounds { file with stream := after } wanted delivered) := ih left enough
    cases entry with
    | error reason =>
      cases reason with
      | interrupted =>
        have less := FileHost.readDelays_lt answered
        obtain ⟨played, fills⟩ := further wanted delivered (by omega)
        exact ⟨_, .cons pos next Progress.not_halts_interrupted stream (by simp [entryBytes]) fills⟩
      | _ =>
        exact ⟨_, .of_halts pos first (.inr ⟨_, rfl, by simp⟩) stream.symm left rfl
          (by simp [Progress.Dry, Except.map]) (by simp [Progress.Fails, Except.map])⟩
    | ok data =>
      have size : (Bytes.window data 0 wanted).size = min wanted data.size := Bytes.size_window ..
      simp only [Except.map, size]
      by_cases none : data.size = 0
      · rw [if_pos (by omega)]
        exact ⟨_, .of_halts pos first (.inl (congrArg Except.ok none)) stream.symm left rfl
          (by simp [Progress.Dry, Except.map, none]) (by simp [Progress.Fails, Except.map])⟩
      · have missing : wanted - min wanted data.size = wanted - data.size := by omega
        rw [if_neg (by omega), missing]
        obtain ⟨played, fills⟩ := further (wanted - data.size)
          (delivered ++ Bytes.window data 0 wanted) (by omega)
        exact ⟨_, .cons pos next (Progress.not_halts_ok none) stream (by simp [entryBytes]) fills⟩

theorem length_flatMap_entryBytes (played : List (Except IoError ByteArray)) :
    (played.flatMap entryBytes).length = Progress.total (progress played) := by
  induction played with
  | nil => rfl
  | cons entry played ih =>
    rw [List.flatMap_cons, List.length_append, ih, progress_cons, Progress.total_cons,
      length_entryBytes]

/-- A read delivers what its entries deliver together, and no more than was wanted. -/
theorem Fills.size_eq (fills : Fills files file script wanted delivered played filled) :
    filled.data.size =
      delivered.size + min (Progress.total (progress played)) wanted := by
  rw [← Bytes.length_toList, fills.data_eq, List.length_append, List.length_take,
    length_flatMap_entryBytes, Bytes.length_toList, Nat.min_comm]

/-- A read delivers all that was wanted exactly if neither of the flags had to be set. -/
theorem Fills.whole_iff (fills : Fills files file script wanted delivered played filled) :
    filled.data.size = delivered.size + wanted ↔
      ¬ Progress.EndsWith Progress.Dry (progress played) ∧
        ¬ Progress.EndsWith Progress.Fails (progress played) := by
  rw [← not_or, ← Progress.endsWith_halts_iff, ← fills.course.total_lt_iff, fills.size_eq]
  omega

/-! ### Writing -/

/-- All that comes of a write of `data` from a position on, on a stream that plays a script. -/
structure Drains (files : σ) (file : OpenFile ς) (script : List (Except IoError Nat))
    (data : ByteArray) (taken : Nat) (played : List (Except IoError Nat)) (drained : Drained σ ς) :
    Prop where
  /-- Entries are played from the start of the script on. The end of the script is one as well, at
  which everything is taken. -/
  played_prefix : played <+: script ++ [.ok data.size]
  course : Progress.Course (data.size - taken) played
  /-- Each request passes on what was not taken before. -/
  passed : (drained.files, drained.file.stream) = afterWrites files file.stream
    ((Progress.totals played).map fun more => data.extract (taken + more) data.size)
  /-- The other entries are left. -/
  left : WritesFrom drained.files drained.file.stream (script.drop played.length)
  /-- What the entries take is counted, and is cut at the end. -/
  count_eq : drained.count = taken + min (Progress.total played) (data.size - taken)
  eof_eq : drained.file.eof = file.eof
  error_iff : drained.file.error ↔ file.error ∨ Progress.EndsWith Progress.Halts played

variable {script played : List (Except IoError Nat)} {entry : Except IoError Nat}
variable {data : ByteArray} {taken : Nat} {drained : Drained σ ς} {files' : σ}

/-- Where everything is taken, no entry is played. -/
theorem Drains.nothing (all : data.size ≤ taken) (writes : WritesFrom files file.stream script) :
    Drains files file script data taken [] { count := taken, files, file } where
  played_prefix := List.nil_prefix
  course := .nothing (Nat.sub_eq_zero_of_le all)
  passed := rfl
  left := writes
  count_eq := by simp [Progress.total]
  eof_eq := rfl
  error_iff := by simp [Progress.EndsWith]

/-- A write ends at an entry that halts it. -/
theorem Drains.of_halts (more : taken < data.size) (first : [entry] <+: script ++ [.ok data.size])
    (halts : Progress.Halts entry)
    (answered : (FileHost.write files file.stream (data.extract taken data.size)).2 =
      (files', after))
    (left : WritesFrom files' after (script.drop 1)) {failure : Option IoError} :
    Drains files file script data taken [entry]
      { count := taken, files := files', file := { file with stream := after, error := true }
        failure } where
  played_prefix := first
  course := .of_halts (Nat.sub_pos_of_lt more) halts
  passed := answered.symm
  left := left
  count_eq := by
    rw [Progress.total_cons, Progress.moved_of_halts halts]
    simp [Progress.total]
  eof_eq := rfl
  error_iff := by simp [Progress.endsWith_singleton, halts]

/-- An entry that does not halt a write is played before those that the rest of the write plays. -/
theorem Drains.cons (more : taken < data.size) (next : script[0]?.getD (.ok data.size) = entry)
    (goes_on : ¬ Progress.Halts entry)
    (answered : (FileHost.write files file.stream (data.extract taken data.size)).2 =
      (files', after))
    (rest : Drains files' { file with stream := after } (script.drop 1) data
      (taken + min (Progress.moved entry) (data.size - taken)) played drained) :
    Drains files file script data taken (entry :: played) drained := by
  have missing : data.size - (taken + min (Progress.moved entry) (data.size - taken)) =
      data.size - taken - Progress.moved entry := by omega
  have course := missing ▸ rest.course
  -- An entry that is cut is the last one, so there is nothing to pass on behind it.
  have last (cut : data.size - taken ≤ Progress.moved entry) : played = [] := by
    rw [Nat.sub_eq_zero_of_le cut] at course
    exact course.eq_nil
  have slices : (Progress.totals played).map (fun more =>
        data.extract (taken + min (Progress.moved entry) (data.size - taken) + more) data.size) =
      (Progress.totals played).map fun more =>
        data.extract (taken + (Progress.moved entry + more)) data.size := by
    rcases Nat.le_total (Progress.moved entry) (data.size - taken) with whole | cut
    · rw [Nat.min_eq_left whole]
      simp only [Nat.add_assoc]
    · rw [last cut]
      rfl
  have played_prefix : entry :: played <+: script ++ [.ok data.size] := by
    cases script with
    | nil =>
      obtain rfl : .ok data.size = entry := next
      rw [last (Nat.sub_le ..)]
      exact List.prefix_rfl
    | cons head script => exact List.cons_prefix_cons.mpr ⟨next.symm, rest.played_prefix⟩
  exact
    { played_prefix
      course := course.cons (Nat.sub_pos_of_lt more) goes_on
      passed := by
        rw [rest.passed, slices, Progress.totals_cons, List.map_cons, List.map_map, afterWrites,
          afterWrites, List.foldl_cons, Nat.add_zero, answered]
        rfl
      left := by
        rw [List.length_cons, Nat.add_comm, ← List.drop_drop]
        exact rest.left
      count_eq := by
        rw [rest.count_eq, Progress.total_cons]
        omega
      eof_eq := rest.eof_eq
      error_iff := by rw [rest.error_iff, Progress.endsWith_cons_iff goes_on] }

/-- At the end of a script, to take all of the data and to take all that is offered is the same. -/
theorem map_next_eq (script : List (Except IoError Nat)) {offered size : Nat}
    (le : offered ≤ size) :
    Except.map (min · offered) (script[0]?.getD (.ok offered)) =
      Except.map (min · offered) (script[0]?.getD (.ok size)) := by
  cases script with
  | nil => simp [Except.map, Nat.min_eq_right le]
  | cons entry script => rfl

/-- A write plays entries up to the first that completes it or halts it. -/
theorem drainFrom_plays {rounds : Nat} (writes : WritesFrom files file.stream script)
    (enough : data.size - taken + FileHost.writeDelays (σ := σ) file.stream ≤ rounds) :
    ∃ played, Drains files file script data taken played
      (drainFrom data rounds files file taken) := by
  induction rounds generalizing files file script taken with
  | zero => exact ⟨[], .nothing (by omega) writes⟩
  | succ rounds ih =>
    unfold drainFrom
    split
    · next all => exact ⟨[], .nothing all writes⟩
    next some =>
    have more := Nat.lt_of_not_le some
    have left := writes.tail (data.extract taken data.size)
    have fewer := FileHost.writeDelays_le files file.stream (data.extract taken data.size)
    have first := next_prefix script (.ok data.size)
    have answer : (FileHost.write files file.stream (data.extract taken data.size)).1 = _ :=
      writes [] (data.extract taken data.size)
    rw [List.length_nil, ByteArray.size_extract, Nat.min_self,
      map_next_eq script (Nat.sub_le data.size taken)] at answer
    rcases answered : FileHost.write files file.stream (data.extract taken data.size) with
      ⟨result, files', after⟩
    rw [answered] at answer left fewer
    have state := congrArg Prod.snd answered
    dsimp only at answer left fewer state
    generalize next : script[0]?.getD (.ok data.size) = entry at first answer
    subst answer
    -- A request that does not halt the write leaves the rest of the script to the others.
    have further (taken : Nat)
        (enough : data.size - taken + FileHost.writeDelays (σ := σ) after ≤ rounds) :
        ∃ played, Drains files' { file with stream := after } (script.drop 1) data taken played
          (drainFrom data rounds files' { file with stream := after } taken) := ih left enough
    cases entry with
    | error reason =>
      cases reason with
      | interrupted =>
        have less := FileHost.writeDelays_lt answered
        obtain ⟨played, drains⟩ := further taken (by omega)
        exact ⟨_, .cons more next Progress.not_halts_interrupted state drains⟩
      | _ => exact ⟨_, .of_halts more first (.inr ⟨_, rfl, by simp⟩) state left⟩
    | ok count =>
      dsimp only [Except.map]
      by_cases none : count = 0
      · rw [if_pos (by omega)]
        exact ⟨_, .of_halts more first (.inl (congrArg Except.ok none)) state left⟩
      · rw [if_neg (by omega)]
        obtain ⟨played, drains⟩ := further (taken + min count (data.size - taken)) (by omega)
        exact ⟨_, .cons more next (Progress.not_halts_ok none) state drains⟩

/-- A write is cut short exactly if its last entry halts it. -/
theorem Drains.count_lt_iff (le : taken ≤ data.size)
    (drains : Drains files file script data taken played drained) :
    drained.count < data.size ↔ Progress.EndsWith Progress.Halts played := by
  rw [← drains.course.total_lt_iff, drains.count_eq]
  omega

/-! ### Transfers as a whole -/

/-- A read as a whole. -/
theorem fill_plays {script : List (Except IoError ByteArray)} {wanted : Nat}
    (reads : ReadsFrom files file.stream script) :
    ∃ played, Fills files file script wanted .empty played (file.fill files wanted) ∧
      (file.fill files wanted).data.size = min (Progress.total (progress played)) wanted ∧
      ((file.fill files wanted).data.size = wanted ↔
        ¬ Progress.EndsWith Progress.Dry (progress played) ∧
          ¬ Progress.EndsWith Progress.Fails (progress played)) := by
  obtain ⟨played, fills⟩ : ∃ played, Fills files file script wanted .empty played
    (file.fill files wanted) := fillFrom_plays reads (Nat.le_refl _)
  have size := fills.size_eq
  have whole := fills.whole_iff
  rw [ByteArray.size_empty, Nat.zero_add] at size whole
  exact ⟨played, fills, size, whole⟩

/-- A write as a whole. -/
theorem drain_plays (writes : WritesFrom files file.stream script) :
    ∃ played, Drains files file script data 0 played (file.drain files data) ∧
      (file.drain files data).count = min (Progress.total played) data.size ∧
      ((file.drain files data).count < data.size ↔ Progress.EndsWith Progress.Halts played) ∧
      ((file.drain files data).file.error ↔
        file.error ∨ (file.drain files data).count < data.size) := by
  obtain ⟨played, drains⟩ : ∃ played, Drains files file script data 0 played
    (file.drain files data) := drainFrom_plays writes (by omega)
  have count := drains.count_eq
  rw [Nat.sub_zero, Nat.zero_add] at count
  have short := drains.count_lt_iff (Nat.zero_le _)
  exact ⟨played, drains, count, short, by rw [drains.error_iff, short]⟩

/-- A read of nothing asks for nothing. -/
theorem fill_zero (files : σ) (file : OpenFile ς) :
    file.fill files 0 = { data := .empty, file } :=
  fillFrom_of_done

/-- A write of nothing passes nothing on. -/
theorem drain_empty (files : σ) (file : OpenFile ς) :
    file.drain files .empty = { count := 0, files, file } :=
  drainFrom_of_done (Nat.le_of_eq ByteArray.size_empty)

/-- On a stream that plays a script, a read and a write play the entries up to the first that
completes them, moves nothing or fails for good, and leave the others. Each request of a read asks
for what is missing, and each request of a write passes on what was not taken before. What is
delivered lies one behind the other, and what is moved is counted. A read that ends at an entry
without bytes sets the flag for the end of the file, one that ends at an error sets the flag for
errors, and one that ends otherwise is complete and sets neither. A write sets the flag for errors
exactly if it is not complete. The bound on the number of requests never cuts a transfer short.
Where there is nothing to move, no request is made and nothing changes. -/
theorem transfers_play_scripts (files : σ) (file : OpenFile ς) :
    (∀ script wanted, ReadsFrom files file.stream script →
      ∃ played, Fills files file script wanted .empty played (file.fill files wanted) ∧
        (file.fill files wanted).data.size = min (Progress.total (progress played)) wanted ∧
        ((file.fill files wanted).data.size = wanted ↔
          ¬ Progress.EndsWith Progress.Dry (progress played) ∧
            ¬ Progress.EndsWith Progress.Fails (progress played))) ∧
      (∀ script data, WritesFrom files file.stream script →
        ∃ played, Drains files file script data 0 played (file.drain files data) ∧
          (file.drain files data).count = min (Progress.total played) data.size ∧
          ((file.drain files data).count < data.size ↔
            Progress.EndsWith Progress.Halts played) ∧
          ((file.drain files data).file.error ↔
            file.error ∨ (file.drain files data).count < data.size)) ∧
      (∀ wanted rounds, wanted + FileHost.readDelays (σ := σ) file.stream ≤ rounds →
        fillFrom files rounds file wanted .empty = file.fill files wanted) ∧
      (∀ data rounds, data.size + FileHost.writeDelays (σ := σ) file.stream ≤ rounds →
        drainFrom data rounds files file 0 = file.drain files data) ∧
      file.fill files 0 = { data := .empty, file } ∧
      file.drain files .empty = { count := 0, files, file } := by
  refine ⟨fun _ _ => fill_plays, fun _ _ => drain_plays, fun wanted rounds enough => ?_,
    fun data rounds enough => ?_, fill_zero files file, drain_empty files file⟩
  · exact fillFrom_eq_of_le files (Nat.le_refl _) enough
  · exact drainFrom_eq_of_le (by omega) enough

end OpenFile

/-! ### Scripts of a rehearsal -/

namespace Cue

/-- What a cue answers. -/
def answer {α : Type} : Cue α → Except IoError α
  | interrupted => .error .interrupted
  | broken => .error .broken
  | reply answer => .ok answer

theorem next_fst {α : Type} (usedUp : α) (cues : List (Cue α)) :
    (next usedUp cues).1 = (cues.map answer)[0]?.getD (.ok usedUp) := by
  match cues with
  | [] | interrupted :: _ | broken :: _ | reply _ :: _ => rfl

end Cue

namespace Rehearsal

theorem afterReads_scripted (r : Rehearsal) (s : Script) (counts : List Nat) :
    afterReads r (RehearsedStream.scripted s) counts =
      .scripted { s with reads := s.reads.drop counts.length } := by
  induction counts generalizing s with
  | nil => rfl
  | cons count counts ih =>
    rw [afterReads, List.foldl_cons, OpenFile.read_scripted]
    refine (ih _).trans ?_
    rw [List.drop_drop, List.length_cons, Nat.add_comm]

/-- A scripted stream plays its cues to reads. -/
theorem readsFrom_scripted (r : Rehearsal) (s : Script) :
    ReadsFrom r (RehearsedStream.scripted s) (s.reads.map Cue.answer) := by
  intro counts count
  rw [afterReads_scripted, OpenFile.read_scripted, Cue.next_fst, List.map_drop, List.getElem?_drop,
    Nat.add_zero]

theorem afterWrites_scripted (r : Rehearsal) (s : Script) (slices : List ByteArray) :
    afterWrites r (RehearsedStream.scripted s) slices =
      (r, .scripted { s with writes := s.writes.drop slices.length }) := by
  induction slices generalizing s with
  | nil => rfl
  | cons slice slices ih =>
    rw [afterWrites, List.foldl_cons, OpenFile.write_scripted]
    refine (ih _).trans ?_
    rw [List.drop_drop, List.length_cons, Nat.add_comm]

/-- A scripted stream plays its cues to writes. -/
theorem writesFrom_scripted (r : Rehearsal) (s : Script) :
    WritesFrom r (RehearsedStream.scripted s) (s.writes.map Cue.answer) := by
  intro slices slice
  rw [afterWrites_scripted, OpenFile.write_scripted, Cue.next_fst, List.map_drop,
    List.getElem?_drop, Nat.add_zero]

end Rehearsal

/-! ### Five bytes

A read of five bytes gets one, is interrupted, gets two more and then fails. A write of as many is
taken in two pieces, with more room at the end than there are bytes. -/

namespace FiveBytes

def file : OpenFile RehearsedStream :=
  { stream := .scripted
      { reads := [.reply ⟨#[1]⟩, .interrupted, .reply ⟨#[2, 3]⟩, .broken]
        writes := [.reply 3, .interrupted, .reply 7, .broken] } }

def data : ByteArray := ⟨#[1, 2, 3, 4, 5]⟩

end FiveBytes

/-- The read fails with three bytes, and the write is complete. -/
theorem OpenFile.transfers_play_scripts_fiveBytes :
    (∃ played, Fills ({} : Rehearsal) FiveBytes.file
        [.ok ⟨#[1]⟩, .error .interrupted, .ok ⟨#[2, 3]⟩, .error .broken] 5 .empty played
        (FiveBytes.file.fill ({} : Rehearsal) 5)) ∧
      (FiveBytes.file.fill ({} : Rehearsal) 5).data = ⟨#[1, 2, 3]⟩ ∧
      (FiveBytes.file.fill ({} : Rehearsal) 5).file.error ∧
      (∃ played, Drains ({} : Rehearsal) FiveBytes.file
        [.ok 3, .error .interrupted, .ok 7, .error .broken] FiveBytes.data 0 played
        (FiveBytes.file.drain ({} : Rehearsal) FiveBytes.data)) ∧
      (FiveBytes.file.drain ({} : Rehearsal) FiveBytes.data).count = 5 := by
  obtain ⟨reads, writes, -⟩ := OpenFile.transfers_play_scripts ({} : Rehearsal) FiveBytes.file
  obtain ⟨played, fills, -⟩ := reads _ 5 (Rehearsal.readsFrom_scripted _ _)
  obtain ⟨played', drains, -⟩ := writes _ FiveBytes.data (Rehearsal.writesFrom_scripted _ _)
  exact ⟨⟨played, fills⟩, by decide +kernel, by decide +kernel, ⟨played', drains⟩,
    by decide +kernel⟩

end Semihosting
