import Semihosting.Proofs.Handles

/-!
# What a call does to the stream of a handle

A handle keeps its open file until a call names it. Then bytes are read from the stream or written
to it, the stream moves, or another one takes its place. This module says for any host what becomes
of the open file; what it means for its flags and for the content is a matter of the host.

## Main definitions

* `Turn.Renews` — the call opens a stream under the handle
* `Turn.Rewinds` — the call moves the stream of the handle
* `Turn.Pulls`, `Turn.Pushes` — the call reads bytes from the stream, or writes bytes to it
* `Turn.HandleStep` — all that a call can make of an open file

## Main results

* `Turn.handleStep` — every call makes that of every handle that has a stream afterwards
-/

namespace Semihosting.Turn

variable {σ ς : Type} [FileHost σ ς] {x : Turn σ ς} {t : StreamTable ς} {w : Word}
variable {rest : List (Handler ς)} {file' : OpenFile ς}

/-! ### Calls on a handle -/

/-- The call opens a stream under the handle: the handle is handed out, or reopened with
success. -/
def Renews (x : Turn σ ς) (w : Word) : Prop :=
  x.opened? = some w ∨ x.service? = some .freopen ∧ x.arg 2 = w ∧ x.result? = some w

/-- The call moves the stream of the handle, with success. -/
def Rewinds (x : Turn σ ς) (w : Word) : Prop :=
  x.service? = some .fseek ∧ x.arg 0 = w ∧ x.result? = some 0

/-- The call asks the stream of the handle for some bytes, one or as many as the transfer is
long. -/
def Pulls (x : Turn σ ς) (w : Word) (count : Nat) : Prop :=
  x.service? = some .fgetc ∧ x.arg 0 = w ∧ count = 1 ∨
    x.service? = some .fread ∧ x.arg 3 = w ∧ count = x.length ∧ 0 < x.length ∧
      x.length ≤ StreamTable.transferLimit

/-- The call offers the stream of the handle some bytes of guest memory. -/
def Pushes (x : Turn σ ς) (w : Word) (data : ByteArray) : Prop :=
  x.service? = some .fwrite ∧ x.arg 3 = w ∧ 0 < x.length ∧ x.length ≤ StreamTable.transferLimit ∧
    x.memory.Holds (x.arg 0) x.length ∧
    data = Bytes.window x.memory.bytes (x.arg 0).toNat x.length

/-- The call does none of this. -/
structure Quiet (x : Turn σ ς) (w : Word) : Prop where
  renews : ¬ x.Renews w
  rewinds : ¬ x.Rewinds w
  pulls : ∀ count, ¬ x.Pulls w count
  pushes : ∀ data, ¬ x.Pushes w data

/-- All that a call can make of the open file of a handle. -/
inductive HandleStep (x : Turn σ ς) (w : Word) : Option (OpenFile ς) → OpenFile ς → Prop
  /-- There is a new stream, with both flags clear. -/
  | renewed {before : Option (OpenFile ς)} {files : σ} {stream : ς} (renews : x.Renews w)
      (grant : x.granted? = some (files, stream)) : HandleStep x w before { stream }
  /-- The open file stays as it is. -/
  | kept {file : OpenFile ς} (quiet : x.Quiet w) : HandleStep x w (some file) file
  /-- The stream was asked where it is, or has refused to move. -/
  | told {file : OpenFile ς} {seek : Seek} (quiet : x.Quiet w) :
      HandleStep x w (some file)
        { file with stream := (FileHost.seek x.host.files file.stream seek).2 }
  /-- The stream has moved and is no longer at the end of its file. -/
  | rewound {file : OpenFile ς} {seek : Seek} (rewinds : x.Rewinds w) :
      HandleStep x w (some file)
        { file with stream := (FileHost.seek x.host.files file.stream seek).2, eof := false }
  | filled {file : OpenFile ς} {count : Nat} (pulls : x.Pulls w count) :
      HandleStep x w (some file) (file.fill x.host.files count).file
  | drained {file : OpenFile ς} {data : ByteArray} (pushes : x.Pushes w data) :
      HandleStep x w (some file) (file.drain x.host.files data).file

/-! ### Which calls do what -/

theorem Renews.service (h : x.Renews w) :
    x.service? = some .fopen ∨ x.service? = some .freopen := by
  rcases h with handed | ⟨hs, -, -⟩
  · by_cases hs : x.service? = some .fopen
    · exact Or.inl hs
    · rw [opened?_of_ne hs] at handed
      cases handed
  · exact Or.inr hs

omit [FileHost σ ς] in
theorem Pulls.service {count : Nat} (h : x.Pulls w count) :
    x.service? = some .fgetc ∨ x.service? = some .fread := by
  rcases h with ⟨hs, -, -⟩ | ⟨hs, -, -⟩
  · exact Or.inl hs
  · exact Or.inr hs

theorem Renews.not_pulls {v : Word} {count : Nat} (h : x.Renews w) : ¬ x.Pulls v count := by
  intro pulls
  rcases pulls.service with hs | hs
  · rcases h.service with hs' | hs' <;> simp [hs] at hs'
  · rcases h.service with hs' | hs' <;> simp [hs] at hs'

theorem Renews.not_pushes {v : Word} {data : ByteArray} (h : x.Renews w) : ¬ x.Pushes v data := by
  intro pushes
  rcases h.service with hs | hs <;> simp [pushes.1] at hs

theorem Renews.not_rewinds {v : Word} (h : x.Renews w) : ¬ x.Rewinds v := by
  intro rewinds
  rcases h.service with hs | hs <;> simp [rewinds.1] at hs

theorem Rewinds.not_pulls {v : Word} {count : Nat} (h : x.Rewinds w) : ¬ x.Pulls v count := by
  intro pulls
  rcases pulls.service with hs | hs <;> simp [h.1] at hs

theorem Rewinds.not_pushes {v : Word} {data : ByteArray} (h : x.Rewinds w) :
    ¬ x.Pushes v data := by
  intro pushes
  have hs := pushes.1
  simp [h.1] at hs

omit [FileHost σ ς] in
theorem Pulls.not_pushes {v : Word} {count : Nat} {data : ByteArray} (h : x.Pulls w count) :
    ¬ x.Pushes v data := by
  intro pushes
  rcases h.service with hs | hs <;> simp [pushes.1] at hs

omit [FileHost σ ς] in
/-- A call asks for one number of bytes. -/
theorem Pulls.unique {count count' : Nat} (h : x.Pulls w count) (h' : x.Pulls w count') :
    count = count' := by
  rcases h with ⟨hs, -, rfl⟩ | ⟨hs, -, rfl, -, -⟩
  · rcases h' with ⟨-, -, rfl⟩ | ⟨hs', -⟩
    · rfl
    · simp [hs] at hs'
  · rcases h' with ⟨hs', -⟩ | ⟨-, -, rfl, -, -⟩
    · simp [hs] at hs'
    · rfl

omit [FileHost σ ς] in
theorem Pulls.pos {count : Nat} (h : x.Pulls w count) : 0 < count := by
  rcases h with ⟨-, -, rfl⟩ | ⟨-, -, rfl, pos, -⟩
  · exact Nat.one_pos
  · exact pos

omit [FileHost σ ς] in
/-- The bytes that are offered are as many as the transfer is long. -/
theorem Pushes.size_eq {data : ByteArray} (h : x.Pushes w data) : data.size = x.length := by
  obtain ⟨-, -, -, -, held, rfl⟩ := h
  exact held.size_window

omit [FileHost σ ς] in
theorem Pushes.unique {data data' : ByteArray} (h : x.Pushes w data) (h' : x.Pushes w data') :
    data = data' := by
  obtain ⟨-, -, -, -, -, rfl⟩ := h
  obtain ⟨-, -, -, -, -, rfl⟩ := h'
  rfl

/-- A handle that is neither named nor handed out is left in peace. -/
theorem quiet_of_unnamed (unnamed : x.request.handle? ≠ some w) (other : x.opened? ≠ some w) :
    x.Quiet w where
  renews := by
    rintro (handed | ⟨hs, rfl, -⟩)
    · exact other handed
    · exact unnamed (handle?_eq hs)
  rewinds := by
    rintro ⟨hs, rfl, -⟩
    exact unnamed (handle?_eq hs)
  pulls := by
    rintro count (⟨hs, rfl, -⟩ | ⟨hs, rfl, -⟩)
    · exact unnamed (handle?_eq hs)
    · exact unnamed (handle?_eq hs)
  pushes := by
    rintro data ⟨hs, rfl, -⟩
    exact unnamed (handle?_eq hs)

/-- A call can do to a handle only what its service is for. -/
theorem quiet_of {service : Service} (hs : x.service? = some service)
    (renews : service = .fopen ∨ service = .freopen → ¬ x.Renews w)
    (rewinds : service = .fseek → ¬ x.Rewinds w)
    (pulls : service = .fgetc ∨ service = .fread → ∀ count, ¬ x.Pulls w count)
    (pushes : service = .fwrite → ∀ data, ¬ x.Pushes w data) : x.Quiet w where
  renews renewed := renews (by simpa [hs] using renewed.service) renewed
  rewinds rewound := rewinds (by simpa [hs] using rewound.1) rewound
  pulls count pulled := pulls (by simpa [hs] using pulled.service) count pulled
  pushes data pushed := pushes (by simpa [hs] using pushed.1) data pushed

/-- A call for another service leaves every handle in peace. -/
theorem quiet_of_service {service : Service} (hs : x.service? = some service)
    (other : service ∉ [.fopen, .freopen, .fseek, .fgetc, .fread, .fwrite]) : x.Quiet w := by
  simp only [List.mem_cons, List.not_mem_nil, or_false, not_or] at other
  obtain ⟨fopen, freopen, fseek, fgetc, fread, fwrite⟩ := other
  exact quiet_of hs (fun asked => (asked.elim fopen freopen).elim) (fun asked => (fseek asked).elim)
    (fun asked => (asked.elim fgetc fread).elim) (fun asked => (fwrite asked).elim)

/-! ### One service after the other -/

section Streams

variable (h : x.debugger.handlers = .streams t :: rest)

theorem handleStep_of_fread (hs : x.service? = some .fread)
    (found : (t.fread x.request.number (x.arg 0) (x.arg 1) (x.arg 2) (x.arg 3) x.memory
      x.host).handler.get? (x.arg 3) = some file') :
    x.HandleStep (x.arg 3) (t.get? (x.arg 3)) file' := by
  have quiet (idle : x.length = 0 ∨ StreamTable.transferLimit < x.length) : x.Quiet (x.arg 3) := by
    refine quiet_of hs (by simp) (by simp) (fun _ count pulls => ?_) (by simp)
    rcases pulls with ⟨other, -, -⟩ | ⟨-, -, -, pos, small⟩
    · simp [hs] at other
    · omega
  rcases t.transfer_cases (x.arg 1) (x.arg 2) (x.arg 3) with
    large | ⟨small, idle⟩ | ⟨file, live, pos, small⟩
  · rw [StreamTable.fread_of_large large, Answer.refusal] at found
    rw [found]
    exact .kept (quiet (Or.inr large))
  · rw [StreamTable.fread_of_idle small idle, Answer.idle] at found
    rw [found]
    rcases idle with none | dead
    · exact .kept (quiet (Or.inl none))
    · rw [dead] at found
      cases found
  · rw [StreamTable.fread_of_live pos small live] at found
    dsimp only at found
    -- The stream has moved on whether or not its items could be stored.
    have filled : file' = (file.fill x.host.files x.length).file := by
      split at found
      · rw [StreamTable.get?_put, if_pos rfl] at found
        exact (Option.some.inj found).symm
      · rw [StreamTable.get?_put, if_pos rfl] at found
        exact (Option.some.inj found).symm
    rw [live, filled]
    exact .filled (Or.inr ⟨hs, rfl, rfl, pos, small⟩)

theorem handleStep_of_fgetc (hs : x.service? = some .fgetc)
    (found : (t.fgetc (x.arg 0) x.memory x.host).handler.get? (x.arg 0) = some file') :
    x.HandleStep (x.arg 0) (t.get? (x.arg 0)) file' := by
  cases live : t.get? (x.arg 0) with
  | none =>
    rw [StreamTable.fgetc_of_dead live, Answer.idle, live] at found
    cases found
  | some file =>
    rw [StreamTable.fgetc_of_live live, StreamTable.get?_put, if_pos rfl] at found
    rw [← Option.some.inj found]
    exact .filled (Or.inl ⟨hs, rfl, rfl⟩)

theorem handleStep_of_fwrite (hs : x.service? = some .fwrite)
    (found : (t.fwrite x.request.number (x.arg 0) (x.arg 1) (x.arg 2) (x.arg 3) x.memory
      x.host).handler.get? (x.arg 3) = some file') :
    x.HandleStep (x.arg 3) (t.get? (x.arg 3)) file' := by
  have quiet (idle : x.length = 0 ∨ StreamTable.transferLimit < x.length ∨
      ¬ x.memory.Holds (x.arg 0) x.length) : x.Quiet (x.arg 3) := by
    refine quiet_of hs (by simp) (by simp) (by simp) fun _ data pushes => ?_
    obtain ⟨-, -, pos, small, held, -⟩ := pushes
    rcases idle with none | large | outside
    · omega
    · omega
    · exact outside held
  rcases t.transfer_cases (x.arg 1) (x.arg 2) (x.arg 3) with
    large | ⟨small, idle⟩ | ⟨file, live, pos, small⟩
  · rw [StreamTable.fwrite_of_large large, Answer.refusal] at found
    rw [found]
    exact .kept (quiet (Or.inr (Or.inl large)))
  · rw [StreamTable.fwrite_of_idle small idle, Answer.idle] at found
    rw [found]
    rcases idle with none | dead
    · exact .kept (quiet (Or.inl none))
    · rw [dead] at found
      cases found
  · by_cases held : x.memory.Holds (x.arg 0) x.length
    · rw [StreamTable.fwrite_of_held pos small live held, StreamTable.get?_put, if_pos rfl] at found
      rw [live, ← Option.some.inj found]
      exact .drained ⟨hs, rfl, pos, small, held, rfl⟩
    · rw [StreamTable.fwrite_of_outside pos small live held, Answer.refusal] at found
      rw [found]
      exact .kept (quiet (Or.inr (Or.inr held)))

theorem handleStep_of_ftell (hs : x.service? = some .ftell)
    (found : (t.ftell (x.arg 0) x.memory x.host).handler.get? (x.arg 0) = some file') :
    x.HandleStep (x.arg 0) (t.get? (x.arg 0)) file' := by
  have quiet : x.Quiet (x.arg 0) := quiet_of_service hs (by decide)
  cases live : t.get? (x.arg 0) with
  | none =>
    rw [StreamTable.ftell_of_dead live, Answer.idle, live] at found
    cases found
  | some file =>
    rw [StreamTable.ftell_of_live live, StreamTable.get?_put, if_pos rfl] at found
    rw [← Option.some.inj found]
    exact .told quiet

include h

theorem handleStep_of_fseek (hs : x.service? = some .fseek)
    (found : (t.fseek (x.arg 0) (x.arg 1) (x.arg 2) x.memory x.host).handler.get? (x.arg 0) =
      some file') :
    x.HandleStep (x.arg 0) (t.get? (x.arg 0)) file' := by
  have result := result?_eq (answer?_of_streams h (react?_of_service hs))
  -- A call that has not moved its stream says so.
  have quiet (still : x.result? = some StreamTable.failure) : x.Quiet (x.arg 0) := by
    refine quiet_of hs (by simp) (fun _ rewinds => ?_) (by simp) (by simp)
    have moved := rewinds.2.2
    rw [still] at moved
    exact absurd (Option.some.inj moved) (by decide)
  cases live : t.get? (x.arg 0) with
  | none =>
    rw [StreamTable.fseek_of_dead live, Answer.idle, live] at found
    cases found
  | some file =>
    cases asked : StreamTable.seek? (x.arg 1) (x.arg 2) with
    | none =>
      rw [StreamTable.fseek_of_misput asked] at found result
      rw [Answer.idle, live] at found
      rw [← Option.some.inj found]
      exact .kept (quiet result)
    | some seek =>
      rw [StreamTable.fseek_of_live live asked] at found result
      rcases moved : FileHost.seek x.host.files file.stream seek with ⟨reason | position, stream⟩
      · obtain rfl : (FileHost.seek x.host.files file.stream seek).2 = stream := by rw [moved]
        rw [moved] at found result
        rw [StreamTable.get?_put, if_pos rfl] at found
        rw [← Option.some.inj found]
        exact .told (quiet result)
      · obtain rfl : (FileHost.seek x.host.files file.stream seek).2 = stream := by rw [moved]
        rw [moved] at found result
        rw [StreamTable.get?_put, if_pos rfl] at found
        rw [← Option.some.inj found]
        exact .rewound ⟨hs, rfl, result⟩

theorem handleStep_of_freopen (hs : x.service? = some .freopen)
    (found : (t.freopen (x.arg 0) (x.arg 1) (x.arg 2) x.memory x.host).handler.get? (x.arg 2) =
      some file') :
    x.HandleStep (x.arg 2) (t.get? (x.arg 2)) file' := by
  have result := result?_eq (answer?_of_streams h (react?_of_service hs))
  -- Without a result no stream was opened under the handle.
  have quiet (none : x.result? = none) : x.Quiet (x.arg 2) := by
    refine quiet_of hs (fun _ renews => ?_) (by simp) (by simp) (by simp)
    rcases renews with handed | ⟨-, -, reopened⟩
    · rw [opened?_of_named (handle?_eq hs)] at handed
      cases handed
    · rw [none] at reopened
      cases reopened
  rcases x.memory.holdsStrings_or_lacksStrings (x.arg 0) (x.arg 1) with strings | ⟨fault, lacks⟩
  · cases live : t.get? (x.arg 2) with
    | none =>
      rw [StreamTable.freopen_of_dead strings live, Answer.idle, live] at found
      cases found
    | some file =>
      cases grant : x.granted? with
      | none =>
        obtain ⟨event, denied⟩ := StreamTable.freopen_of_denied strings live grant
        rw [denied, StreamTable.get?_close, if_pos rfl] at found
        cases found
      | some opened =>
        obtain ⟨files, stream⟩ := opened
        rw [StreamTable.freopen_of_grant live grant] at found result
        rw [StreamTable.get?_put, if_pos rfl] at found
        rw [← Option.some.inj found]
        exact .renewed (Or.inr ⟨hs, rfl, result⟩) grant
  · rw [StreamTable.freopen_of_lacks lacks] at found result
    rw [Answer.refusal] at found
    rw [found]
    exact .kept (quiet result)

/-- A call that names a handle with a stream makes one of these of it. -/
theorem handleStep_of_named (named : x.request.handle? = some w)
    (found : x.after.debugger.table.get? w = some file') : x.HandleStep w (t.get? w) file' := by
  cases hs : x.service? with
  | none =>
    have hr : x.request.service? = none := hs
    simp [Request.handle?, hr] at named
  | some service =>
    rw [handle?_eq hs] at named
    have hact := react?_of_service (t := t) hs
    -- The table after the call is the one that the service leaves behind.
    have table {act : Reaction (StreamTable ς) σ} (hact : t.react? x.request = some act) :
        x.after.debugger.table = (act x.memory x.host).handler :=
      Debugger.table_eq (handlers_after (answer?_of_streams h hact))
    cases service with
    | freopen =>
      cases named
      rw [table hact] at found
      exact handleStep_of_freopen h hs found
    | fread =>
      cases named
      rw [table hact] at found
      exact handleStep_of_fread hs found
    | fwrite =>
      cases named
      rw [table hact] at found
      exact handleStep_of_fwrite hs found
    | fgetc =>
      cases named
      rw [table hact] at found
      exact handleStep_of_fgetc hs found
    | ftell =>
      cases named
      rw [table hact] at found
      exact handleStep_of_ftell hs found
    | fseek =>
      cases named
      rw [table hact] at found
      exact handleStep_of_fseek h hs found
    | fclose =>
      cases named
      rw [table hact, StreamTable.fclose, StreamTable.get?_close, if_pos rfl] at found
      cases found
    | feof | ferror =>
      cases named
      rw [table hact, StreamTable.flag] at found
      rw [found]
      exact .kept (quiet_of_service hs (by decide))
    | _ => cases named

/-- Every call makes one of these of every handle that has a stream afterwards. -/
theorem handleStep (found : x.after.debugger.table.get? w = some file') :
    x.HandleStep w (t.get? w) file' := by
  by_cases named : x.request.handle? = some w
  · exact handleStep_of_named h named found
  · obtain ⟨t', rest', h', step⟩ := exists_tableStep h
    rw [Debugger.table_eq h'] at found
    by_cases handed : x.opened? = some w
    · cases step with
      | same unopened idle =>
        rw [unopened] at handed
        cases handed
      | @opened files stream next grant =>
        obtain rfl : t.next = w := Option.some.inj (next.symm.trans handed)
        have put : (t.put t.next { stream }).get? t.next = some file' := found
        rw [StreamTable.get?_put, if_pos rfl] at put
        rw [← Option.some.inj put]
        exact .renewed (Or.inl handed) grant
      | replaced named live stays =>
        rw [opened?_of_named named] at handed
        cases handed
      | closed live ends =>
        rw [opened?_of_named ends.named] at handed
        cases handed
    · rw [step.get?_eq named handed] at found
      rw [found]
      exact .kept (quiet_of_unnamed named handed)

end Streams

end Semihosting.Turn
