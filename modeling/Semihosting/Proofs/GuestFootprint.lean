import Semihosting.Proofs.InputDelivery

/-!
# What a serviced call changes in the guest

A call that ends well leaves its result in one register. Two services leave something in guest
memory besides: a read from a stream stores the whole items that it got, and a call for input stores
a piece of the input and the length of the piece. All other registers and all other bytes of memory
stay as they were.

## Main definitions

* `Memory.KeepsOutside` — two memories that differ in some windows at most
* `Request.stores` — the windows that a call with a given result stores to

## Main results

* `Handler.keepsOutside_react?` — each handler stores to these windows only
* `Turn.changes_only_stores` — what a call that ends well changes in the machine
-/

namespace Semihosting

/-! ### Memories that differ in some windows -/

namespace Memory

variable {l m n : Memory} {a : Word} {length : Nat} {data : ByteArray}
variable {windows : List (Word × Nat)}

/-- The address lies in one of the windows. -/
def Within (windows : List (Word × Nat)) (i : Nat) : Prop :=
  ∃ window ∈ windows, window.1.toNat ≤ i ∧ i < window.1.toNat + window.2

/-- Two memories of one size have the same bytes outside some windows. -/
structure KeepsOutside (m n : Memory) (windows : List (Word × Nat)) : Prop where
  size_eq : n.size = m.size
  getElem?_eq : ∀ i, ¬ Within windows i → n.bytes[i]? = m.bytes[i]?

theorem KeepsOutside.of_eq (h : n = m) : m.KeepsOutside n windows := by
  subst h
  exact ⟨rfl, fun _ _ => rfl⟩

theorem KeepsOutside.trans (first : l.KeepsOutside m windows)
    (second : m.KeepsOutside n windows) : l.KeepsOutside n windows :=
  ⟨second.size_eq.trans first.size_eq,
    fun i outside => (second.getElem?_eq i outside).trans (first.getElem?_eq i outside)⟩

/-- A store stays within a window that is long enough for it. -/
theorem KeepsOutside.of_store (h : m.store a data = .ok n) (there : (a, data.size) ∈ windows) :
    m.KeepsOutside n windows := by
  refine ⟨size_of_store h, fun i outside => ?_⟩
  obtain ⟨inside, bytes⟩ := store_eq_ok_iff.mp h
  rw [Memory.size] at inside
  have other : ¬ (a.toNat ≤ i ∧ i < a.toNat + data.size) := fun covered =>
    outside ⟨_, there, covered⟩
  rw [bytes, Bytes.getElem?_overlay (by omega), if_neg other]

end Memory

/-! ### Windows that a call stores to -/

/-- The windows in which a delivery of input leaves something. The length of the piece is the word
that it has left. -/
def InputFeed.stores (buffer length result : Word) (after : Memory) : List (Word × Nat) :=
  if result = 0 then
    [(buffer, (Bytes.toWord (Bytes.window after.bytes length.toNat 8)).toNat), (length, 8)]
  else if result = 1 then [(length, 8)]
  else []

/-- The windows in which a call with this result leaves something in memory. -/
def Request.stores (r : Request) (result : Word) (after : Memory) : List (Word × Nat) :=
  match r.service? with
  | some .fread => [(r.arg 0, result.toNat * (r.arg 1).toNat)]
  | some .readStream => InputFeed.stores (r.arg 0) (r.arg 1) result after
  | _ => []

/-! ### Streams -/

namespace StreamTable

variable {σ ς : Type} [FileHost σ ς] {t : StreamTable ς} {memory : Memory} {host : Host σ}
variable {number address size count handle result : Word}

/-- Of the bytes that a stream delivers, the whole items are stored. -/
theorem size_items (host : Host σ) (file : OpenFile ς) (size count : Word) :
    (items host file size count).size =
      (file.fill host.files (size.toNat * count.toNat)).data.size / size.toNat * size.toNat := by
  have le := Nat.div_mul_le_self
    (file.fill host.files (size.toNat * count.toNat)).data.size size.toNat
  rw [items, Bytes.size_window]
  omega

/-- No more is delivered than was asked for, so the number of whole items fits in the result. -/
theorem toNat_items (host : Host σ) (file : OpenFile ς)
    (small : size.toNat * count.toNat ≤ transferLimit) :
    (UInt64.ofNat
        ((file.fill host.files (size.toNat * count.toNat)).data.size / size.toNat)).toNat =
      (file.fill host.files (size.toNat * count.toNat)).data.size / size.toNat := by
  have few := Nat.div_le_self (file.fill host.files (size.toNat * count.toNat)).data.size size.toNat
  have le := OpenFile.size_fill_le host.files file (size.toNat * count.toNat)
  rw [transferLimit] at small
  exact UInt64.toNat_ofNat_of_lt' (by rw [UInt64.size]; omega)

/-- A read stores as many items as its result says. -/
theorem keepsOutside_fread
    (ok : (t.fread number address size count handle memory host).outcome = .ok result) :
    memory.KeepsOutside (t.fread number address size count handle memory host).memory
      [(address, result.toNat * size.toNat)] := by
  -- Too much is asked for, or nothing is to be had, or an open file is read.
  rcases t.transfer_cases size count handle with
    large | ⟨small, idle⟩ | ⟨file, live, pos, small⟩
  · rw [fread_of_large large] at ok
    cases ok
  · rw [fread_of_idle small idle]
    exact .of_eq rfl
  · rw [fread_of_live pos small live] at ok ⊢
    dsimp only at ok ⊢
    split at ok
    · next stored =>
      obtain rfl := Except.ok.inj ok
      refine .of_store stored ?_
      rw [toNat_items host file small, ← size_items host]
      exact List.mem_singleton_self _
    · cases ok

/-- No other service on streams stores anything. -/
theorem memory_react? {r : Request} {act : Reaction (StreamTable ς) σ}
    (hact : t.react? r = some act) (hs : r.service? ≠ some .fread) :
    (act memory host).memory = memory := by
  -- One case for each service. A service may look at memory, but however it ends, it answers with
  -- the memory that it was given.
  unfold react? at hact
  split at hact
  · cases hact
    unfold fopen
    split
    · rfl
    · rfl
    · split <;> rfl
  · cases hact
    unfold freopen
    split
    · rfl
    · rfl
    · split
      · rfl
      · split <;> rfl
  · next read => exact absurd read hs
  · cases hact
    rfl
  · cases hact
    rfl
  · cases hact
    unfold fgetc
    split <;> rfl
  · cases hact
    rfl
  · cases hact
    unfold ftell
    split <;> rfl
  · cases hact
    unfold fseek
    split
    · rfl
    · rfl
    · split <;> rfl
  · cases hact
    unfold fwrite
    split
    · rfl
    · rfl
    · rfl
    · split <;> rfl
  · cases hact

end StreamTable

/-! ### Input -/

/-- A delivery of input stores the piece and its length. -/
theorem InputFeed.keepsOutside_deliver {σ : Type} {f : InputFeed} {buffer length result : Word}
    {memory : Memory} {host : Host σ}
    (ok : (f.deliver buffer length memory host).outcome = .ok result) :
    memory.KeepsOutside (f.deliver buffer length memory host).memory
      (stores buffer length result (f.deliver buffer length memory host).memory) := by
  cases given : f.content with
  | none =>
    have missing : (f.deliver buffer length memory host).memory = memory := by
      simp only [deliver, given]
    exact .of_eq missing
  | some content =>
    rcases f.deliver_cases given buffer length memory host with
      ⟨fault, refused⟩ | ⟨used_up, left, told, idle⟩ |
        ⟨some_left, capacity, filled, left, count, read, counted, stored, told, delivered⟩
    · rw [refused] at ok
      cases ok
    · rw [idle] at ok ⊢
      obtain rfl := Except.ok.inj ok
      exact .of_store told (List.mem_singleton_self _)
    · rw [delivered] at ok ⊢
      obtain rfl := Except.ok.inj ok
      -- The length that is left is that of the piece.
      have found := (Memory.loadWord_eq_ok_iff.mp (Memory.loadWord_of_storeWord told)).2
      have small : (UInt64.ofNat count).toNat = count := by
        have := capacity.toNat_lt
        exact UInt64.toNat_ofNat_of_lt' (by rw [UInt64.size]; omega)
      have size : (Bytes.window content f.offset count).size = count := by
        rw [Bytes.size_window]
        omega
      dsimp only
      rw [stores, if_pos rfl, ← found, small]
      -- The two windows may overlap. The length is stored last, so it is what is found there.
      refine .trans (.of_store stored ?_) (.of_store told ?_)
      · rw [size]
        exact List.mem_cons_self
      · exact List.mem_cons_of_mem _ (List.mem_singleton_self _)

/-! ### All handlers -/

variable {σ ς : Type} [FileHost σ ς]

/-- A handler that answers a call stores to the windows of the call only. -/
theorem Handler.keepsOutside_react? {h : Handler ς} {r : Request} {act : Reaction (Handler ς) σ}
    {memory : Memory} {host : Host σ} {result : Word} (hact : h.react? r = some act)
    (ok : (act memory host).outcome = .ok result) :
    memory.KeepsOutside (act memory host).memory (r.stores result (act memory host).memory) := by
  cases h with
  | streams t =>
    obtain ⟨act, reacts, rfl⟩ := Option.map_eq_some_iff.mp hact
    by_cases hs : r.service? = some .fread
    · simp only [StreamTable.react?, hs, Option.some.injEq] at reacts
      subst reacts
      rw [Request.stores, hs]
      exact StreamTable.keepsOutside_fread ok
    · exact .of_eq (StreamTable.memory_react? reacts hs)
  | input f =>
    obtain ⟨act, reacts, rfl⟩ := Option.map_eq_some_iff.mp hact
    unfold InputFeed.react? at reacts
    split at reacts
    · next hs =>
      cases reacts
      rw [Request.stores, hs]
      exact InputFeed.keepsOutside_deliver ok
    · cases reacts
  | console c =>
    obtain ⟨act, reacts, rfl⟩ := Option.map_eq_some_iff.mp hact
    refine .of_eq ?_
    unfold Console.react? at reacts
    split at reacts
    · cases reacts
      rw [Reaction.map, Answer.map, Console.write]
      split
      · split <;> rfl
      · rfl
    · cases reacts
      rfl
    · cases reacts
      rfl
    · cases reacts
  | saver =>
    obtain ⟨-, ⟨⟩⟩ := Option.ite_none_right_eq_some.mp hact
    refine .of_eq ?_
    unfold saveFile
    split
    · rfl
    · rfl
    · dsimp only
      split <;> rfl
  | entropy | clock | stub =>
    obtain ⟨-, ⟨⟩⟩ := Option.ite_none_right_eq_some.mp hact
    exact .of_eq rfl

namespace Turn

variable {x : Turn σ ς} {call : Call}

/-- A call that ends well was answered by a handler, with a result. -/
theorem exists_answer_of_ok (ok : x.serviced.outcome = .ok call) :
    ∃ answer, x.answer? = some answer ∧ answer.outcome = .ok call.result := by
  cases found : x.answer? with
  | none =>
    rw [serviced_of_none found] at ok
    cases ok
  | some answer =>
    cases ended : answer.outcome with
    | error fault =>
      rw [serviced_of_error found ended] at ok
      cases ok
    | ok result =>
      rw [serviced_of_ok found ended] at ok
      obtain rfl := Except.ok.inj ok
      exact ⟨answer, rfl, ended⟩

/-- A call that ends well leaves its result in one register and stores to its own windows of memory.
Every other register, the size of memory and all other bytes are what they were. -/
theorem changes_only_stores (ok : x.serviced.outcome = .ok call) :
    x.serviced.machine.registers.get .a0 = call.result ∧
      x.serviced.machine.registers.get .zero = 0 ∧
      (∀ register, register ≠ .a0 →
        x.serviced.machine.registers.get register = x.machine.registers.get register) ∧
      x.serviced.machine.memory.size = x.memory.size ∧
      ∀ i, ¬ Memory.Within (x.request.stores call.result x.serviced.machine.memory) i →
        x.serviced.machine.memory.bytes[i]? = x.memory.bytes[i]? := by
  obtain ⟨answer, found, ended⟩ := exists_answer_of_ok ok
  have registers : x.serviced.machine.registers = x.machine.registers.set .a0 call.result := by
    rw [serviced_of_ok found ended]
  have kept : x.memory.KeepsOutside x.serviced.machine.memory
      (x.request.stores call.result x.serviced.machine.memory) := by
    rw [memory_serviced found]
    rcases x.answer?_cases with none | ⟨before, taker, behind, act, split, hact, answered⟩
    · rw [none] at found
      cases found
    · rw [answered] at found
      obtain rfl := Option.some.inj found
      exact Handler.keepsOutside_react? hact ended
  refine ⟨?_, Registers.get_zero _, fun register other => ?_, kept.size_eq, kept.getElem?_eq⟩
  · rw [registers, Registers.get_set, if_pos ⟨rfl, by decide⟩]
  · rw [registers, Registers.get_set, if_neg fun there => other there.1]

end Turn

/-! ### An item and a half

The file `f` holds three bytes. The guest asks for two items of two bytes, and gets the first one
only; the third byte is read and dropped. -/

namespace Halved

/-- The path `f` and the mode `r`, and room for four bytes that are not zero. -/
def memory : Memory := ⟨⟨#[0x66, 0, 0x72, 0, 0x2a, 0x2a, 0x2a, 0x2a]⟩, by decide⟩

def store : FileStore := { files := .ofList [("f", ⟨#[1, 2, 3]⟩)] }

def opening : Turn FileStore StoredStream :=
  ⟨.initial none { files := store }, .asking .fopen [0, 2] memory⟩

def reading : Turn FileStore StoredStream := ⟨opening.after, .asking .fread [4, 2, 2, 1] memory⟩

theorem outcome : reading.serviced.outcome = .ok (reading.request.answered 1) := by decide +kernel

theorem apart : ¬ Memory.Within (reading.request.stores 1 reading.serviced.machine.memory) 6 := by
  have windows : reading.request.stores 1 reading.serviced.machine.memory = [(4, 2)] := by
    decide +kernel
  rw [windows]
  rintro ⟨window, there, -, lt⟩
  obtain rfl := List.mem_singleton.mp there
  exact absurd lt (by decide)

end Halved

/-- The third byte of the file does not get into memory. -/
theorem Turn.changes_only_stores_halved :
    Halved.reading.serviced.machine.registers.get .a0 = 1 ∧
      Halved.reading.serviced.machine.memory.bytes[6]? = some 0x2a := by
  obtain ⟨result, -, -, -, kept⟩ := Turn.changes_only_stores Halved.outcome
  exact ⟨result, kept 6 Halved.apart⟩

end Semihosting
