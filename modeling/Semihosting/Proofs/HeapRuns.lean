import Mathlib.Order.Bounds.Defs
import Semihosting.Proofs.GuardedAccess
import Semihosting.Proofs.GuestFootprint
import Semihosting.Proofs.GuestHeap

/-!
# What the heap has handed out

Whatever a guest asks of its heap, and in whichever order, what was handed out before stays as it
is. Every piece lies behind all earlier ones, so no two of them overlap, and what was put into one
is found there for good. A request that finds no room changes nothing. A text that is printed goes
through memory that is free before and free again afterwards.

## Main definitions

* `HeapRequest` — what a guest asks of its heap
* `Guest.Extends` — the heap has grown at most, and nothing below its old end has changed
* `HeapStep` — a request, and the guest that makes it
* `HeapStep.Sound` — what comes of one request
* `Guest.heapSteps`, `Guest.performAll` — requests one after another, and the guest behind them
* `Guest.Allots` — what comes of all of them

## Main results

* `Guest.isLeast_roundUp` — rounding up finds the least multiple
* `HeapRequest.exists_grant`, `HeapRequest.perform_of_full` — a request for memory finds room or
  changes nothing
* `HeapRequest.print_keeps` — printing gives back what it has taken, whatever comes of it
* `HeapStep.sound`, `Guest.heap_allots` — one request, and any number of them
* `Guest.allots_within_memory` — what is granted, and what becomes of it
-/

namespace Semihosting

/-! ### Writing leaves memory alone -/

section Writing

variable {σ ς : Type} [FileHost σ ς]

/-- No handler that takes a call to write changes memory. -/
theorem Handler.memory_react?_of_write {h : Handler ς} {r : Request}
    {act : Reaction (Handler ς) σ} (hact : h.react? r = some act) (hs : r.service? = some .write)
    (memory : Memory) (host : Host σ) : (act memory host).memory = memory := by
  cases h with
  | streams t =>
    obtain ⟨act, reacts, rfl⟩ := Option.map_eq_some_iff.mp hact
    exact StreamTable.memory_react? reacts (by simp [hs])
  | input f =>
    obtain ⟨act, reacts, rfl⟩ := Option.map_eq_some_iff.mp hact
    simp [InputFeed.react?, hs] at reacts
  | console c =>
    obtain ⟨act, reacts, rfl⟩ := Option.map_eq_some_iff.mp hact
    simp only [Console.react?, hs, Option.some.injEq] at reacts
    subst reacts
    rw [Reaction.map, Answer.map, Console.write]
    split
    · split <;> rfl
    · rfl
  | saver | entropy | clock => simp [react?, hs] at hact
  | stub =>
    obtain ⟨-, ⟨⟩⟩ := Option.ite_none_right_eq_some.mp hact
    rfl

theorem Turn.memory_of_write {x : Turn σ ς} (hs : x.service? = some .write) :
    x.serviced.machine.memory = x.memory := by
  rcases x.answer?_cases with none | ⟨before, taker, behind, act, split, hact, answer⟩
  · rw [serviced_of_none none]
  · rw [memory_serviced answer]
    exact Handler.memory_react?_of_write hact hs x.memory x.host

end Writing

/-! ### Requests -/

/-- What a guest asks of its heap. No byte string is longer than a word can say. -/
inductive HeapRequest where
  /-- Memory of some length, at a multiple of a power of two. -/
  | region (length align : Word) (power : align.toNat.isPowerOfTwo)
  /-- Memory with some bytes in it. -/
  | bytes (data : ByteArray) (short : data.size < 2 ^ 64)
  /-- Memory with a text in it and a zero byte behind the text. -/
  | string (text : String) (short : text.toUTF8.size + 1 < 2 ^ 64)
  /-- Memory that is needed only until a text is printed. -/
  | print (text : String) (short : text.toUTF8.size < 2 ^ 64)

namespace HeapRequest

/-- The length and the alignment of the memory that a request is to keep. -/
def demand? : HeapRequest → Option (Word × Word)
  | region length align _ => some (length, align)
  | bytes data _ => some (UInt64.ofNat data.size, 1)
  | string text _ => some (UInt64.ofNat (text.toUTF8.size + 1), 1)
  | print .. => none

/-- What was put into the memory at an address can be read from there: bytes as they are, a text up
to its first zero character. -/
def Readable (r : HeapRequest) (address : Word) (m : Memory) : Prop :=
  match r with
  | bytes data _ => m.load address (UInt64.ofNat data.size) = .ok data
  | string text _ => m.loadString address = .ok (Guest.spelled text).toUTF8
  | region .. | print .. => True

/-- A request, carried out by a guest. -/
def perform {σ ς : Type} [FileHost σ ς] : HeapRequest → Guest.Action σ ς Word
  | region length align _ => Guest.allocate length align
  | bytes data _ => Guest.allocateBytes data
  | string text _ => Guest.allocateString text
  | print text _ => Guest.print text

end HeapRequest

variable {σ ς : Type}

namespace Guest

/-! ### Rounding up -/

variable {address align : Nat}

theorem le_roundUp (pos : 0 < align) : address ≤ roundUp address align := by
  have split := Nat.div_add_mod (address + (align - 1)) align
  have less := Nat.mod_lt (address + (align - 1)) pos
  rw [Nat.mul_comm] at split
  rw [roundUp]
  omega

/-- Rounding up finds the least multiple that is not below. -/
theorem isLeast_roundUp (pos : 0 < align) :
    IsLeast {n | align ∣ n ∧ address ≤ n} (roundUp address align) := by
  refine ⟨⟨Nat.dvd_mul_left .., le_roundUp pos⟩, ?_⟩
  rintro n ⟨⟨k, rfl⟩, le⟩
  -- Padding does not reach the multiple behind `align * k`.
  have quotient : (address + (align - 1)) / align < k + 1 := by
    rw [Nat.div_lt_iff_lt_mul pos, Nat.add_mul, Nat.one_mul, Nat.mul_comm k]
    omega
  rw [roundUp, Nat.mul_comm align]
  exact Nat.mul_le_mul_right _ (Nat.lt_succ_iff.mp quotient)

/-! ### Taking memory -/

variable {g g' g'' : Guest σ ς} {length alignment a : Word} {data : ByteArray} {m : Memory}

/-- The heap has grown at most, and nothing below its old end has changed. -/
structure Extends (g g' : Guest σ ς) : Prop where
  heap_le : g.heap ≤ g'.heap
  memory : g.machine.memory.AgreesOn g'.machine.memory 0 g.heap

theorem Extends.refl (g : Guest σ ς) : g.Extends g := ⟨Nat.le_refl _, rfl, fun _ _ _ => rfl⟩

theorem Extends.trans (first : g.Extends g') (second : g'.Extends g'') : g.Extends g'' :=
  ⟨first.heap_le.trans second.heap_le,
    first.memory.trans (second.memory.mono (Nat.le_refl _) (Nat.add_le_add_left first.heap_le _))⟩

end Guest

namespace HeapRequest

variable [FileHost σ ς] {g : Guest σ ς} {r : HeapRequest} {length align address : Word}
variable {m m' : Memory} {text : String}

/-- Memory is asked for at multiples of a power of two. -/
theorem power_of_demand? (demand : r.demand? = some (length, align)) :
    align.toNat.isPowerOfTwo := by
  cases r with
  | region _ _ power =>
    obtain ⟨rfl, rfl⟩ := Prod.mk.inj (Option.some.inj demand)
    exact power
  | bytes | string =>
    obtain ⟨-, rfl⟩ := Prod.mk.inj (Option.some.inj demand)
    exact ⟨0, rfl⟩
  | print => cases demand

theorem pos_of_demand? (demand : r.demand? = some (length, align)) : 0 < align.toNat := by
  obtain ⟨k, eq⟩ := power_of_demand? demand
  rw [eq]
  exact Nat.two_pow_pos k

/-- A request finds room: the memory is handed out, its contents can be read there, and everything
below the old end of the heap stays. -/
theorem exists_grant (demand : r.demand? = some (length, align))
    (room : Guest.roundUp g.heap align.toNat + length.toNat ≤ g.machine.memory.size) :
    ∃ m, r.perform g = (.ok (UInt64.ofNat (Guest.roundUp g.heap align.toNat)),
        { g with
          heap := Guest.roundUp g.heap align.toNat + length.toNat, machine.memory := m }) ∧
      g.machine.memory.AgreesOn m 0 g.heap ∧
      r.Readable (UInt64.ofNat (Guest.roundUp g.heap align.toNat)) m := by
  cases r with
  | region _ _ _ =>
    obtain ⟨rfl, rfl⟩ := Prod.mk.inj (Option.some.inj demand)
    exact ⟨_, Guest.allocate_of_room room, ⟨rfl, fun _ _ _ => rfl⟩, trivial⟩
  | bytes data short =>
    obtain ⟨rfl, rfl⟩ := Prod.mk.inj (Option.some.inj demand)
    have size : (UInt64.ofNat data.size).toNat = data.size := UInt64.toNat_ofNat_of_lt' short
    rw [size, UInt64.toNat_one, Guest.roundUp_one] at room ⊢
    have place : (UInt64.ofNat g.heap).toNat = g.heap :=
      Guest.toNat_ofNat_of_le_size (m := g.machine.memory) (by omega)
    obtain ⟨m, stored, run⟩ := Guest.allocateBytes_of_room room
    exact ⟨m, run, .of_store stored (.of_le (by simp [place])), Memory.load_of_store stored⟩
  | string text short =>
    obtain ⟨rfl, rfl⟩ := Prod.mk.inj (Option.some.inj demand)
    have size : (UInt64.ofNat (text.toUTF8.size + 1)).toNat = text.toUTF8.size + 1 :=
      UInt64.toNat_ofNat_of_lt' short
    rw [size, UInt64.toNat_one, Guest.roundUp_one] at room ⊢
    obtain ⟨m, held, below, run⟩ := Guest.allocateString_of_room room
    exact ⟨m, run, below, Memory.loadString_eq_ok_iff.mpr held⟩
  | print => cases demand

/-- A request that finds no room changes nothing, and the fault says where the heap ended and how
much was asked for. -/
theorem perform_of_full (demand : r.demand? = some (length, align))
    (full : g.machine.memory.size < Guest.roundUp g.heap align.toNat + length.toNat) :
    r.perform g = (.error (.outOfBounds (UInt64.ofNat g.heap) length), g) := by
  cases r with
  | region _ _ _ =>
    obtain ⟨rfl, rfl⟩ := Prod.mk.inj (Option.some.inj demand)
    exact Guest.allocate_of_full full
  | bytes | string =>
    obtain ⟨rfl, rfl⟩ := Prod.mk.inj (Option.some.inj demand)
    exact Guest.bind_of_error (Guest.allocate_of_full full)
  | print => cases demand

/-- What can be read stays readable where nothing changes. -/
theorem Readable.of_agreesOn (demand : r.demand? = some (length, align))
    (readable : r.Readable address m) {top : Nat} (agrees : m.AgreesOn m' 0 top)
    (below : address.toNat + length.toNat ≤ top) : r.Readable address m' := by
  cases r with
  | region | print => trivial
  | bytes data _ =>
    obtain ⟨rfl, -⟩ := Prod.mk.inj (Option.some.inj demand)
    have there : m.AgreesOn m' address (UInt64.ofNat data.size).toNat :=
      agrees.mono (Nat.zero_le _) (by simpa using below)
    exact there.load_eq.trans readable
  | string text short =>
    obtain ⟨rfl, -⟩ := Prod.mk.inj (Option.some.inj demand)
    rw [UInt64.toNat_ofNat_of_lt' short] at below
    have held := Memory.loadString_eq_ok_iff.mp readable
    have shorter := Guest.size_spelled_le text
    exact Memory.loadString_eq_ok_iff.mpr (held.of_agreesOn agrees (by omega))

/-! ### Printing -/

/-- A request for a write keeps memory and the end of the heap, whatever comes of it. -/
theorem memory_call_write (g : Guest σ ς) (arguments : List Word) :
    (Guest.call .write arguments g).2.machine.memory = g.machine.memory := by
  have kept : (g.turn (.ofList Service.write.number arguments)).serviced.machine.memory =
      g.machine.memory := Turn.memory_of_write (Guest.service?_turn g .write arguments)
  cases h : (g.turn (.ofList Service.write.number arguments)).serviced.outcome with
  | ok call =>
    obtain ⟨journal, requested⟩ := Guest.request_of_ok h
    rw [Guest.call, requested]
    exact kept
  | error fault =>
    obtain ⟨journal, requested⟩ := Guest.request_of_error h
    rw [Guest.call, requested]
    exact kept

/-- Printing gives back what it has taken and leaves everything below it alone, whether the text was
written or not. -/
theorem print_keeps (g : Guest σ ς) (short : text.toUTF8.size < 2 ^ 64) :
    (Guest.print text g).2.heap = g.heap ∧
      g.machine.memory.AgreesOn (Guest.print text g).2.machine.memory 0 g.heap := by
  refine ⟨rfl, ?_⟩
  have size : (UInt64.ofNat text.toUTF8.size).toNat = text.toUTF8.size :=
    UInt64.toNat_ofNat_of_lt' short
  rcases Nat.lt_or_ge g.machine.memory.size (g.heap + text.toUTF8.size) with full | room
  · -- The text is not even copied.
    have refused : Guest.allocateBytes text.toUTF8 g = (.error _, g) :=
      perform_of_full (r := .bytes text.toUTF8 short) rfl
        (by rw [size, UInt64.toNat_one, Guest.roundUp_one]; exact full)
    rw [Guest.print, Guest.bind_of_error refused]
    exact ⟨rfl, fun _ _ _ => rfl⟩
  · have place : (UInt64.ofNat g.heap).toNat = g.heap :=
      Guest.toNat_ofNat_of_le_size (m := g.machine.memory) (by omega)
    obtain ⟨m, stored, taken⟩ := Guest.allocateBytes_of_room room
    -- The copy lies above the end of the heap, and the call that writes it out changes no memory.
    have kept : (Guest.print text g).2.machine.memory = m := by
      rw [Guest.print, Guest.bind_of_ok taken]
      exact memory_call_write _ _
    rw [kept]
    exact .of_store stored (.of_le (by simp [place]))

end HeapRequest

/-! ### One request -/

/-- A request, and the guest that makes it. -/
structure HeapStep (σ ς : Type) where
  guest : Guest σ ς
  request : HeapRequest

namespace HeapStep

variable [FileHost σ ς]

/-- What the request comes to: the word that the guest gets, or a fault. -/
def outcome (s : HeapStep σ ς) : Except Fault Word := (s.request.perform s.guest).1

/-- The guest behind the request. -/
def after (s : HeapStep σ ς) : Guest σ ς := (s.request.perform s.guest).2

/-- The window of memory that the request was granted, and that stays with whoever asked for it. -/
def granted? (s : HeapStep σ ς) : Option (Word × Nat) :=
  match s.request.demand?, s.outcome with
  | some (length, _), .ok address => some (address, length.toNat)
  | _, _ => none

/-- What comes of one request. -/
structure Sound (s : HeapStep σ ς) : Prop where
  /-- What is granted lies in memory, at the least multiple of the alignment that is not below the
  end of the heap, and the heap ends behind it. -/
  granted {length align address : Word} : s.request.demand? = some (length, align) →
    s.outcome = .ok address →
      IsLeast {n | align.toNat ∣ n ∧ s.guest.heap ≤ n} address.toNat ∧
        s.guest.machine.memory.Holds address length.toNat ∧
        s.after.heap = address.toNat + length.toNat
  /-- A request is refused exactly if there is no room. -/
  refused {length align : Word} {fault : Fault} : s.request.demand? = some (length, align) →
    (s.outcome = .error fault ↔
      s.guest.machine.memory.size < Guest.roundUp s.guest.heap align.toNat + length.toNat ∧
        fault = .outOfBounds (UInt64.ofNat s.guest.heap) length)
  /-- A refused request changes nothing. -/
  unchanged {length align : Word} {fault : Fault} : s.request.demand? = some (length, align) →
    s.outcome = .error fault → s.after = s.guest
  /-- What was put into memory can be read there. -/
  readable {address : Word} : s.outcome = .ok address →
    s.request.Readable address s.after.machine.memory
  /-- Printing leaves the end of the heap where it is. -/
  printed : s.request.demand? = none → s.after.heap = s.guest.heap
  /-- Nothing below the end of the heap changes. -/
  keeps : s.guest.Extends s.after

variable {g : Guest σ ς} {r : HeapRequest} {length align : Word}

theorem sound_of_none (demand : r.demand? = none) : Sound ⟨g, r⟩ := by
  cases r with
  | print text short =>
    obtain ⟨heap, memory⟩ := HeapRequest.print_keeps g short
    exact
      { granted := nofun
        refused := nofun
        unchanged := nofun
        readable := fun _ => trivial
        printed := fun _ => heap
        keeps := ⟨Nat.le_of_eq heap.symm, memory⟩ }
  | region | bytes | string => cases demand

theorem sound_of_room (demand : r.demand? = some (length, align))
    (room : Guest.roundUp g.heap align.toNat + length.toNat ≤ g.machine.memory.size) :
    Sound ⟨g, r⟩ := by
  have least : IsLeast {n | align.toNat ∣ n ∧ g.heap ≤ n} (Guest.roundUp g.heap align.toNat) :=
    Guest.isLeast_roundUp (r.pos_of_demand? demand)
  -- What is granted lies within memory, so its address fits into a word.
  have place : (UInt64.ofNat (Guest.roundUp g.heap align.toNat)).toNat =
      Guest.roundUp g.heap align.toNat :=
    Guest.toNat_ofNat_of_le_size (m := g.machine.memory) (by omega)
  obtain ⟨m, performed, below, readable⟩ := r.exists_grant demand room
  have outcome : HeapStep.outcome ⟨g, r⟩ =
      .ok (UInt64.ofNat (Guest.roundUp g.heap align.toNat)) := congrArg Prod.fst performed
  have after : HeapStep.after ⟨g, r⟩ = { g with
      heap := Guest.roundUp g.heap align.toNat + length.toNat, machine.memory := m } :=
    congrArg Prod.snd performed
  constructor
  case granted =>
    intro length' align' address demand' granted
    obtain ⟨rfl, rfl⟩ := Prod.mk.inj (Option.some.inj (demand.symm.trans demand'))
    obtain rfl := Except.ok.inj (outcome.symm.trans granted)
    rw [place, after]
    exact ⟨least, by rw [Memory.Holds, place]; exact room, rfl⟩
  case refused =>
    intro length' align' fault demand'
    obtain ⟨rfl, rfl⟩ := Prod.mk.inj (Option.some.inj (demand.symm.trans demand'))
    rw [outcome]
    refine iff_of_false (fun failed => ?_) fun full => absurd room (Nat.not_le.mpr full.1)
    cases failed
  case unchanged =>
    intro length' align' fault demand' failed
    cases outcome.symm.trans failed
  case readable =>
    intro address granted
    obtain rfl := Except.ok.inj (outcome.symm.trans granted)
    rw [after]
    exact readable
  case printed =>
    intro none
    cases demand.symm.trans none
  case keeps =>
    rw [after]
    exact ⟨Nat.le_trans least.1.2 (Nat.le_add_right ..), below⟩

theorem sound_of_full (demand : r.demand? = some (length, align))
    (full : g.machine.memory.size < Guest.roundUp g.heap align.toNat + length.toNat) :
    Sound ⟨g, r⟩ := by
  have performed := r.perform_of_full demand full
  have outcome : HeapStep.outcome ⟨g, r⟩ = .error (.outOfBounds (UInt64.ofNat g.heap) length) :=
    congrArg Prod.fst performed
  have after : HeapStep.after ⟨g, r⟩ = g := congrArg Prod.snd performed
  constructor
  case granted =>
    intro length' align' address demand' granted
    cases outcome.symm.trans granted
  case refused =>
    intro length' align' fault demand'
    obtain ⟨rfl, rfl⟩ := Prod.mk.inj (Option.some.inj (demand.symm.trans demand'))
    rw [outcome, Except.error.injEq, eq_comm]
    exact ⟨fun same => ⟨full, same⟩, And.right⟩
  case unchanged => exact fun _ _ => after
  case readable =>
    intro address granted
    cases outcome.symm.trans granted
  case printed =>
    intro none
    cases demand.symm.trans none
  case keeps =>
    rw [after]
    exact .refl g

theorem sound (s : HeapStep σ ς) : s.Sound := by
  cases demand : s.request.demand? with
  | none => exact sound_of_none demand
  | some wish =>
    rcases Nat.lt_or_ge s.guest.machine.memory.size
      (Guest.roundUp s.guest.heap wish.2.toNat + wish.1.toNat) with full | room
    · exact sound_of_full demand full
    · exact sound_of_room demand room

/-- If the heap ended at an address before, it does behind. -/
theorem Sound.heap_lt {s : HeapStep σ ς} (sound : s.Sound) (small : s.guest.heap < 2 ^ 64) :
    s.after.heap < 2 ^ 64 := by
  cases demand : s.request.demand? with
  | none =>
    rw [sound.printed demand]
    exact small
  | some wish =>
    cases ended : s.outcome with
    | error fault =>
      rw [sound.unchanged demand ended]
      exact small
    | ok address =>
      obtain ⟨-, held, behind⟩ := sound.granted demand ended
      rw [behind]
      exact Nat.lt_of_le_of_lt held s.guest.machine.memory.size_lt

/-- What was put into memory stays readable while nothing below the end of the heap changes. -/
theorem readable_of_extends {s : HeapStep σ ς} {g' : Guest σ ς} {address : Word}
    (later : s.after.Extends g') (ended : s.outcome = .ok address) :
    s.request.Readable address g'.machine.memory := by
  have readable := s.sound.readable ended
  cases demand : s.request.demand? with
  | none =>
    cases request : s.request with
    | print => trivial
    | region | bytes | string =>
      rw [request] at demand
      cases demand
  | some wish =>
    obtain ⟨-, -, behind⟩ := s.sound.granted demand ended
    exact readable.of_agreesOn demand later.memory (Nat.le_of_eq behind.symm)

theorem granted?_eq_some_iff {s : HeapStep σ ς} {window : Word × Nat} :
    s.granted? = some window ↔ ∃ length align address,
      s.request.demand? = some (length, align) ∧ s.outcome = .ok address ∧
        window = (address, length.toNat) := by
  unfold granted?
  split
  · next length align address demand ended =>
    constructor
    · rintro ⟨⟩
      exact ⟨length, align, address, demand, ended, rfl⟩
    · rintro ⟨length', align', address', demand', ended', rfl⟩
      obtain ⟨rfl, rfl⟩ := Prod.mk.inj (Option.some.inj (demand.symm.trans demand'))
      obtain rfl := Except.ok.inj (ended.symm.trans ended')
      rfl
  · next other =>
    constructor
    · nofun
    · rintro ⟨length, align, address, demand, ended, -⟩
      exact absurd ended (other length align address demand)

end HeapStep

/-! ### One request after another -/

namespace Guest

variable [FileHost σ ς]

/-- The steps of a guest that makes some requests, one after another. -/
def heapSteps (g : Guest σ ς) : List HeapRequest → List (HeapStep σ ς)
  | [] => []
  | r :: requests => ⟨g, r⟩ :: (HeapStep.after ⟨g, r⟩).heapSteps requests

/-- The guest behind some requests. -/
def performAll (g : Guest σ ς) : List HeapRequest → Guest σ ς
  | [] => g
  | r :: requests => (HeapStep.after ⟨g, r⟩).performAll requests

/-- What comes of requests that lead from one guest to another. -/
structure Allots (g : Guest σ ς) (steps : List (HeapStep σ ς)) (g' : Guest σ ς) : Prop where
  sound : ∀ s ∈ steps, s.Sound
  /-- What is granted lies between the old end of the heap and the new one. -/
  placed : ∀ window ∈ steps.filterMap HeapStep.granted?,
    g.heap ≤ window.1.toNat ∧ window.1.toNat + window.2 ≤ g'.heap
  /-- No two windows that are granted overlap. -/
  apart : (steps.filterMap HeapStep.granted?).Pairwise fun window window' =>
    Memory.Disjoint window.1 window.2 window'.1 window'.2
  /-- What was put into memory by any of the requests can be read behind all of them. -/
  readable : ∀ s ∈ steps, ∀ address, s.outcome = .ok address →
    s.request.Readable address g'.machine.memory
  keeps : g.Extends g'

theorem Allots.nil (g : Guest σ ς) : g.Allots [] g :=
  ⟨nofun, nofun, .nil, nofun, .refl g⟩

/-- A request before others: what it was granted lies below all that the others are granted. -/
theorem Allots.cons {s : HeapStep σ ς} {steps : List (HeapStep σ ς)} {g' : Guest σ ς}
    (rest : s.after.Allots steps g') : s.guest.Allots (s :: steps) g' := by
  have first := s.sound
  have placed : ∀ window ∈ steps.filterMap HeapStep.granted?,
      s.guest.heap ≤ window.1.toNat ∧ window.1.toNat + window.2 ≤ g'.heap := fun window there =>
    ⟨first.keeps.heap_le.trans (rest.placed window there).1, (rest.placed window there).2⟩
  have sound : ∀ s' ∈ s :: steps, s'.Sound := List.forall_mem_cons.mpr ⟨first, rest.sound⟩
  have readable : ∀ s' ∈ s :: steps, ∀ address, s'.outcome = .ok address →
      s'.request.Readable address g'.machine.memory :=
    List.forall_mem_cons.mpr ⟨fun _ => HeapStep.readable_of_extends rest.keeps, rest.readable⟩
  have keeps : s.guest.Extends g' := first.keeps.trans rest.keeps
  cases granted : s.granted? with
  | none =>
    have same := List.filterMap_cons_none (l := steps) granted
    exact ⟨sound, same ▸ placed, same ▸ rest.apart, readable, keeps⟩
  | some window =>
    obtain ⟨length, align, address, demand, ended, rfl⟩ :=
      HeapStep.granted?_eq_some_iff.mp granted
    obtain ⟨least, -, behind⟩ := first.granted demand ended
    have one := List.filterMap_cons_some (l := steps) granted
    refine ⟨sound, ?_, ?_, readable, keeps⟩
    · rw [one]
      exact List.forall_mem_cons.mpr ⟨⟨least.1.2, behind.symm.trans_le rest.keeps.heap_le⟩, placed⟩
    · -- The heap of the others starts where the first window ends.
      rw [one]
      refine List.pairwise_cons.mpr ⟨fun later there => ?_, rest.apart⟩
      exact .of_le (behind.symm.trans_le (rest.placed later there).1)

theorem heap_allots (g : Guest σ ς) (requests : List HeapRequest) :
    g.Allots (g.heapSteps requests) (g.performAll requests) := by
  induction requests generalizing g with
  | nil => exact .nil g
  | cons r requests ih =>
    have rest : (HeapStep.after ⟨g, r⟩).Allots ((HeapStep.after ⟨g, r⟩).heapSteps requests)
        ((HeapStep.after ⟨g, r⟩).performAll requests) := ih _
    exact rest.cons

variable {g : Guest σ ς}

/-- The end of the heap is an address at every step, and the size of memory stays. -/
theorem heapSteps_address (small : g.heap < 2 ^ 64) {requests : List HeapRequest}
    {s : HeapStep σ ς} (there : s ∈ g.heapSteps requests) :
    (UInt64.ofNat s.guest.heap).toNat = s.guest.heap ∧
      s.guest.machine.memory.size = g.machine.memory.size := by
  induction requests generalizing g with
  | nil => cases there
  | cons r requests ih =>
    rcases List.mem_cons.mp there with rfl | later
    · exact ⟨UInt64.toNat_ofNat_of_lt' small, rfl⟩
    · have first := (⟨g, r⟩ : HeapStep σ ς).sound
      obtain ⟨address, size⟩ := ih (first.heap_lt small) later
      exact ⟨address, size.trans first.keeps.memory.size_eq⟩

/-- A guest may ask its heap for memory, put bytes and texts into memory and print, as often as it
likes. What it is granted lies within memory and not below the start of the heap, no two pieces
overlap, and contents stay. A request fails only if there is no room for it, and then it changes
nothing. Printing leaves the heap as it was. Whether the heap is computed with words, sums and masks
or with numbers makes no difference. -/
theorem allots_within_memory (above : heapStart ≤ g.heap) (small : g.heap < 2 ^ 64)
    (requests : List HeapRequest) :
    g.Allots (g.heapSteps requests) (g.performAll requests) ∧
      (∀ window ∈ (g.heapSteps requests).filterMap HeapStep.granted?,
        heapStart ≤ window.1.toNat ∧ window.1.toNat + window.2 ≤ g.machine.memory.size) ∧
      (∀ s ∈ g.heapSteps requests, (UInt64.ofNat s.guest.heap).toNat = s.guest.heap) ∧
      ∀ s ∈ g.heapSteps requests, ∀ length align, s.request.demand? = some (length, align) →
        Guarded.allocate length align s.guest = some (allocate length align s.guest) := by
  have allots := g.heap_allots requests
  refine ⟨allots, fun window there => ⟨above.trans (allots.placed window there).1, ?_⟩,
    fun s there => (heapSteps_address small there).1, fun s there length align demand => ?_⟩
  · obtain ⟨s, taken, granted⟩ := List.mem_filterMap.mp there
    obtain ⟨length, align, address, demand, ended, rfl⟩ :=
      HeapStep.granted?_eq_some_iff.mp granted
    rw [← (heapSteps_address small taken).2]
    exact (s.sound.granted demand ended).2.1
  · have address := (heapSteps_address small there).1
    exact Guarded.allocate_eq (address ▸ (UInt64.ofNat s.guest.heap).toNat_lt)
      (s.request.power_of_demand? demand)

end Guest

/-! ### A small heap

Eight bytes of memory are left for the heap. Three are taken for good, and a text goes through the
others. Behind the three there is no room for a word at a multiple of eight. -/

namespace Cramped

def guest : Guest FileStore StoredStream :=
  { machine := .blank 0x1008, debugger := .standard none, host := { files := {} }
    heap := Guest.heapStart }

def data : HeapRequest := .bytes ⟨#[1, 2, 3]⟩ (by decide)

def text : HeapRequest := .print "abc" (by decide)

def word : HeapRequest := .region 8 8 ⟨3, rfl⟩

/-- The request for a word. -/
def step : HeapStep FileStore StoredStream :=
  ⟨HeapStep.after ⟨HeapStep.after ⟨guest, data⟩, text⟩, word⟩

theorem size : guest.machine.memory.size = 0x1008 := Memory.size_blank 0x1008

theorem heap : step.guest.heap = 0x1003 := by
  have room : guest.heap + (⟨#[1, 2, 3]⟩ : ByteArray).size ≤ guest.machine.memory.size := by
    rw [size]
    decide
  obtain ⟨m, -, taken⟩ := Guest.allocateBytes_of_room room
  have three : (HeapStep.after ⟨guest, data⟩).heap = guest.heap + 3 := by
    rw [HeapStep.after, data, HeapRequest.perform, taken]
    rfl
  have printed := (HeapStep.sound ⟨HeapStep.after ⟨guest, data⟩, text⟩).printed rfl
  rw [step, printed, three]
  rfl

end Cramped

/-- The request for a word fails, and nothing changes. -/
theorem Guest.allots_within_memory_cramped :
    Cramped.step.outcome = .error (.outOfBounds 0x1003 8) ∧
      Cramped.step.after = Cramped.step.guest := by
  have there : Cramped.step ∈ Cramped.guest.heapSteps [Cramped.data, Cramped.text, Cramped.word] :=
    .tail _ (.tail _ (.head _))
  obtain ⟨allots, -, address, -⟩ := Guest.allots_within_memory (g := Cramped.guest) (Nat.le_refl _)
    (by decide) [Cramped.data, Cramped.text, Cramped.word]
  have sound := allots.sound _ there
  have full : Cramped.step.guest.machine.memory.size <
      Guest.roundUp Cramped.step.guest.heap (8 : Word).toNat + (8 : Word).toNat := by
    rw [(heapSteps_address (by decide) there).2, Cramped.size, Cramped.heap]
    decide
  have failed : Cramped.step.outcome = .error (.outOfBounds 0x1003 8) :=
    (sound.refused rfl).mpr ⟨full, by rw [Cramped.heap]; rfl⟩
  exact ⟨failed, sound.unchanged rfl failed⟩

end Semihosting
