import Semihosting.Proofs.GuestHeap
import Semihosting.Proofs.MemoryWindows
import Semihosting.Proofs.StreamPositions

/-!
# Guarded access to memory and files

A machine computes with words and indexes byte strings, and stops where a sum does not fit in a
word, a difference is negative, a divisor is zero or an index lies outside. Here the operations on
guest memory, its heap and stored files are written down once more in this way, each with all its
sums and slices in the order in which they are made, so that it has no value if one of them goes
wrong. It turns out that none does, and the value is that of the operation in whole numbers.

## Main definitions

* `Guarded.sum`, `Guarded.difference`, `Guarded.slice`, … — steps that may go wrong
* `Guarded.load`, `Guarded.store`, `Guarded.loadString` — guest memory
* `Guarded.allocate` — memory from the heap of a guest
* `Guarded.read`, `Guarded.write` — streams on stored files
* `Guarded.fill`, `Guarded.drain` — whole transfers

## Main results

* `Guarded.load_eq`, `Guarded.store_eq`, `Guarded.loadString_eq` — memory is never left
* `Guarded.allocate_eq` — what the heap hands out, whether it is computed with words or numbers
* `Guarded.read_eq`, `Guarded.write_eq` — files are never left, and positions fit in words
* `Guarded.fill_eq`, `Guarded.drain_eq` — buffers are never left
-/

namespace Semihosting

/-! ### Byte strings -/

namespace Bytes

theorem toList_extract (bytes : ByteArray) (start stop : Nat) :
    (bytes.extract start stop).data.toList =
      (bytes.data.toList.drop start).take (stop - start) := by
  rw [ByteArray.data_extract, Array.toList_extract, List.extract_eq_take_drop]

/-- The first zero byte of what is left, from there on. -/
theorem firstZero?_extract {bytes : ByteArray} {start : Nat} :
    firstZero? (bytes.extract start bytes.size) 0 =
      (firstZero? bytes start).map (· - start) := by
  have byte (i : Nat) : (bytes.extract start bytes.size)[i]? = bytes[start + i]? := by
    rw [getElem?_toList, getElem?_toList, ByteArray.data_extract, Array.toList_extract,
      List.extract_eq_take_drop, List.take_of_length_le, List.getElem?_drop]
    rw [List.length_drop, length_toList]
  cases found : firstZero? bytes start with
  | none =>
    rw [Option.map_none, firstZero?_eq_none_iff]
    intro i _
    rw [byte]
    exact firstZero?_eq_none_iff.mp found (start + i) (Nat.le_add_right _ _)
  | some stop =>
    obtain ⟨le, zero, first⟩ := firstZero?_eq_some_iff.mp found
    rw [Option.map_some, firstZero?_eq_some_iff]
    refine ⟨Nat.zero_le _, ?_, fun i _ lt => ?_⟩
    · rw [byte, Nat.add_sub_cancel' le]
      exact zero
    · rw [byte]
      exact first (start + i) (Nat.le_add_right _ _) (by omega)

/-- To pad up to the end of the window first makes no difference. -/
theorem overlay_padTo (bytes : ByteArray) (start : Nat) (data : ByteArray) :
    overlay (padTo bytes (start + data.size)) start data =
      overlay bytes start data := by
  have bare : start - max bytes.size (start + data.size) = 0 := by omega
  have gap : min (start - bytes.size) (start + data.size - bytes.size) =
      min (start - bytes.size) (start - bytes.size) := by omega
  have behind : start + data.size - bytes.size - (start + data.size - bytes.size) = 0 :=
    Nat.sub_self _
  apply ext_toList
  simp only [toList_overlay, toList_padTo, size_padTo, bare, List.replicate_zero,
    List.append_nil, List.take_append, List.drop_append, List.take_replicate, List.drop_replicate,
    length_toList, gap, behind]

end Bytes

namespace Guarded

/-! ### Steps that may go wrong -/

/-- A sum, if it fits in a word. -/
def sum (a b : Nat) : Option Nat := if a + b < 2 ^ 64 then some (a + b) else none

/-- A difference, if it is not negative. -/
def difference (a b : Nat) : Option Nat := if b ≤ a then some (a - b) else none

/-- A product, if it fits in a word. -/
def product (a b : Nat) : Option Nat := if a * b < 2 ^ 64 then some (a * b) else none

/-- A quotient, unless the divisor is zero. -/
def quotient (a b : Nat) : Option Nat := if b ≠ 0 then some (a / b) else none

/-- A number as a word, if it fits in one. -/
def word (n : Nat) : Option Word := if n < 2 ^ 64 then some (UInt64.ofNat n) else none

/-- The bytes from one index up to another, if both lie in the byte string in this order. -/
def slice (bytes : ByteArray) (start stop : Nat) : Option ByteArray :=
  if start ≤ stop ∧ stop ≤ bytes.size then some (bytes.extract start stop) else none

/-- The byte string with the bytes from one index up to another replaced by as many others. -/
def splice (bytes : ByteArray) (start stop : Nat) (data : ByteArray) : Option ByteArray :=
  if start ≤ stop ∧ stop ≤ bytes.size ∧ data.size = stop - start then
    some (Bytes.overlay bytes start data)
  else none

/-- What is relied on. -/
def demand (p : Prop) [Decidable p] : Option Unit := if p then some () else none

section Steps

variable {a b n start stop : Nat} {bytes data : ByteArray}

theorem sum_of_lt (h : a + b < 2 ^ 64) : sum a b = some (a + b) := if_pos h

theorem difference_of_le (h : b ≤ a) : difference a b = some (a - b) := if_pos h

theorem product_of_lt (h : a * b < 2 ^ 64) : product a b = some (a * b) := if_pos h

theorem quotient_of_ne (h : b ≠ 0) : quotient a b = some (a / b) := if_pos h

theorem word_of_lt (h : n < 2 ^ 64) : word n = some (UInt64.ofNat n) := if_pos h

theorem slice_of_le (le : start ≤ stop) (within : stop ≤ bytes.size) :
    slice bytes start stop = some (bytes.extract start stop) :=
  if_pos ⟨le, within⟩

theorem splice_of_le (le : start ≤ stop) (within : stop ≤ bytes.size)
    (size : data.size = stop - start) :
    splice bytes start stop data = some (Bytes.overlay bytes start data) :=
  if_pos ⟨le, within, size⟩

theorem demand_of {p : Prop} [Decidable p] (h : p) : demand p = some () := if_pos h

end Steps

/-! ### Guest memory -/

/-- The first and the last index of an access, or the fault of the guest that names a window outside
memory. An end that is no word is such a fault. -/
def range (m : Memory) (address length : Word) : Except Fault (Nat × Nat) :=
  match sum address.toNat length.toNat with
  | none => .error (.outOfBounds address length)
  | some stop =>
    if m.size < stop then .error (.outOfBounds address length) else .ok (address.toNat, stop)

def load (m : Memory) (address length : Word) : Option (Except Fault ByteArray) :=
  match range m address length with
  | .error fault => some (.error fault)
  | .ok (start, stop) => do
    let data ← slice m.bytes start stop
    some (.ok data)

def store (m : Memory) (address : Word) (data : ByteArray) : Option (Except Fault Memory) := do
  let length ← word data.size
  match range m address length with
  | .error fault => some (.error fault)
  | .ok (start, stop) =>
    let bytes ← splice m.bytes start stop data
    if small : bytes.size < 0x10000000000000000 then some (.ok ⟨bytes, small⟩) else none

def loadString (m : Memory) (address : Word) : Option (Except Fault ByteArray) :=
  match range m address 0 with
  | .error fault => some (.error fault)
  | .ok (start, _) => do
    let rest ← slice m.bytes start m.size
    match Bytes.firstZero? rest 0 with
    | none => some (.error (.unterminated address))
    | some length =>
      let stop ← sum start length
      let text ← slice m.bytes start stop
      some (.ok text)

def loadWord (m : Memory) (address : Word) : Option (Except Fault Word) := do
  match ← load m address 8 with
  | .error fault => some (.error fault)
  | .ok bytes =>
    demand (bytes.size = 8)
    some (.ok (Bytes.toWord bytes))

def storeWord (m : Memory) (address w : Word) : Option (Except Fault Memory) :=
  store m address (Bytes.ofWord w)

section Memory

variable {m : Memory} {address length : Word} {data : ByteArray}

/-- The window of an access in memory. -/
theorem range_of_le (within : address.toNat + length.toNat ≤ m.size) :
    range m address length = .ok (address.toNat, address.toNat + length.toNat) := by
  have small := m.size_lt
  rw [← Memory.size] at small
  rw [range, sum_of_lt (by omega)]
  exact if_neg (Nat.not_lt.mpr within)

/-- An access outside memory is a fault, whether or not its end is a word. -/
theorem range_of_lt (outside : ¬ address.toNat + length.toNat ≤ m.size) :
    range m address length = .error (.outOfBounds address length) := by
  unfold range sum
  by_cases fits : address.toNat + length.toNat < 2 ^ 64
  · rw [if_pos fits]
    exact if_pos (Nat.not_le.mp outside)
  · rw [if_neg fits]

theorem load_eq (m : Memory) (address length : Word) :
    load m address length = some (m.load address length) := by
  unfold load Memory.load
  by_cases within : address.toNat + length.toNat ≤ m.size
  · rw [range_of_le within, if_pos within]
    simp only [slice_of_le (Nat.le_add_right _ _) within, Option.bind_eq_bind, Option.bind_some]
    rfl
  · rw [range_of_lt within, if_neg within]

theorem store_eq (small : data.size < 2 ^ 64) :
    store m address data = some (m.store address data) := by
  have whole : (UInt64.ofNat data.size).toNat = data.size := UInt64.toNat_ofNat_of_lt' small
  simp only [store, word_of_lt small, Option.bind_eq_bind, Option.bind_some]
  unfold Memory.store
  by_cases within : address.toNat + data.size ≤ m.bytes.size
  · -- Nothing is stored behind the end of memory, so memory does not grow.
    have kept : (Bytes.overlay m.bytes address.toNat data).size < 0x10000000000000000 := by
      rw [Bytes.size_overlay, Nat.max_eq_left within]
      exact m.size_lt
    have window : data.size = address.toNat + data.size - address.toNat := by omega
    rw [range_of_le (by rw [whole]; exact within), whole, dif_pos within]
    simp only [splice_of_le (Nat.le_add_right _ _) within window, Option.bind_some, dif_pos kept]
  · rw [range_of_lt (by rw [whole]; exact within), dif_neg within]

theorem storeWord_eq (m : Memory) (address w : Word) :
    storeWord m address w = some (m.storeWord address w) :=
  store_eq (by rw [Bytes.size_ofWord]; decide)

theorem loadWord_eq (m : Memory) (address : Word) :
    loadWord m address = some (m.loadWord address) := by
  rw [loadWord, load_eq, Memory.loadWord]
  cases read : m.load address 8 with
  | error fault => rfl
  | ok bytes =>
    obtain ⟨within, rfl⟩ := Memory.load_eq_ok_iff.mp read
    have size : (Bytes.window m.bytes address.toNat (8 : Word).toNat).size = 8 := by
      rw [Bytes.size_window]
      rw [Memory.size] at within
      have eight : (8 : Word).toNat = 8 := rfl
      omega
    simp only [Option.bind_eq_bind, Option.bind_some, demand_of size]
    rfl

theorem loadString_eq (m : Memory) (address : Word) :
    loadString m address = some (m.loadString address) := by
  have none : (0 : Word).toNat = 0 := rfl
  unfold loadString Memory.loadString
  by_cases within : address.toNat ≤ m.size
  · rw [range_of_le (by rw [none]; exact within), if_pos within]
    have rest : slice m.bytes address.toNat m.size = some (m.bytes.extract address.toNat m.size) :=
      slice_of_le within (Nat.le_refl _)
    simp only [rest, Option.bind_eq_bind, Option.bind_some]
    rw [Memory.size, Bytes.firstZero?_extract]
    cases found : Bytes.firstZero? m.bytes address.toNat with
    | none => rfl
    | some stop =>
      obtain ⟨le, zero, -⟩ := Bytes.firstZero?_eq_some_iff.mp found
      have inside := Bytes.lt_size_of_getElem?_eq_some zero
      have small := m.size_lt
      have fits : address.toNat + (stop - address.toNat) < 2 ^ 64 := by omega
      have text : slice m.bytes address.toNat (address.toNat + (stop - address.toNat)) = _ :=
        slice_of_le (Nat.le_add_right _ _) (by omega)
      simp only [Option.map_some, sum_of_lt fits, text, Option.bind_some]
      rfl
  · rw [range_of_lt (by rw [none]; exact within), if_neg within]

end Memory

/-! ### Taking memory -/

/-- Takes memory from the heap, in words: a mask clears the low bits of the padded address. A sum
that is no word is a fault of the guest, as is an end outside memory. -/
def allocate {σ ς : Type} (length align : Word) (g : Guest σ ς) :
    Option (Except Fault Word × Guest σ ς) := do
  demand align.toNat.isPowerOfTwo
  let heap ← word g.heap
  let low ← difference align.toNat 1
  let refusal := (.error (.outOfBounds heap length), g)
  match sum heap.toNat low with
  | none => some refusal
  | some padded =>
    let address := UInt64.ofNat padded &&& ~~~UInt64.ofNat low
    match sum address.toNat length.toNat with
    | none => some refusal
    | some stop =>
      if g.machine.memory.size < stop then some refusal
      else some (.ok address, { g with heap := stop })

section Allocation

variable {n k : Nat}

/-- To clear low bits is to round down to a multiple of a power of two. -/
theorem toNat_and_not_low (small : n < 2 ^ 64) (power : 2 ^ k < 2 ^ 64) :
    (UInt64.ofNat n &&& ~~~UInt64.ofNat (2 ^ k - 1)).toNat = n / 2 ^ k * 2 ^ k := by
  have pos := Nat.two_pow_pos k
  have low : (UInt64.ofNat (2 ^ k - 1)).toNat = 2 ^ k - 1 :=
    UInt64.toNat_ofNat_of_lt' (Nat.lt_of_le_of_lt (Nat.sub_le ..) power)
  have mask : (~~~UInt64.ofNat (2 ^ k - 1)).toNat = 2 ^ 64 - (2 ^ k - 1 + 1) := by
    rw [UInt64.toNat_not, low, Nat.add_comm, Nat.sub_add_eq]
    rfl
  rw [UInt64.toNat_and, mask, UInt64.toNat_ofNat_of_lt' small]
  apply Nat.eq_of_testBit_eq
  intro i
  rw [Nat.testBit_and, Nat.testBit_two_pow_sub_succ (by omega), Nat.testBit_two_pow_sub_one,
    Nat.testBit_mul_two_pow, Nat.testBit_div_two_pow]
  rcases Nat.lt_or_ge i k with below | above
  · simp [below, Nat.not_le.mpr below]
  · rw [Nat.sub_add_cancel above]
    rcases Nat.lt_or_ge i 64 with inside | outside
    · simp [above, inside, Nat.not_lt.mpr above]
    · have zero : n.testBit i = false :=
        Nat.testBit_lt_two_pow (Nat.lt_of_lt_of_le small (Nat.pow_le_pow_right (by decide) outside))
      simp [zero]

/-- What does not fit in a word is not rounded down to a word. -/
theorem two_pow_le_roundUp (power : 2 ^ k < 2 ^ 64) (far : 2 ^ 64 ≤ n + (2 ^ k - 1)) :
    2 ^ 64 ≤ Guest.roundUp n (2 ^ k) := by
  have le : k ≤ 64 := Nat.le_of_lt ((Nat.pow_lt_pow_iff_right (by decide)).mp power)
  have multiple : 2 ^ 64 / 2 ^ k * 2 ^ k = 2 ^ 64 := Nat.div_mul_cancel (Nat.pow_dvd_pow 2 le)
  rw [← multiple]
  exact Nat.mul_le_mul_right _ (Nat.div_le_div_right far)

theorem allocate_eq {σ ς : Type} {g : Guest σ ς} {length align : Word} (small : g.heap < 2 ^ 64)
    (power : align.toNat.isPowerOfTwo) :
    allocate length align g = some (Guest.allocate length align g) := by
  have whole : (UInt64.ofNat g.heap).toNat = g.heap := UInt64.toNat_ofNat_of_lt' small
  have size : g.machine.memory.size < 2 ^ 64 := g.machine.memory.size_lt
  have refused (full : g.machine.memory.size < Guest.roundUp g.heap align.toNat + length.toNat) :
      some (.error (.outOfBounds (UInt64.ofNat g.heap) length), g) =
        some (Guest.allocate length align g) := by rw [Guest.allocate_of_full full]
  obtain ⟨k, eq⟩ := id power
  have pos := Nat.two_pow_pos k
  have fits : 2 ^ k < 2 ^ 64 := eq ▸ align.toNat_lt
  simp only [allocate, demand_of power, word_of_lt small, Option.bind_eq_bind, Option.bind_some,
    difference_of_le (show 1 ≤ align.toNat by omega), whole]
  rcases Nat.lt_or_ge (g.heap + (align.toNat - 1)) (2 ^ 64) with padded | far
  · have address : (UInt64.ofNat (g.heap + (align.toNat - 1)) &&&
        ~~~UInt64.ofNat (align.toNat - 1)).toNat = Guest.roundUp g.heap align.toNat := by
      rw [eq] at padded ⊢
      exact toNat_and_not_low padded fits
    have place : UInt64.ofNat (g.heap + (align.toNat - 1)) &&& ~~~UInt64.ofNat (align.toNat - 1) =
        UInt64.ofNat (Guest.roundUp g.heap align.toNat) := by
      rw [← address, UInt64.ofNat_toNat]
    simp only [sum_of_lt padded, address]
    rw [sum]
    split_ifs with stop
    · dsimp only
      split_ifs with full
      · exact refused full
      · rw [Guest.allocate_of_room (Nat.not_lt.mp full), place]
    · exact refused (by omega)
  · have beyond : 2 ^ 64 ≤ Guest.roundUp g.heap align.toNat := by
      rw [eq] at far ⊢
      exact two_pow_le_roundUp fits far
    have none : sum g.heap (align.toNat - 1) = none := if_neg (Nat.not_lt.mpr far)
    rw [none]
    exact refused (by omega)

end Allocation

/-! ### Streams on stored files -/

/-- The bytes of a file from a position on, or from the end of the file if the position lies
behind. -/
def readAt (content : ByteArray) (position count : Nat) : Option ByteArray := do
  let start := min position content.size
  let left ← difference content.size start
  let stop ← sum start (min count left)
  let data ← slice content start stop
  demand (data.size ≤ count)
  some data

def read (s : FileStore) (stream : StoredStream) (count : Nat) :
    Option (Except IoError ByteArray × StoredStream) :=
  if stream.mode.readable then do
    let data ← readAt (s.content stream.name) stream.position count
    let position ← sum stream.position data.size
    some (.ok data, { stream with position })
  else some (.error (.os .badDescriptor), stream)

/-- A file that is padded up to the end of a write, with a part of it replaced. The answer says
where the write ends and how long it is. A limit may let a file grow beyond half of all addresses,
which no buffer can. To pad a file so far counts as a failure to find memory, and these are left
out. -/
def writeAt (limit : Nat) (content : ByteArray) (start : Nat) (data : ByteArray) :
    Option (ByteArray × Nat × Nat) := do
  demand (start < limit)
  let room ← difference limit start
  let stop ← sum start (min data.size room)
  demand (start ≤ stop ∧ stop ≤ limit)
  let count ← difference stop start
  let taken ← slice data 0 count
  let content ← splice (Bytes.padTo content stop) start stop taken
  some (content, stop, count)

def write (s : FileStore) (stream : StoredStream) (data : ByteArray) :
    Option (Except IoError Nat × FileStore × StoredStream) :=
  if !stream.mode.writable then some (.error (.os .badDescriptor), s, stream)
  else if data.size = 0 then some (.ok 0, s, stream)
  else if s.limit ≤ s.writeStart stream then some (.error (.os .fileTooLarge), s, stream)
  else do
    let (content, stop, count) ←
      writeAt s.limit (s.content stream.name) (s.writeStart stream) data
    some (.ok count, s.insert stream.name content, { stream with position := stop })

section Streams

variable {s : FileStore} {stream : StoredStream} {data content : ByteArray}
variable {position count start limit : Nat}

theorem readAt_eq (small : content.size < 2 ^ 64) :
    readAt content position count = some (Bytes.window content position count) := by
  -- Whether the position lies in the file or behind it, the bytes found are the same.
  have found : content.extract (min position content.size)
      (min position content.size + min count (content.size - min position content.size)) =
        Bytes.window content position count := by
    apply Bytes.ext_toList
    rw [Bytes.toList_extract, Bytes.toList_window, Nat.add_sub_cancel_left]
    rcases Nat.le_total position content.size with inside | behind
    · rw [Nat.min_eq_left inside, List.take_eq_take_iff, List.length_drop, Bytes.length_toList]
      omega
    · rw [Nat.min_eq_right behind, List.drop_of_length_le (by rw [Bytes.length_toList]),
        List.drop_of_length_le (by rw [Bytes.length_toList]; exact behind), List.take_nil,
        List.take_nil]
  have within : min position content.size + min count (content.size - min position content.size) ≤
      content.size := by omega
  have length : (Bytes.window content position count).size ≤ count := by
    rw [Bytes.size_window]
    exact Nat.min_le_left _ _
  simp only [readAt, difference_of_le (Nat.min_le_right position content.size),
    sum_of_lt (Nat.lt_of_le_of_lt within small), slice_of_le (Nat.le_add_right _ _) within, found,
    demand_of length, Option.bind_eq_bind, Option.bind_some]

theorem read_eq (addressable : s.Addressable) (within : stream.position < 2 ^ 64) :
    read s stream count = some (s.read stream count) := by
  unfold read FileStore.read
  by_cases readable : stream.mode.readable = true
  · rw [if_pos readable, if_pos readable]
    have size := addressable.size_content stream.name
    have fits : stream.position +
        (Bytes.window (s.content stream.name) stream.position count).size < 2 ^ 64 := by
      rw [Bytes.size_window]
      omega
    simp only [readAt_eq size, sum_of_lt fits, Option.bind_eq_bind, Option.bind_some]
  · rw [if_neg readable, if_neg readable]

theorem writeAt_eq (small : limit < 2 ^ 64) (below : start < limit) :
    writeAt limit content start data =
      some (Bytes.overlay content start (Bytes.window data 0 (min data.size (limit - start))),
        start + min data.size (limit - start), min data.size (limit - start)) := by
  have room : min data.size (limit - start) ≤ limit - start := Nat.min_le_right _ _
  generalize length : min data.size (limit - start) = count at room
  have ends : start ≤ start + count ∧ start + count ≤ limit := by omega
  have taken : slice data 0 count = some (Bytes.window data 0 count) := by
    rw [slice_of_le (Nat.zero_le _) (by omega), Bytes.window, Nat.zero_add]
  have size : (Bytes.window data 0 count).size = count := by
    rw [Bytes.size_window]
    omega
  have padded : start + count ≤ (Bytes.padTo content (start + count)).size := by
    rw [Bytes.size_padTo]
    exact Nat.le_max_right _ _
  have put : splice (Bytes.padTo content (start + count)) start (start + count)
      (Bytes.window data 0 count) =
        some (Bytes.overlay content start (Bytes.window data 0 count)) := by
    rw [splice_of_le ends.1 padded (by omega)]
    have whole := Bytes.overlay_padTo content start (Bytes.window data 0 count)
    rw [size] at whole
    rw [whole]
  simp only [writeAt, demand_of below, difference_of_le (Nat.le_of_lt below), length,
    sum_of_lt (Nat.lt_of_le_of_lt ends.2 small), demand_of ends, difference_of_le ends.1,
    Nat.add_sub_cancel_left, taken, put, Option.bind_eq_bind, Option.bind_some]

theorem write_eq (limit : s.limit < 2 ^ 64) : write s stream data = some (s.write stream data) := by
  -- Only behind the comparison with the limit is anything computed.
  unfold write FileStore.write
  split
  · rfl
  · split
    · rfl
    · split
      · rfl
      · next beyond =>
        simp only [writeAt_eq limit (Nat.not_le.mp beyond), Option.bind_eq_bind, Option.bind_some,
          FileStore.change_eq_insert, FileStore.room]

end Streams

/-! ### Transfers -/

/-- Fills a buffer of `length` bytes behind those that were delivered. -/
def fillFrom (s : FileStore) :
    Nat → OpenFile StoredStream → (length : Nat) → ByteArray → Option (Filled StoredStream)
  | 0, file, _, delivered => some { data := delivered, file }
  | rounds + 1, file, length, delivered =>
    if length ≤ delivered.size then some { data := delivered, file }
    else do
      let room ← difference length delivered.size
      match ← read s file.stream room with
      | (.ok data, stream) =>
        if data.size = 0 then some { data := delivered, file := { file with stream, eof := true } }
        else
          let filled ← sum delivered.size data.size
          demand (filled ≤ length)
          fillFrom s rounds { file with stream } length (delivered ++ data)
      | (.error .interrupted, stream) => fillFrom s rounds { file with stream } length delivered
      | (.error reason, stream) =>
        some { data := delivered, file := { file with stream, error := true }, failure := reason }

def fill (s : FileStore) (file : OpenFile StoredStream) (wanted : Nat) :
    Option (Filled StoredStream) :=
  fillFrom s (wanted + FileHost.readDelays (σ := FileStore) file.stream) file wanted .empty

/-- Writes the bytes of `data` behind those that were taken. -/
def drainFrom (data : ByteArray) :
    Nat → FileStore → OpenFile StoredStream → (taken : Nat) →
      Option (Drained FileStore StoredStream)
  | 0, files, file, taken => some { count := taken, files, file }
  | rounds + 1, files, file, taken =>
    if data.size ≤ taken then some { count := taken, files, file }
    else do
      let rest ← slice data taken data.size
      match ← write files file.stream rest with
      | (.ok count, files, stream) =>
        if count = 0 then
          some { count := taken, files, file := { file with stream, error := true } }
        else
          let taken ← sum taken count
          demand (taken ≤ data.size)
          drainFrom data rounds files { file with stream } taken
      | (.error .interrupted, files, stream) =>
        drainFrom data rounds files { file with stream } taken
      | (.error reason, files, stream) =>
        some { count := taken, files, file := { file with stream, error := true }
               failure := reason }

def drain (s : FileStore) (file : OpenFile StoredStream) (data : ByteArray) :
    Option (Drained FileStore StoredStream) :=
  drainFrom data (data.size + FileHost.writeDelays (σ := FileStore) file.stream) s file 0

section Transfers

variable {s : FileStore} {file : OpenFile StoredStream} {rounds length taken : Nat}
variable {data delivered : ByteArray}

/-- A read leaves the stream within the words. -/
theorem position_read (addressable : s.Addressable) (stream : StoredStream) (count : Nat)
    (within : stream.position < 2 ^ 64) : (FileHost.read s stream count).2.position < 2 ^ 64 := by
  have size := addressable.size_content stream.name
  have unfolded : FileHost.read s stream count = s.read stream count := rfl
  rw [unfolded, FileStore.read]
  split
  · dsimp only
    rw [Bytes.size_window]
    omega
  · exact within

/-- What was delivered never exceeds the buffer, so every request has a part of it that is left. -/
theorem fillFrom_eq (addressable : s.Addressable) (small : length < 2 ^ 64)
    (within : file.stream.position < 2 ^ 64) (le : delivered.size ≤ length) :
    fillFrom s rounds file length delivered =
      some (file.fillFrom s rounds (length - delivered.size) delivered) := by
  induction rounds generalizing file delivered with
  | zero => rfl
  | succ rounds ih =>
    rw [fillFrom, OpenFile.fillFrom]
    by_cases full : length ≤ delivered.size
    · rw [if_pos full, if_pos (Nat.sub_eq_zero_of_le full)]
    · rw [if_neg full, if_neg (by omega)]
      have host : FileHost.read s file.stream (length - delivered.size) =
        s.read file.stream (length - delivered.size) := rfl
      have next := position_read addressable file.stream (length - delivered.size) within
      rw [host] at next ⊢
      simp only [difference_of_le le, read_eq addressable within, Option.bind_eq_bind,
        Option.bind_some]
      -- A read of a store that is interrupted never comes about, but costs nothing to allow for.
      cases found : s.read file.stream (length - delivered.size) with
      | mk answer stream =>
        rw [found] at next
        cases answer with
        | error reason =>
          cases reason with
          | interrupted => exact ih next le
          | _ => rfl
        | ok data =>
          have few := FileStore.size_le_of_read found
          have fits : delivered.size + data.size ≤ length := by omega
          have after : (delivered ++ data).size ≤ length := by
            rw [ByteArray.size_append]
            exact fits
          dsimp only
          split
          · rfl
          · rw [sum_of_lt (by omega)]
            simp only [demand_of fits, Option.bind_some]
            rw [ih next after, ByteArray.size_append, Nat.sub_sub]

theorem fill_eq (addressable : s.Addressable) (within : file.stream.position < 2 ^ 64)
    (small : length < 2 ^ 64) : fill s file length = some (file.fill s length) :=
  fillFrom_eq addressable small within (Nat.zero_le _)

/-- What was taken never exceeds the data, so every request has a part of it that is left. -/
theorem drainFrom_eq (limit : s.limit < 2 ^ 64) (small : data.size < 2 ^ 64)
    (le : taken ≤ data.size) :
    drainFrom data rounds s file taken = some (OpenFile.drainFrom data rounds s file taken) := by
  induction rounds generalizing s file taken with
  | zero => rfl
  | succ rounds ih =>
    rw [drainFrom, OpenFile.drainFrom]
    by_cases all : data.size ≤ taken
    · rw [if_pos all, if_pos all]
    · rw [if_neg all, if_neg all]
      have host : FileHost.write s file.stream (data.extract taken data.size) =
        s.write file.stream (data.extract taken data.size) := rfl
      obtain ⟨-, kept, -⟩ :=
        FileStore.write_keeps s file.stream (data.extract taken data.size)
      rw [host] at kept ⊢
      simp only [slice_of_le le (Nat.le_refl _), write_eq limit, Option.bind_eq_bind,
        Option.bind_some]
      cases found : s.write file.stream (data.extract taken data.size) with
      | mk answer rest =>
        obtain ⟨files, stream⟩ := rest
        rw [found] at kept
        -- The next write is to other files, with the limit that they always had.
        have limit' : files.limit < 2 ^ 64 := by rw [kept]; exact limit
        cases answer with
        | error reason =>
          cases reason with
          | interrupted => exact ih limit' le
          | _ => rfl
        | ok count =>
          have few := FileStore.le_size_of_write found
          rw [ByteArray.size_extract] at few
          have fits : taken + count ≤ data.size := by omega
          dsimp only
          split
          · rfl
          · rw [sum_of_lt (by omega)]
            simp only [demand_of fits, Option.bind_some]
            exact ih limit' fits

theorem drain_eq (limit : s.limit < 2 ^ 64) (small : data.size < 2 ^ 64) :
    drain s file data = some (file.drain s data) :=
  drainFrom_eq limit small (Nat.zero_le _)

end Transfers

end Guarded

end Semihosting
