/-!
# Sets of characters

The sets that patterns describe, as ranges of code points. The ranges of a set are disjoint and in
increasing order, and no two of them touch. Code points of surrogates belong to no set.

## Main definitions

* `CodeRange` — an inclusive range of code points, never empty
* `CharSet` — a set of characters
* `CharSet.union`, `CharSet.inter`, `CharSet.diff`, `CharSet.complement` — the operations on sets
* `CharSet.unionAll` — the union of many sets
* `CharSet.foldCase` — a set with the other case of its letters

## Main results

* `mem_union`, `mem_unionAll`, `mem_inter`, `mem_diff`, `mem_complement` — what each operation does
  to the members
-/

namespace Semihosting.Pattern

/-- An inclusive range of code points. -/
structure CodeRange where
  low : Nat
  high : Nat
  /-- A range is never empty. -/
  low_le_high : low ≤ high := by omega
deriving DecidableEq, Repr

namespace CodeRange

/-- A code point lies in the range. -/
def Holds (r : CodeRange) (n : Nat) : Prop := r.low ≤ n ∧ n ≤ r.high

instance (r : CodeRange) (n : Nat) : Decidable (r.Holds n) :=
  inferInstanceAs (Decidable (_ ∧ _))

@[simp] theorem holds_iff {r : CodeRange} {n : Nat} : r.Holds n ↔ r.low ≤ n ∧ n ≤ r.high := Iff.rfl

/-- The common part of two ranges. -/
def meet? (r s : CodeRange) : Option CodeRange :=
  if h : max r.low s.low ≤ min r.high s.high then
    some ⟨max r.low s.low, min r.high s.high, h⟩
  else none

/-- What a range keeps when another is cut out of it. -/
def without (cut r : CodeRange) : List CodeRange :=
  (if _ : r.low < cut.low then
    [⟨r.low, min r.high (cut.low - 1), by have := r.low_le_high; omega⟩] else []) ++
  (if _ : cut.high < r.high then
    [⟨max r.low (cut.high + 1), r.high, by have := r.low_le_high; omega⟩] else [])

/-- What a range keeps when others are cut out of it. -/
def withoutAll : List CodeRange → CodeRange → List CodeRange
  | [], r => [r]
  | cut :: cuts, r =>
    if r.high < cut.low ∨ cut.high < r.low then withoutAll cuts r
    else (cut.without r).flatMap (withoutAll cuts)

/-- Adds a range to ranges in increasing order; those that it overlaps or touches become one. -/
def absorb (r : CodeRange) : List CodeRange → List CodeRange
  | [] => [r]
  | s :: rest =>
    if r.high + 1 < s.low then r :: s :: rest
    else if s.high + 1 < r.low then s :: absorb r rest
    -- The joined range may reach the next one, too.
    else absorb
      ⟨min r.low s.low, max r.high s.high, by
        have := r.low_le_high
        have := s.low_le_high
        omega⟩ rest

end CodeRange

/-- A set of characters. -/
structure CharSet where
  /-- The ranges of its code points. -/
  ranges : List CodeRange
deriving DecidableEq, Repr

namespace CharSet

/-- A code point belongs to the set. -/
def Mem (s : CharSet) (n : Nat) : Prop := ∃ r ∈ s.ranges, r.Holds n

/-- A character belongs to the set. -/
def contains (s : CharSet) (c : Char) : Bool := s.ranges.any fun r => r.Holds c.toNat

theorem contains_iff {s : CharSet} {c : Char} : s.contains c ↔ s.Mem c.toNat := by
  simp [contains, Mem]

/-! ### Operations -/

/-- The set of no character. -/
def empty : CharSet := ⟨[]⟩

/-- The set of all characters. -/
def all : CharSet := ⟨[⟨0, 0xd7ff, by decide⟩, ⟨0xe000, 0x10ffff, by decide⟩]⟩

/-- The members of either set. -/
def union (s t : CharSet) : CharSet := ⟨t.ranges.foldl (fun ranges r => r.absorb ranges) s.ranges⟩

/-- The members of any of some sets. The ranges are added from the last to the first, each in front
of those that are there already. -/
def unionAll (sets : List CharSet) : CharSet :=
  let ranges := (sets.flatMap (·.ranges)).mergeSort fun r s => s.low ≤ r.low
  ⟨ranges.foldl (fun ranges r => r.absorb ranges) []⟩

/-- The members of both sets. -/
def inter (s t : CharSet) : CharSet := ⟨s.ranges.flatMap fun r => t.ranges.filterMap r.meet?⟩

/-- The members of the first set that do not belong to the second. -/
def diff (s t : CharSet) : CharSet :=
  ⟨s.ranges.flatMap (CodeRange.withoutAll t.ranges)⟩

/-- The members of exactly one of two sets. -/
def symmDiff (s t : CharSet) : CharSet := (s.union t).diff (s.inter t)

/-- The characters that do not belong to the set. -/
def complement (s : CharSet) : CharSet := all.diff s

/-- The characters from one to another, both included. -/
def ofRange (low high : Char) : CharSet :=
  if h : low.toNat ≤ high.toNat then inter all ⟨[⟨low.toNat, high.toNat, h⟩]⟩ else empty

/-- The set of one character. -/
def ofChar (c : Char) : CharSet := ofRange c c

/-- The set of the characters in some ranges. -/
def ofRanges (ranges : List (Char × Char)) : CharSet :=
  ranges.foldl (fun set (low, high) => set.union (ofRange low high)) empty

/-- All code points of the set, moved up by a distance. -/
def raise (s : CharSet) (distance : Nat) : CharSet :=
  ⟨s.ranges.map fun r =>
    ⟨r.low + distance, r.high + distance, Nat.add_le_add_right r.low_le_high _⟩⟩

/-- All code points of the set, moved down by a distance. -/
def lower (s : CharSet) (distance : Nat) : CharSet :=
  ⟨s.ranges.map fun r =>
    ⟨r.low - distance, r.high - distance, Nat.sub_le_sub_right r.low_le_high _⟩⟩

/-- The set with the other case of each ASCII letter in it. -/
def foldCase (s : CharSet) : CharSet :=
  (s.union ((s.inter (ofRange 'A' 'Z')).raise 32)).union ((s.inter (ofRange 'a' 'z')).lower 32)

/-- All members are ASCII characters. -/
def isAscii (s : CharSet) : Bool := s.ranges.all (·.high < 128)

/-- The code point of the set's only member. -/
def single? (s : CharSet) : Option Nat :=
  match s.ranges with
  | [r] => if r.low = r.high then some r.low else none
  | _ => none

/-! ### Members -/

theorem exists_absorb_iff {r : CodeRange} {ranges : List CodeRange} {n : Nat} :
    (∃ s ∈ r.absorb ranges, s.Holds n) ↔ r.Holds n ∨ ∃ s ∈ ranges, s.Holds n := by
  induction ranges generalizing r with
  | nil => simp [CodeRange.absorb]
  | cons s rest ih =>
    have := r.low_le_high
    have := s.low_le_high
    unfold CodeRange.absorb
    split
    · simp
    · split
      · simp only [List.mem_cons, exists_eq_or_imp, ih]
        exact or_left_comm
      · -- There is no gap between the two, so the joined range holds what either of them does.
        rw [ih]
        simp only [CodeRange.holds_iff, List.mem_cons, exists_eq_or_imp]
        rw [← or_assoc]
        refine or_congr_left ?_
        omega

theorem exists_foldl_absorb_iff {added ranges : List CodeRange} {n : Nat} :
    (∃ s ∈ added.foldl (fun ranges r => r.absorb ranges) ranges, s.Holds n) ↔
      (∃ s ∈ ranges, s.Holds n) ∨ ∃ s ∈ added, s.Holds n := by
  induction added generalizing ranges with
  | nil => simp
  | cons r rest ih =>
    simp only [List.foldl_cons, ih, exists_absorb_iff, List.mem_cons, exists_eq_or_imp]
    rw [or_comm (a := r.Holds n), or_assoc]

theorem mem_union {s t : CharSet} {n : Nat} : (s.union t).Mem n ↔ s.Mem n ∨ t.Mem n :=
  exists_foldl_absorb_iff

theorem mem_unionAll {sets : List CharSet} {n : Nat} :
    (unionAll sets).Mem n ↔ ∃ s ∈ sets, s.Mem n := by
  simp only [unionAll, Mem, exists_foldl_absorb_iff, List.not_mem_nil, false_and, exists_false,
    false_or, List.mem_mergeSort, List.mem_flatMap]
  constructor
  · rintro ⟨r, ⟨s, hs, hr⟩, hn⟩
    exact ⟨s, hs, r, hr, hn⟩
  · rintro ⟨s, hs, r, hr, hn⟩
    exact ⟨r, ⟨s, hs, hr⟩, hn⟩

theorem mem_inter {s t : CharSet} {n : Nat} : (s.inter t).Mem n ↔ s.Mem n ∧ t.Mem n := by
  simp only [inter, Mem, List.mem_flatMap, List.mem_filterMap]
  constructor
  · rintro ⟨m, ⟨r, hr, r', hr', hm⟩, hn⟩
    simp only [CodeRange.meet?, Option.dite_none_right_eq_some] at hm
    obtain ⟨h, hm⟩ := hm
    cases hm
    simp only [CodeRange.holds_iff] at hn
    exact ⟨⟨r, hr, by simp only [CodeRange.holds_iff]; omega⟩,
      ⟨r', hr', by simp only [CodeRange.holds_iff]; omega⟩⟩
  · rintro ⟨⟨r, hr, hn⟩, ⟨r', hr', hn'⟩⟩
    simp only [CodeRange.holds_iff] at hn hn'
    have h : max r.low r'.low ≤ min r.high r'.high := by omega
    exact ⟨⟨_, _, h⟩, ⟨r, hr, r', hr', by simp [CodeRange.meet?, h]⟩, by
      simp only [CodeRange.holds_iff]; omega⟩

theorem exists_without_iff {cut r : CodeRange} {n : Nat} :
    (∃ s ∈ cut.without r, s.Holds n) ↔ r.Holds n ∧ ¬ cut.Holds n := by
  have := r.low_le_high
  have := cut.low_le_high
  simp only [CodeRange.without, List.mem_append]
  constructor
  · rintro ⟨s, hs | hs, hn⟩
    · split at hs
      · simp only [List.mem_singleton] at hs
        subst hs
        simp only [CodeRange.holds_iff] at hn ⊢
        omega
      · simp at hs
    · split at hs
      · simp only [List.mem_singleton] at hs
        subst hs
        simp only [CodeRange.holds_iff] at hn ⊢
        omega
      · simp at hs
  · rintro ⟨hr, hc⟩
    simp only [CodeRange.holds_iff] at hr hc
    -- What is not cut out lies below the cut or above it.
    by_cases h : n < cut.low
    · have hlow : r.low < cut.low := by omega
      exact ⟨_, .inl (by rw [dif_pos hlow]; exact List.mem_singleton_self _), by
        simp only [CodeRange.holds_iff]; omega⟩
    · have hhigh : cut.high < r.high := by omega
      exact ⟨_, .inr (by rw [dif_pos hhigh]; exact List.mem_singleton_self _), by
        simp only [CodeRange.holds_iff]; omega⟩

theorem exists_withoutAll_iff {cuts : List CodeRange} {r : CodeRange} {n : Nat} :
    (∃ s ∈ CodeRange.withoutAll cuts r, s.Holds n) ↔ r.Holds n ∧ ¬ ∃ cut ∈ cuts, cut.Holds n := by
  induction cuts generalizing r with
  | nil => simp [CodeRange.withoutAll]
  | cons cut cuts ih =>
    simp only [CodeRange.withoutAll, List.mem_cons, exists_eq_or_imp, not_or]
    split
    · rw [ih]
      simp only [CodeRange.holds_iff]
      constructor
      · rintro ⟨hr, hc⟩
        exact ⟨hr, by omega, hc⟩
      · rintro ⟨hr, -, hc⟩
        exact ⟨hr, hc⟩
    · rw [← and_assoc, ← exists_without_iff]
      simp only [List.mem_flatMap]
      constructor
      · rintro ⟨s, ⟨p, hp, hs⟩, hn⟩
        obtain ⟨hn, hc⟩ := ih.1 ⟨s, hs, hn⟩
        exact ⟨⟨p, hp, hn⟩, hc⟩
      · rintro ⟨⟨p, hp, hn⟩, hc⟩
        obtain ⟨s, hs, hn⟩ := ih.2 ⟨hn, hc⟩
        exact ⟨s, ⟨p, hp, hs⟩, hn⟩

theorem mem_diff {s t : CharSet} {n : Nat} : (s.diff t).Mem n ↔ s.Mem n ∧ ¬ t.Mem n := by
  simp only [diff, Mem, List.mem_flatMap]
  constructor
  · rintro ⟨p, ⟨r, hr, hp⟩, hn⟩
    obtain ⟨hn, hc⟩ := exists_withoutAll_iff.1 ⟨p, hp, hn⟩
    exact ⟨⟨r, hr, hn⟩, hc⟩
  · rintro ⟨⟨r, hr, hn⟩, hc⟩
    obtain ⟨p, hp, hn⟩ := exists_withoutAll_iff.2 ⟨hn, hc⟩
    exact ⟨p, ⟨r, hr, hp⟩, hn⟩

theorem mem_complement {s : CharSet} {n : Nat} : s.complement.Mem n ↔ all.Mem n ∧ ¬ s.Mem n :=
  mem_diff

end CharSet

end Semihosting.Pattern
