/-!
# Finite tables

A finite map kept as the list of its entries, each key once, in the order in which the keys came.
Open streams are held by handle in such a table, and stored files by name.

## Main definitions

* `Table` — the entries, with the proof that no key occurs twice
* `Table.get?`, `Table.insert`, `Table.erase` — look-up, assignment and removal
* `Table.alter` — assignment of a value that depends on the old one
* `Table.map` — a function on every value

## Main results

* `Table.get?_insert`, `Table.get?_erase` — what a look-up finds after a change
* `Table.get?_isSome_iff` — a look-up succeeds exactly on the keys
* `Table.alter_eq_insert` — an alteration is an assignment
* `Table.insert_comm`, `Table.erase_insert`, `Table.erase_comm` — changes of different keys can be
  made in any order
* `Table.get?_map`, `Table.map_insert`, `Table.map_erase` — look-up and changes, seen through a
  function on the values
-/

namespace Semihosting

/-- A finite map from `κ` to `ν`. -/
structure Table (κ ν : Type) where
  /-- The entries, oldest key first. -/
  entries : List (κ × ν)
  /-- No key has two entries. -/
  nodup : (entries.map Prod.fst).Nodup := by simp

namespace Table

variable {κ ν : Type}

/-- The table without entries. -/
def empty : Table κ ν := { entries := [] }

instance : Inhabited (Table κ ν) := ⟨empty⟩

/-- The keys, oldest first. -/
def keys (t : Table κ ν) : List κ := t.entries.map Prod.fst

/-- The number of entries. -/
def size (t : Table κ ν) : Nat := t.entries.length

/-- The table with a function applied to every value. -/
def map {μ : Type} (f : ν → μ) (t : Table κ ν) : Table κ μ where
  entries := t.entries.map fun (key, value) => (key, f value)
  nodup := by
    rw [List.map_map]
    exact t.nodup

theorem ext_entries {t u : Table κ ν} (h : t.entries = u.entries) : t = u := by
  cases t
  cases u
  cases h
  rfl

variable [DecidableEq κ]

/-! ### Lists of entries -/

/-- The value that a list of entries gives to a key. -/
def find? : List (κ × ν) → κ → Option ν
  | [], _ => none
  | (key, value) :: rest, k => if key = k then some value else find? rest k

/-- A list of entries with the value of one key set; a new key goes to the end. -/
def assign : List (κ × ν) → κ → ν → List (κ × ν)
  | [], k, v => [(k, v)]
  | (key, value) :: rest, k, v =>
    if key = k then (key, v) :: rest else (key, value) :: assign rest k v

theorem mem_keys_assign {entries : List (κ × ν)} {k key : κ} {v : ν} :
    key ∈ (assign entries k v).map Prod.fst ↔ key = k ∨ key ∈ entries.map Prod.fst := by
  induction entries with
  | nil => simp [assign]
  | cons entry rest ih =>
    obtain ⟨head, value⟩ := entry
    by_cases h : head = k
    · subst h
      simp [assign]
    · simp only [assign, if_neg h, List.map_cons, List.mem_cons, ih]
      exact or_left_comm

theorem nodup_assign {entries : List (κ × ν)} (h : (entries.map Prod.fst).Nodup) (k : κ) (v : ν) :
    ((assign entries k v).map Prod.fst).Nodup := by
  induction entries with
  | nil => simp [assign]
  | cons entry rest ih =>
    obtain ⟨head, value⟩ := entry
    rw [List.map_cons, List.nodup_cons] at h
    by_cases same : head = k
    · subst same
      simpa [assign] using h
    · simp only [assign, if_neg same, List.map_cons, List.nodup_cons, mem_keys_assign]
      exact ⟨by simp [same, h.1], ih h.2⟩

/-- A list of entries with the value of one key altered; a new key goes to the end. No entry keeps
the old value, so that a large one can be changed in place. -/
def revise : List (κ × ν) → κ → (Option ν → ν) → List (κ × ν)
  | [], k, f => [(k, f none)]
  | (key, value) :: rest, k, f =>
    if key = k then (key, f (some value)) :: rest else (key, value) :: revise rest k f

theorem revise_eq_assign (entries : List (κ × ν)) (k : κ) (f : Option ν → ν) :
    revise entries k f = assign entries k (f (find? entries k)) := by
  induction entries with
  | nil => rfl
  | cons entry rest ih =>
    obtain ⟨key, value⟩ := entry
    by_cases h : key = k
    · simp [revise, assign, find?, h]
    · simp [revise, assign, find?, h, ih]

/-! ### Operations -/

/-- The value of a key, if it has one. -/
def get? (t : Table κ ν) (k : κ) : Option ν := find? t.entries k

/-- The table with the value of one key set. A key keeps its place, a new one goes to the end. -/
def insert (t : Table κ ν) (k : κ) (v : ν) : Table κ ν where
  entries := assign t.entries k v
  nodup := nodup_assign t.nodup k v

/-- The table with the value of one key altered. -/
def alter (t : Table κ ν) (k : κ) (f : Option ν → ν) : Table κ ν where
  entries := revise t.entries k f
  nodup := revise_eq_assign t.entries k f ▸ nodup_assign t.nodup k _

/-- The table without one key. -/
def erase (t : Table κ ν) (k : κ) : Table κ ν where
  entries := t.entries.filter (·.1 ≠ k)
  nodup := t.nodup.sublist (List.filter_sublist.map Prod.fst)

/-- The table of a list of entries; of two with one key the later counts. -/
def ofList (entries : List (κ × ν)) : Table κ ν :=
  entries.foldl (fun t (k, v) => t.insert k v) empty

/-! ### What a look-up finds -/

@[simp] theorem get?_empty (k : κ) : (empty : Table κ ν).get? k = none := rfl

theorem find?_assign (entries : List (κ × ν)) (k key : κ) (v : ν) :
    find? (assign entries k v) key = if key = k then some v else find? entries key := by
  induction entries with
  | nil => simp [assign, find?, eq_comm]
  | cons entry rest ih =>
    obtain ⟨head, value⟩ := entry
    by_cases same : head = k
    · subst same
      by_cases h : key = head
      · simp [assign, find?, h]
      · simp [assign, find?, h, Ne.symm h]
    · by_cases h : head = key
      · subst h
        simp [assign, find?, same]
      · simp [assign, find?, same, h, ih]

@[simp] theorem get?_insert (t : Table κ ν) (k key : κ) (v : ν) :
    (t.insert k v).get? key = if key = k then some v else t.get? key :=
  find?_assign t.entries k key v

/-- To alter the value of a key is to set it to what becomes of its old value. -/
theorem alter_eq_insert (t : Table κ ν) (k : κ) (f : Option ν → ν) :
    t.alter k f = t.insert k (f (t.get? k)) := by
  simp only [alter, insert, get?, revise_eq_assign]

theorem find?_filter (entries : List (κ × ν)) (k key : κ) :
    find? (entries.filter (·.1 ≠ k)) key = if key = k then none else find? entries key := by
  induction entries with
  | nil => simp [find?]
  | cons entry rest ih =>
    obtain ⟨head, value⟩ := entry
    by_cases same : head = k
    · subst same
      by_cases h : key = head
      · subst h
        simpa using ih
      · simpa [find?, h, Ne.symm h, eq_comm] using ih
    · by_cases h : head = key
      · subst h
        simp [find?, same]
      · simpa [find?, same, h] using ih

@[simp] theorem get?_erase (t : Table κ ν) (k key : κ) :
    (t.erase k).get? key = if key = k then none else t.get? key :=
  find?_filter t.entries k key

theorem filter_of_find?_eq_none {entries : List (κ × ν)} {k : κ} (h : find? entries k = none) :
    entries.filter (·.1 ≠ k) = entries := by
  induction entries with
  | nil => rfl
  | cons entry rest ih =>
    obtain ⟨head, value⟩ := entry
    by_cases same : head = k
    · simp [find?, same] at h
    · simp only [find?, if_neg same] at h
      simpa [same] using ih h

/-- Removing a key that has no value changes nothing. -/
theorem erase_of_get?_eq_none {t : Table κ ν} {k : κ} (h : t.get? k = none) : t.erase k = t := by
  obtain ⟨entries, nodup⟩ := t
  simp only [erase, filter_of_find?_eq_none h]

theorem find?_isSome_iff {entries : List (κ × ν)} {k : κ} :
    (find? entries k).isSome ↔ k ∈ entries.map Prod.fst := by
  induction entries with
  | nil => simp [find?]
  | cons entry rest ih =>
    obtain ⟨head, value⟩ := entry
    by_cases h : head = k
    · simp [find?, h]
    · simp [find?, h, Ne.symm h, ← ih]

theorem mem_of_find?_eq_some {entries : List (κ × ν)} {k : κ} {v : ν}
    (h : find? entries k = some v) : (k, v) ∈ entries := by
  induction entries with
  | nil => cases h
  | cons entry rest ih =>
    obtain ⟨head, value⟩ := entry
    rw [find?] at h
    split at h
    · next same =>
      cases h
      exact same ▸ List.mem_cons_self
    · exact List.mem_cons_of_mem _ (ih h)

/-- What a look-up finds is an entry. -/
theorem mem_entries_of_get? {t : Table κ ν} {k : κ} {v : ν} (h : t.get? k = some v) :
    (k, v) ∈ t.entries :=
  mem_of_find?_eq_some h

/-- What is counted for an entry is no more than what is counted for all. -/
theorem le_foldr_of_get? {t : Table κ ν} {k : κ} {v : ν} (h : t.get? k = some v)
    (size : κ × ν → Nat) (start : Nat) :
    size (k, v) ≤ t.entries.foldr (fun entry rest => size entry + rest) start := by
  have there := mem_entries_of_get? h
  generalize t.entries = entries at there ⊢
  induction entries with
  | nil => cases there
  | cons entry entries ih =>
    rw [List.foldr_cons]
    cases there with
    | head => exact Nat.le_add_right _ _
    | tail _ there => exact Nat.le_trans (ih there) (Nat.le_add_left _ _)

omit [DecidableEq κ] in
/-- Whatever is counted for the entries comes on top of the start. -/
theorem le_foldr (t : Table κ ν) (size : κ × ν → Nat) (start : Nat) :
    start ≤ t.entries.foldr (fun entry rest => size entry + rest) start := by
  induction t.entries with
  | nil => exact Nat.le_refl start
  | cons entry entries ih => exact Nat.le_trans ih (Nat.le_add_left _ _)

/-- A look-up succeeds exactly on the keys. -/
theorem get?_isSome_iff {t : Table κ ν} {k : κ} : (t.get? k).isSome ↔ k ∈ t.keys :=
  find?_isSome_iff

/-! ### The order of changes -/

theorem assign_of_find? {entries : List (κ × ν)} {k : κ} {v : ν} (h : find? entries k = some v) :
    assign entries k v = entries := by
  induction entries with
  | nil => cases h
  | cons entry rest ih =>
    obtain ⟨head, value⟩ := entry
    by_cases same : head = k
    · rw [find?, if_pos same, Option.some.injEq] at h
      rw [assign, if_pos same, h]
    · rw [find?, if_neg same] at h
      rw [assign, if_neg same, ih h]

/-- To set a key to the value that it has changes nothing. -/
theorem insert_of_get?_eq_some {t : Table κ ν} {k : κ} {v : ν} (h : t.get? k = some v) :
    t.insert k v = t :=
  ext_entries (assign_of_find? h)

theorem assign_comm {entries : List (κ × ν)} {k l : κ} (apart : k ≠ l) (v u : ν)
    (h : (find? entries k).isSome) :
    assign (assign entries k v) l u = assign (assign entries l u) k v := by
  induction entries with
  | nil => cases h
  | cons entry rest ih =>
    obtain ⟨head, value⟩ := entry
    by_cases first : head = k
    · subst first
      simp [assign, apart]
    · by_cases second : head = l
      · subst second
        simp [assign, first]
      · rw [find?, if_neg first] at h
        simp [assign, first, second, ih h]

/-- Two keys can be set in any order, as long as one of them has its place already. -/
theorem insert_comm {t : Table κ ν} {k l : κ} (apart : k ≠ l) (v u : ν) (h : (t.get? k).isSome) :
    (t.insert k v).insert l u = (t.insert l u).insert k v :=
  ext_entries (assign_comm apart v u h)

theorem filter_assign {k l : κ} (apart : k ≠ l) (entries : List (κ × ν)) (v : ν) :
    (assign entries k v).filter (·.1 ≠ l) = assign (entries.filter (·.1 ≠ l)) k v := by
  induction entries with
  | nil => simp [assign, apart]
  | cons entry rest ih =>
    obtain ⟨head, value⟩ := entry
    by_cases same : head = k
    · subst same
      simp [assign, apart]
    · by_cases other : head = l
      · subst other
        simpa [assign, same] using ih
      · simpa [assign, same, other] using ih

/-- One key can be set and another one removed in any order. -/
theorem erase_insert (t : Table κ ν) {k l : κ} (apart : k ≠ l) (v : ν) :
    (t.insert k v).erase l = (t.erase l).insert k v :=
  ext_entries (filter_assign apart t.entries v)

/-- Two keys can be removed in any order. -/
theorem erase_comm (t : Table κ ν) (k l : κ) : (t.erase k).erase l = (t.erase l).erase k := by
  apply ext_entries
  simp only [erase, List.filter_filter, Bool.and_comm]

/-! ### A function on the values -/

section Map

variable {μ : Type} (f : ν → μ) (t : Table κ ν) (k : κ)

@[simp] theorem get?_map : (t.map f).get? k = (t.get? k).map f := by
  simp only [get?, map]
  induction t.entries with
  | nil => rfl
  | cons entry rest ih =>
    rw [List.map_cons, find?, find?, ih]
    split <;> rfl

@[simp] theorem map_insert (v : ν) : (t.insert k v).map f = (t.map f).insert k (f v) := by
  apply ext_entries
  simp only [insert, map]
  induction t.entries with
  | nil => rfl
  | cons entry rest ih =>
    rw [List.map_cons, assign, assign, ← ih]
    split <;> rfl

@[simp] theorem map_erase : (t.erase k).map f = (t.map f).erase k := by
  apply ext_entries
  simp only [erase, map, List.filter_map]
  rfl

end Map

end Table

end Semihosting
