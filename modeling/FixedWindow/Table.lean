/-!
# Tables

A table holds at most one value under each key. Nothing depends on the order of its rows: what can
be seen of a table is `get?` and `size`.

## Main definitions

* `Table.get?`, `Table.insert`, `Table.retain`, `Table.size`.
* `Table.keys`: the keys that are held.

## Main statements

* `Table.get?_insert`, `Table.get?_retain`: what each operation does to the values that are found.
-/

namespace FixedWindow

/-- A finite map from texts to values. -/
structure Table (α : Type) where
  rows : List (String × α)
  nodup_keys : (rows.map Prod.fst).Nodup

namespace Table

variable {α : Type}

/-- The table without rows. -/
def empty : Table α := ⟨[], List.nodup_nil⟩

instance : Inhabited (Table α) := ⟨empty⟩

/-- The keys that are held. -/
def keys (t : Table α) : List String := t.rows.map Prod.fst

/-- The value under a key. -/
def get? (t : Table α) (key : String) : Option α :=
  (t.rows.find? fun row => row.1 = key).map Prod.snd

/-- The number of keys held. -/
def size (t : Table α) : Nat := t.rows.length

/-- Keeps the rows that pass a test. -/
def retain (t : Table α) (keep : String → α → Bool) : Table α where
  rows := t.rows.filter fun row => keep row.1 row.2
  nodup_keys := t.nodup_keys.sublist (List.filter_sublist.map _)

/-- Puts a value under a key, in place of the one that was there. -/
def insert (t : Table α) (key : String) (value : α) : Table α where
  rows := (key, value) :: (t.retain fun k _ => k ≠ key).rows
  nodup_keys := by
    simp only [List.map_cons, List.nodup_cons]
    refine ⟨?_, (t.retain fun k _ => k ≠ key).nodup_keys⟩
    simp [retain]

@[simp] theorem get?_empty (key : String) : (empty : Table α).get? key = none := rfl

@[simp] theorem size_empty : (empty : Table α).size = 0 := rfl

theorem get?_insert_self (t : Table α) (key : String) (value : α) :
    (t.insert key value).get? key = some value := by
  simp [get?, insert]

/-- An insertion leaves every other key alone. -/
theorem get?_insert_of_ne (t : Table α) {key other : String} (value : α) (h : other ≠ key) :
    (t.insert key value).get? other = t.get? other := by
  have key_ne : key ≠ other := fun e => h e.symm
  simp only [get?, insert, List.find?_cons, key_ne, decide_false, retain, List.find?_filter]
  congr 2
  funext row
  by_cases hr : row.1 = other
  · simp [hr, h]
  · simp [hr]

/-- After an insertion the key holds the new value and all other keys hold their old ones. -/
theorem get?_insert (t : Table α) (key other : String) (value : α) :
    (t.insert key value).get? other = if other = key then some value else t.get? other := by
  split
  · rename_i h; rw [h, get?_insert_self]
  · rename_i h; exact get?_insert_of_ne t value h

/-- Of two insertions under one key the later one counts. -/
theorem insert_insert (t : Table α) (key : String) (value later : α) :
    (t.insert key value).insert key later = t.insert key later := by
  simp [insert, retain]

theorem mem_rows_of_get? {t : Table α} {key : String} {value : α} (h : t.get? key = some value) :
    (key, value) ∈ t.rows := by
  simp only [get?, Option.map_eq_some_iff] at h
  obtain ⟨row, hrow, rfl⟩ := h
  have hkey := List.find?_some hrow
  have hmem := List.mem_of_find?_eq_some hrow
  simp only [decide_eq_true_eq] at hkey
  rw [← hkey]
  exact hmem

/-- A row is found under its key. -/
theorem get?_eq_some_iff {t : Table α} {key : String} {value : α} :
    t.get? key = some value ↔ (key, value) ∈ t.rows := by
  refine ⟨mem_rows_of_get?, ?_⟩
  obtain ⟨rows, hnodup⟩ := t
  intro h
  simp only [get?] at h ⊢
  induction rows with
  | nil => simp at h
  | cons row rest ih =>
    simp only [List.map_cons, List.nodup_cons] at hnodup
    rcases List.mem_cons.mp h with rfl | hrest
    · simp
    · have hne : row.1 ≠ key := by
        intro e
        exact hnodup.1 (List.mem_map.mpr ⟨(key, value), hrest, e.symm⟩)
      simp only [List.find?_cons, hne, decide_false]
      exact ih hnodup.2 hrest

/-- After `retain` a key holds its old value if that passes the test, and nothing otherwise. -/
theorem get?_retain (t : Table α) (keep : String → α → Bool) (key : String) :
    (t.retain keep).get? key = (t.get? key).filter (keep key) := by
  apply Option.ext
  intro value
  rw [get?_eq_some_iff, Option.filter_eq_some_iff, get?_eq_some_iff]
  simp [retain]

theorem mem_keys_iff {t : Table α} {key : String} : key ∈ t.keys ↔ (t.get? key).isSome := by
  constructor
  · intro h
    obtain ⟨row, hrow, rfl⟩ := List.mem_map.mp h
    rw [get?_eq_some_iff.mpr hrow]
    rfl
  · intro h
    obtain ⟨value, hvalue⟩ := Option.isSome_iff_exists.mp h
    exact List.mem_map.mpr ⟨_, get?_eq_some_iff.mp hvalue, rfl⟩

theorem size_eq_length_keys (t : Table α) : t.size = t.keys.length := by
  simp [size, keys]

end Table

end FixedWindow
