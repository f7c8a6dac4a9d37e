import FixedWindow.Error
import FixedWindow.Number.Binary64
import FixedWindow.Settings.KeyPath
import FixedWindow.Text.Lowercase

/-!
# Layers of settings

Layered settings are a tree of values, put together from sources of growing precedence. A later
source replaces single values, while tables are merged name by name. Names do not depend on the case
of their letters, so they are kept in lower case. An item of a list that is counted from the end has
to be there, and one that is counted from the front must not lie beyond what a list can hold: a key
that asks for another item aborts the merge.

## Main definitions

* `Settings.Scalar`, `Settings.Value`: values, with where they came from.
* `Settings.mergeField`: puts a value under a name of a table.
* `Settings.Value.put`: puts a value under a key.
* `Settings.merge`: the tree that the entries of several sources make up.
-/

namespace FixedWindow.Settings

/-- A single value. -/
inductive Scalar
  | nothing
  | bool (b : Bool)
  | integer (n : Int)
  | float (x : Binary64)
  | text (s : String)
  deriving DecidableEq, Repr

/-- A value among layered settings, with the name of the source that it came from. -/
inductive Value
  | scalar (s : Scalar) (origin : Option String)
  | list (items : List Value) (origin : Option String)
  | table (rows : List (String × Value)) (origin : Option String)
  deriving Repr, Inhabited

/-- The rows with a value under a name: in place of the one that is there, or behind all others. -/
def setRow (rows : List (String × Value)) (name : String) (value : Value) :
    List (String × Value) :=
  match rows with
  | [] => [(name, value)]
  | (n, v) :: rest => if n = name then (n, value) :: rest else (n, v) :: setRow rest name value

theorem lookup_setRow_self (rows : List (String × Value)) (name : String) (value : Value) :
    (setRow rows name value).lookup name = some value := by
  induction rows with
  | nil => simp [setRow]
  | cons row rest ih =>
    obtain ⟨n, v⟩ := row
    by_cases h : n = name
    · simp [setRow, h]
    · have h' : (name == n) = false := by simpa using fun e => h e.symm
      simp [setRow, h, List.lookup_cons, h', ih]

/-- Setting a row leaves every other name alone. -/
theorem lookup_setRow_of_ne (rows : List (String × Value)) {name other : String} (value : Value)
    (h : other ≠ name) : (setRow rows name value).lookup other = rows.lookup other := by
  induction rows with
  | nil =>
    have h' : (other == name) = false := by simpa using h
    simp [setRow, List.lookup_cons, h']
  | cons row rest ih =>
    obtain ⟨n, v⟩ := row
    by_cases hn : n = name
    · have h' : (other == n) = false := by simpa [hn] using h
      simp [setRow, hn, List.lookup_cons, hn ▸ h']
    · simp [setRow, hn, List.lookup_cons, ih]

/-- How many items a list can hold: as many, of 96 bytes each, as a signed word counts bytes. -/
def maxItems : Nat := 9223372036854775807 / 96

namespace Value

/-- A value that came from nowhere. -/
def absent : Value := .scalar .nothing none

/-- The rows of a table. Any other value counts as a table without rows. -/
def rows : Value → List (String × Value)
  | table rows _ => rows
  | _ => []

/-- A value made a table with the given rows. -/
def withRows (v : Value) (rows : List (String × Value)) : Value :=
  match v with
  | table _ origin => table rows origin
  | _ => table rows none

/-- The items of a list, at least `n` of them. Any other value counts as a list without items. -/
def items (v : Value) (n : Nat) : List Value :=
  let items := match v with
    | list items _ => items
    | _ => []
  items ++ List.replicate (n - items.length) absent

/-- A value made a list with the given items. -/
def withItems (v : Value) (items : List Value) : Value :=
  match v with
  | list _ origin => list items origin
  | _ => list items none

/-- The place of an item in a list: from the front, or from the end for a negative number. -/
def itemIndex (v : Value) (i : Int) : Except Abort Nat :=
  let length := (v.items 0).length
  if i < 0 then
    if length < i.natAbs then .error .belowZero else .ok (length - i.natAbs)
  else if i.toNat < maxItems then .ok i.toNat
  else .error .listPastEnd

end Value

mutual

/-- Puts a value under a name of a table. A table is merged row by row into one that is there. -/
def mergeField (rows : List (String × Value)) (name : String) :
    Value → List (String × Value)
  | .table incoming _ =>
    let name := Text.lowercase name
    setRow rows name (mergeRows ((rows.lookup name).getD (.table [] none)) incoming)
  | .scalar s origin => setRow rows (Text.lowercase name) (.scalar s origin)
  | .list items origin => setRow rows (Text.lowercase name) (.list items origin)

/-- Merges rows into a value, which becomes a table if there are any. -/
def mergeRows (target : Value) : List (String × Value) → Value
  | [] => target
  | (name, value) :: rest =>
    mergeRows (target.withRows (mergeField target.rows name value)) rest

end

namespace Value

/-- Changes the value at a path. Tables and lists come into being where the path needs them. -/
def modifyAt (change : Value → Except Abort Value) : List KeyStep → Value → Except Abort Value
  | [], v => change v
  | .field name :: rest, v =>
    let name := Text.lowercase name
    let inner := (v.rows.lookup name).getD absent
    (modifyAt change rest inner).map fun changed => v.withRows (setRow v.rows name changed)
  | .item i :: rest, v => do
    let k ← v.itemIndex i
    let items := v.items (k + 1)
    let changed ← modifyAt change rest (items[k]?.getD absent)
    pure (v.withItems (items.set k changed))

/-- Puts a value at the last step of a path. -/
def putStep (value : Value) (step : KeyStep) (v : Value) : Except Abort Value :=
  match step with
  | .field name => .ok (v.withRows (mergeField v.rows name value))
  | .item i => (v.itemIndex i).map fun k => v.withItems ((v.items (k + 1)).set k value)

/-- Puts a value under a key. -/
def put (root : Value) (key : String) (value : Value) : Except Abort Value :=
  let path := keyPath key
  match path.getLast? with
  | some last => root.modifyAt (putStep value last) path.dropLast
  | none => .ok root

end Value

/-- The tree that the entries of all sources make up, the later ones over the earlier ones. -/
def merge (entries : List (String × Value)) : Except Abort Value :=
  entries.foldlM (fun root (key, value) => root.put key value) (.table [] none)

end FixedWindow.Settings
