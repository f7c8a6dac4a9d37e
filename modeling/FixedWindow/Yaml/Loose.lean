import FixedWindow.Yaml.Node
import FixedWindow.Yaml.Plain

/-!
# Loose values

The loose schema gives every node of a document a value without being told what is expected. Keys
may be any values, but no two keys of a mapping may be equal. An alias has the value of the node
that it refers to, and none within that node.

## Main definitions

* `Yaml.Loose`: values of the loose schema.
* `Yaml.Loose.same`: whether two values are equal, which can be decided.
* `Yaml.Loose.ofNode?`: the value of a node.
* `Yaml.Loose.ofText?`: the values of the documents of a text.
-/

namespace FixedWindow.Yaml

/-- A value of the loose schema. A floating-point number keeps its written form. -/
inductive Loose
  | null
  | bool (b : Bool)
  | integer (n : Int)
  | real (written : String)
  | text (s : String)
  | sequence (items : List Loose)
  | mapping (entries : List (Loose × Loose))
  deriving Repr, Inhabited

namespace Loose

mutual

/-- Whether two values are equal. -/
def same : Loose → Loose → Bool
  | .null, .null => true
  | .bool a, .bool b => a == b
  | .integer a, .integer b => a == b
  | .real a, .real b => a == b
  | .text a, .text b => a == b
  | .sequence a, .sequence b => sameItems a b
  | .mapping a, .mapping b => sameEntries a b
  | _, _ => false

/-- Whether two lists of items are equal. -/
def sameItems : List Loose → List Loose → Bool
  | [], [] => true
  | a :: as, b :: bs => same a b && sameItems as bs
  | _, _ => false

/-- Whether two lists of entries are equal. -/
def sameEntries : List (Loose × Loose) → List (Loose × Loose) → Bool
  | [], [] => true
  | (k, v) :: as, (l, w) :: bs => same k l && same v w && sameEntries as bs
  | _, _ => false

end

mutual

theorem same_iff {a b : Loose} : same a b = true ↔ a = b := by
  cases a <;> cases b <;> simp [same, sameItems_iff, sameEntries_iff]

theorem sameItems_iff {a b : List Loose} : sameItems a b = true ↔ a = b := by
  cases a <;> cases b <;> simp [sameItems, same_iff, sameItems_iff]

theorem sameEntries_iff {a b : List (Loose × Loose)} : sameEntries a b = true ↔ a = b := by
  rcases a with _ | ⟨⟨k, v⟩, as⟩ <;> rcases b with _ | ⟨⟨l, w⟩, bs⟩ <;>
    simp [sameEntries, same_iff, sameEntries_iff, and_assoc]

end

instance : DecidableEq Loose := fun _ _ => decidable_of_iff _ same_iff

/-- The value of a plain scalar without a tag. -/
def ofPlain (s : String) : Loose :=
  match loosePrefixed? s with
  | some n => .integer n
  | none =>
    if s = "" ∨ s = "~" ∨ s = "null" then .null
    else
      match looseBool? s, Number.readInt64? s with
      | some b, _ => .bool b
      | none, some n => .integer n
      | none, none => if looseIsFloat s then .real s else .text s

/-- The value of a scalar. A tag of the core schema has to fit the text of a plain one. -/
def ofScalar (tag : Option String) (style : Style) (s : String) : Loose :=
  if style ≠ .plain then .text s
  else
    match tag with
    | none => ofPlain s
    | some t =>
      if t = "tag:yaml.org,2002:bool" then
        if s = "true" then .bool true else if s = "false" then .bool false else .null
      else if t = "tag:yaml.org,2002:int" then
        (Number.readInt64? s).elim .null .integer
      else if t = "tag:yaml.org,2002:float" then
        if looseIsFloat s then .real s else .null
      else if t = "tag:yaml.org,2002:null" then .null
      else .text s

mutual

/-- The value of a node, where anchored nodes have values already. There is none if a key stands
twice or the text breaks off. -/
def ofNode? (known : List (Nat × Loose)) : Node → Option Loose
  | .scalar _ tag style s => some (ofScalar tag style s)
  | .alias _ target within =>
    some (if within then .null else (known.lookup target).getD .null)
  | .sequence _ _ items => (ofItems? known items).map .sequence
  | .mapping _ _ entries => (ofEntries? known entries).map .mapping
  | .missing => none

/-- The values of items. -/
def ofItems? (known : List (Nat × Loose)) : List Node → Option (List Loose)
  | [] => some []
  | node :: rest => do
    let first ← ofNode? known node
    let others ← ofItems? known rest
    pure (first :: others)

/-- The keys and values of entries. -/
def ofEntries? (known : List (Nat × Loose)) : List (Node × Node) → Option (List (Loose × Loose))
  | [] => some []
  | (key, value) :: rest => do
    let k ← ofNode? known key
    let v ← ofNode? known value
    let others ← ofEntries? known rest
    if others.any fun (l, _) => same k l then none else pure ((k, v) :: others)

end

/-- The value of a document. The anchored nodes get their values in the order in which they end. -/
def ofDocument? (d : Document) : Option Loose := do
  let known ← d.anchored.reverse.foldlM
    (fun known (number, node) => (ofNode? known node).map fun v => (number, v) :: known) []
  ofNode? known d.root

/-- The values of the documents of a text, if it is well formed. -/
def ofText? (text : String) : Option (List Loose) :=
  let stream := Yaml.stream .lenient text
  if stream.complete then stream.documents.mapM ofDocument? else none

end Loose

end FixedWindow.Yaml
