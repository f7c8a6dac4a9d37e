import FixedWindow.Yaml.Event

/-!
# Documents of a YAML text

The events of a text make up documents, each a tree of nodes. Where the events end too early, the
tree ends in a node that is missing, and all that came before is there. Anchored nodes are numbered
in the order in which they begin, and an alias refers to such a number.

## Main definitions

* `Yaml.Node`, `Yaml.Document`, `Yaml.Stream`.
* `Yaml.stream`: the documents of a text.
* `Yaml.Document.resolve`: the node that an alias stands for.
-/

namespace FixedWindow.Yaml

/-- A node of a document, with the place where it begins. An alias tells whether it stands within
the node that it refers to. -/
inductive Node
  | scalar (mark : Mark) (tag : Option String) (style : Style) (text : String)
  | sequence (mark : Mark) (tag : Option String) (items : List Node)
  | mapping (mark : Mark) (tag : Option String) (entries : List (Node × Node))
  | alias (mark : Mark) (target : Nat) (within : Bool)
  | missing
  deriving Repr, Inhabited

/-- The root of a document and the nodes that aliases refer to. -/
structure Document where
  root : Node
  anchored : List (Nat × Node) := []
  deriving Inhabited

/-- The documents of a text. It is complete if the text is well formed to its end. -/
structure Stream where
  documents : List Document
  complete : Bool

/-- The state while nodes are put together: the events left, the numbers of the anchors by name, the
latest first, the anchored nodes that are complete, and the next number. -/
structure Composing where
  events : List Event
  names : List (String × Nat) := []
  anchored : List (Nat × Node) := []
  next : Nat := 0

namespace Composing

/-- Notes that an anchored node begins, and gives its number. -/
def begin (c : Composing) (anchor : Option String) : Option Nat × Composing :=
  match anchor with
  | none => (none, c)
  | some name => (some c.next, { c with names := (name, c.next) :: c.names, next := c.next + 1 })

/-- Notes that an anchored node is complete. -/
def finish (c : Composing) (number : Option Nat) (node : Node) : Node × Composing :=
  match number with
  | none => (node, c)
  | some n => (node, { c with anchored := (n, node) :: c.anchored })

mutual

/-- The node at the front of the events. An unknown alias breaks the text off. -/
def node (c : Composing) : Nat → Node × Composing
  | 0 => (.missing, { c with events := [] })
  | fuel + 1 =>
    match c.events with
    | [] => (.missing, c)
    | e :: rest =>
      let after := { c with events := rest }
      match e.kind with
      | .alias name =>
        match c.names.lookup name with
        | some n => (.alias e.mark n (c.anchored.lookup n).isNone, after)
        | none => (.missing, { c with events := [] })
      | .scalar anchor tag text style =>
        let (number, c) := after.begin anchor
        c.finish number (.scalar e.mark tag style text)
      | .sequenceStart anchor tag =>
        let (number, c) := after.begin anchor
        let (items, c) := items c fuel
        c.finish number (.sequence e.mark tag items)
      | .mappingStart anchor tag =>
        let (number, c) := after.begin anchor
        let (entries, c) := entries c fuel
        c.finish number (.mapping e.mark tag entries)
      | _ => (.missing, { c with events := [] })

/-- The items of a sequence up to its end. -/
def items (c : Composing) : Nat → List Node × Composing
  | 0 => ([.missing], { c with events := [] })
  | fuel + 1 =>
    match c.events with
    | [] => ([.missing], c)
    | e :: rest =>
      if e.kind = .sequenceEnd then ([], { c with events := rest })
      else
        let (first, c) := node c fuel
        let (others, c) := items c fuel
        (first :: others, c)

/-- The entries of a mapping up to its end. -/
def entries (c : Composing) : Nat → List (Node × Node) × Composing
  | 0 => ([(.missing, .missing)], { c with events := [] })
  | fuel + 1 =>
    match c.events with
    | [] => ([(.missing, .missing)], c)
    | e :: rest =>
      if e.kind = .mappingEnd then ([], { c with events := rest })
      else
        let (key, c) := node c fuel
        let (value, c) := node c fuel
        let (others, c) := entries c fuel
        ((key, value) :: others, c)

end

/-- The documents that the events make up. -/
def documents (events : List Event) : Nat → Stream
  | 0 => ⟨[], false⟩
  | fuel + 1 =>
    match events with
    | [] => ⟨[], false⟩
    | e :: rest =>
      if e.kind = .streamEnd then ⟨[], true⟩
      else if e.kind = .documentStart then
        let (root, c) := node { events := rest } (rest.length + 1)
        let document : Document := ⟨root, c.anchored⟩
        match c.events with
        | [] => ⟨[document], false⟩
        | _ :: others =>
          let stream := documents others fuel
          { stream with documents := document :: stream.documents }
      else ⟨[], false⟩

end Composing

/-- The documents of a text. -/
def stream (dialect : Dialect) (text : String) : Stream :=
  let events := events dialect text
  Composing.documents events (events.length + 1)

/-- The node that an alias stands for; any other node stands for itself. -/
def Document.resolve (d : Document) : Node → Node
  | .alias _ target _ => (d.anchored.lookup target).getD .missing
  | node => node

mutual

/-- Whether the text breaks off inside of a node. -/
def Node.isBroken : Node → Bool
  | .missing => true
  | .sequence _ _ items => anyBroken items
  | .mapping _ _ entries => anyEntryBroken entries
  | _ => false

/-- Whether the text breaks off inside of one of several nodes. -/
def Node.anyBroken : List Node → Bool
  | [] => false
  | node :: rest => node.isBroken || anyBroken rest

/-- Whether the text breaks off inside of one of several entries. -/
def Node.anyEntryBroken : List (Node × Node) → Bool
  | [] => false
  | (key, value) :: rest => key.isBroken || value.isBroken || anyEntryBroken rest

end

end FixedWindow.Yaml
