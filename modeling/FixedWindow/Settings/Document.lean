import FixedWindow.Settings.Validation
import FixedWindow.Yaml.Node
import FixedWindow.Yaml.Plain

/-!
# Settings from a YAML text

A text holds settings if it is one well-formed document: a mapping of sections, each a mapping of
fields with values of the right types. What is not named keeps its default, unknown keys are passed
over, and no field may stand twice. The text is read in order, so a value of the wrong type counts
before a fault in the text behind it.

## Main definitions

* `Settings.Reader`: what reads a node into what has been read so far.
* `Settings.readMapping`: the fields of a mapping, in order.
* `Settings.ofYaml`.
-/

namespace FixedWindow.Settings

open Yaml

/-- What ends the reading of a document: its text breaks off, or a value does not fit. -/
inductive Halt
  | broken
  | misfit (m : Misfit)
  deriving DecidableEq, Repr

/-- A collection within a document: the keys that lead to it and where it begins. -/
structure Place where
  path : List String := []
  mark : Mark := {}

/-- Stops for a problem at a mark. -/
def Place.stop {α : Type} (place : Place) (mark : Mark) (problem : Problem) : Except Halt α :=
  .error (.misfit ⟨problem, place.path, mark.line, mark.column⟩)

/-- The tags of the core schema share this beginning. -/
def coreTag (name : String) : String := "tag:yaml.org,2002:" ++ name

/-- What a plain scalar of a given meaning is found to be. -/
def Found.ofPlain (text : String) : Plain → Found
  | .null => .nothing
  | .bool b => .bool b
  | .integer n wide => .integer n wide
  | .float x => .float x
  | .text => .text text

/-- The problem of a scalar where something else is expected. A tag of the core schema has to fit
the text; any other tag leaves a plain scalar its meaning, if it is a name of the document's own. -/
def scalarProblem (expected : Expected) (tag : Option String) (style : Style) (text : String) :
    Problem :=
  let plain := coreMeaning text
  let typed (found? : Option Found) (wanted : Expected) : Problem :=
    match found? with
    | some found => .invalidType found expected
    | none => .invalidValue text wanted
  let untyped : Problem :=
    .invalidType (if style = .plain then .ofPlain text plain else .text text) expected
  match tag with
  | none => untyped
  | some t =>
    if t = coreTag "bool" then typed ((coreBool? text).map .bool) .truth
    else if t = coreTag "int" then typed ((coreInteger? text).map (.ofPlain text)) .whole
    else if t = coreTag "float" then typed ((coreFloat? text).map .float) .fraction
    else if t = coreTag "null" then typed (if coreIsNull text then some .nothing else none) .null
    else if t.startsWith "!" then untyped
    else .invalidType (.text text) expected

/-- Stops because a node is of the wrong kind. -/
def Place.refuse {α : Type} (place : Place) (expected : Expected) : Node → Except Halt α
  | .scalar mark tag style text => place.stop mark (scalarProblem expected tag style text)
  | .sequence mark .. => place.stop mark (.invalidType .sequence expected)
  | .mapping mark .. => place.stop mark (.invalidType .mapping expected)
  | .alias .. | .missing => .error .broken

/-- Reads a node, which stands at `place` within the collection `around`, into what has been read so
far. -/
abbrev Reader (σ : Type) := (around place : Place) → Node → σ → Except Halt σ

/-- Reads a scalar by its text, if its style and its tag allow that it is anything but a text. -/
def readPlain {α : Type} (tag : String) (read? : String → Option α) (expected : Expected)
    (place : Place) (node : Node) : Except Halt α :=
  match node with
  | .scalar _ t style text =>
    if style = .plain ∨ style = .literal ∧ t = some tag then
      match read? text with
      | some value => .ok value
      | none => place.refuse expected node
    else place.refuse expected node
  | _ => place.refuse expected node

/-- Reads an unsigned word of 64 bits. -/
def readWord (expected : Expected) : Place → Node → Except Halt Nat :=
  readPlain (coreTag "int") (coreUnsigned? 64) expected

/-- Reads a truth value. -/
def readTruth : Place → Node → Except Halt Bool := readPlain (coreTag "bool") coreBool? .truth

/-- Reads a text. Any scalar is one, as it is written. -/
def readText (place : Place) : Node → Except Halt String
  | .scalar _ _ _ text => .ok text
  | node => place.refuse .string node

/-- Whether a node stands for nothing at all. -/
def isVoid : Node → Bool
  | .scalar _ _ style text => style = .plain && (text = "" || coreIsNull text)
  | _ => false

/-- Reads the name of a store: the text of a scalar, or a tag of the document's own in front of
nothing. -/
def readStoreKind (around place : Place) (node : Node) : Except Halt StoreKind :=
  let tag? := match node with
    | .scalar _ tag _ _ => tag
    | .sequence _ tag _ => tag
    | .mapping _ tag _ => tag
    | _ => none
  match tag?.filter (·.startsWith "!") with
  | some tag =>
    let name := (tag.drop 1).toString
    match StoreKind.ofLabel? name with
    | none => around.stop around.mark (.unknownBackend name)
    | some kind => if isVoid node then .ok kind else place.refuse .unit node
  | none =>
    match node with
    | .scalar mark _ _ text =>
      match StoreKind.ofLabel? text with
      | some kind => .ok kind
      | none => place.stop mark (.unknownBackend text)
    | other => place.refuse .tag other

/-- Reads the entries of a mapping in order. A field that has been read is not read again. -/
def readEntries {σ : Type} (d : Document) (here : Place) (fields : List (String × Reader σ)) :
    List (Node × Node) → (seen : List String) → σ → Except Halt σ
  | [], _, acc => .ok acc
  | (key, value) :: rest, seen, acc =>
    match d.resolve key with
    | .scalar _ _ _ name =>
      match fields.lookup name with
      | none => if value.isBroken then .error .broken else readEntries d here fields rest seen acc
      | some read => do
        if seen.contains name then here.stop here.mark (.duplicate name)
        let component := match key with
          | .alias .. => "?"
          | _ => name
        let acc ← read here { path := here.path ++ [component] } (d.resolve value) acc
        readEntries d here fields rest (name :: seen) acc
    | other => here.refuse .fieldName other

/-- Reads a mapping of known fields. A node that is not written at all is the empty mapping. -/
def readMapping {σ : Type} (d : Document) (expected : Expected)
    (fields : List (String × Reader σ)) (place : Place) (node : Node) (acc : σ) : Except Halt σ :=
  match node with
  | .mapping mark _ entries => readEntries d { place with mark } fields entries [] acc
  | .scalar _ _ style text =>
    if style = .plain ∧ text = "" then .ok acc else place.refuse expected node
  | _ => place.refuse expected node

/-- A field of a section: how its value is read and where it goes. -/
def Reader.field {σ α : Type} (read : Place → Node → Except Halt α) (put : α → σ → σ) : Reader σ :=
  fun _ place node acc => (read place node).map fun value => put value acc

/-- A section of the settings: its fields, and where it goes. -/
def Reader.section {σ τ : Type} (d : Document) (expected : Expected)
    (fields : List (String × Reader τ)) (get : σ → τ) (put : τ → σ → σ) : Reader σ :=
  fun _ place node acc =>
    (readMapping d expected fields place node (get acc)).map fun value => put value acc

/-- The fields of the section on the store. -/
def storeFields : List (String × Reader StoreSettings) := [
  ("backend", fun around place node s =>
    (readStoreKind around place node).map fun v => { s with backend := v }),
  ("url", .field readText fun v s => { s with url := v }),
  ("pool_size", .field (readWord .size) fun v s => { s with poolSize := v }),
  ("timeout_ms", .field (readWord .word) fun v s => { s with timeoutMs := v }),
  ("key_prefix", .field readText fun v s => { s with keyPrefix := v })]

/-- The fields of the section on windows and limits. -/
def limitFields : List (String × Reader LimitSettings) := [
  ("window_secs", .field (readWord .word) fun v s => { s with windowSecs := v }),
  ("sweep_interval_secs", .field (readWord .word) fun v s => { s with sweepIntervalSecs := v }),
  ("default_limit", .field (readWord .word) fun v s => { s with defaultLimit := v })]

/-- The fields of the section on the log. -/
def logFields : List (String × Reader LogSettings) := [
  ("level", .field readText fun v s => { s with level := v }),
  ("json", .field readTruth fun v s => { s with json := v })]

/-- The sections of the settings. -/
def sections (d : Document) : List (String × Reader Settings) := [
  ("store", .section d .store storeFields (·.store) fun v s => { s with store := v }),
  ("rate_limiting", .section d .limits limitFields (·.limits) fun v s => { s with limits := v }),
  ("logging", .section d .log logFields (·.log) fun v s => { s with log := v })]

/-- Reads the settings that a document holds. -/
def ofDocument (d : Document) : Except Halt Settings :=
  readMapping d .settings (sections d) {} (d.resolve d.root) {}

/-- Reads the settings that a text holds. A text without a document holds the defaults. -/
def ofYaml (text : String) : Except LimitError Settings :=
  let stream := Yaml.stream .strict text
  let read : Except Halt Settings := match stream.documents with
    | [] => .ok {}
    | d :: _ => ofDocument d
  match read with
  | .error (.misfit m) => .error (.config (.misfit m))
  | .error .broken => .error (.config .malformedText)
  | .ok s =>
    if stream.complete ∧ stream.documents.length ≤ 1 then s.validate
    else .error (.config .malformedText)

end FixedWindow.Settings
