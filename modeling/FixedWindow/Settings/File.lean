import FixedWindow.Error
import FixedWindow.Settings.Layer
import FixedWindow.Yaml.Loose

/-!
# Settings from a file

A settings file is a YAML text with at most one document, a mapping. Its entries are the first layer
of settings.

## Main definitions

* `Settings.Value.ofLoose`: the value for a value of the text.
* `Settings.fileEntries`: the entries of a file.
* `Settings.fileNames`: the names under which a file is looked for.
-/

namespace FixedWindow.Settings

open Yaml (Loose)

mutual

/-- The value for a value of the text. -/
def Value.ofLoose (file : String) : Loose → Except LimitError Value
  | .null => .ok (.scalar .nothing (some file))
  | .bool b => .ok (.scalar (.bool b) (some file))
  | .integer n => .ok (.scalar (.integer n) (some file))
  | .text s => .ok (.scalar (.text s) (some file))
  | .real written =>
    match Binary64.read? written with
    | some x => .ok (.scalar (.float x) (some file))
    | none => .error (.config (.unreadableFloat written file))
  | .sequence items => (itemsOfLoose file items).map (.list · (some file))
  | .mapping entries => (rowsOfLoose file [] entries).map (.table · (some file))

/-- The values for the items of a sequence. -/
def itemsOfLoose (file : String) : List Loose → Except LimitError (List Value)
  | [] => .ok []
  | item :: rest => do
    let first ← Value.ofLoose file item
    let others ← itemsOfLoose file rest
    pure (first :: others)

/-- The rows for the entries of a mapping, behind the rows so far. Names are texts or integers. -/
def rowsOfLoose (file : String) (rows : List (String × Value)) :
    List (Loose × Loose) → Except LimitError (List (String × Value))
  | [] => .ok rows
  | (key, value) :: rest => do
    let name ← match key with
      | .text s => .ok s
      | .integer n => .ok (toString n)
      | _ => .error (.abort .strayKey)
    let v ← Value.ofLoose file value
    rowsOfLoose file (setRow rows name v) rest

end

/-- What a value is found to be. -/
def Value.found : Value → Found
  | .scalar .nothing _ => .nothing
  | .scalar (.bool b) _ => .bool b
  | .scalar (.integer n) _ => .integer n false
  | .scalar (.float x) _ => .float x
  | .scalar (.text s) _ => .text s
  | .list .. => .sequence
  | .table .. => .mapping

/-- The entries of a file with the given content. A file without a document has none. -/
def fileEntries (file content : String) : Except LimitError (List (String × Value)) :=
  match Loose.ofText? content with
  | none => .error (.config .malformedFile)
  | some [] => .ok []
  | some [root] => do
    match ← Value.ofLoose file root with
    | .table rows _ => pure rows
    | other => throw (.config (.fileRoot other.found file))
  | some documents => .error (.config (.documentCount documents.length file))

/-- The names under which a file is looked for: the name given, and that name with an ending. -/
def fileNames (name : String) : List String := [name, name ++ ".yaml", name ++ ".yml"]

/-- A relative name without the parts that stay in place. -/
def plainFileName (name : String) : String :=
  if name.startsWith "/" then name
  else "/".intercalate ((name.splitOn "/").filter fun part => part ≠ "" ∧ part ≠ ".")

end FixedWindow.Settings
