import FixedWindow.Settings.Layer

/-!
# Settings from the environment

An environment variable whose name begins with the right word names a setting by the rest of its
name, two underscores standing for a step into a section. Letters may have any case. Its value is
taken for a truth value or a number where it reads as one, and for a text otherwise.

## Main definitions

* `Settings.environmentKey?`: the key that a variable names.
* `Settings.Scalar.ofVariable`: the value that a variable holds.
* `Settings.environmentEntries`.
-/

namespace FixedWindow.Settings

/-- The name of the environment as a source of settings. -/
def environmentOrigin : String := "the environment"

/-- What the names of variables begin with. -/
def variableLead : List Char := "tierlimit__".toList

/-- A name with a point in place of every two underscores. -/
def pointed : List Char → List Char
  | '_' :: '_' :: rest => '.' :: pointed rest
  | c :: rest => c :: pointed rest
  | [] => []

/-- The key that a variable names, if it is one for settings. -/
def environmentKey? (variableName : String) : Option String :=
  let cs := (Text.lowercase variableName).toList
  if variableLead.isPrefixOf cs then
    some (String.ofList (pointed (cs.drop variableLead.length)))
  else none

/-- The value that a variable holds. -/
def Scalar.ofVariable (s : String) : Scalar :=
  let word := Text.lowercase s
  if word = "true" then .bool true
  else if word = "false" then .bool false
  else
    match Number.readInt64? s, Binary64.read? s with
    | some n, _ => .integer n
    | none, some x => .float x
    | none, none => .text s

/-- The entries that variables give. -/
def environmentEntries (environment : List (String × String)) : List (String × Value) :=
  environment.filterMap fun (name, value) =>
    (environmentKey? name).map fun key =>
      (key, .scalar (.ofVariable value) (some environmentOrigin))

end FixedWindow.Settings
