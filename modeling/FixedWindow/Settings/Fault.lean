import FixedWindow.Number.Binary64
import FixedWindow.Settings.Basic
import FixedWindow.Text.Quoted

/-!
# What is wrong with settings

Settings are turned down because their text cannot be read, because a value has the wrong type, or
because they do not meet a condition. The wording of a fault stands in its `message`.

## Main definitions

* `Settings.Found`, `Settings.Expected`: what stands somewhere and what should stand there.
* `Settings.Misfit`: a value of the wrong kind in a single text, with its place.
* `Settings.Mistyped`: a value of the wrong kind among layered settings, with its key.
* `Settings.Fault`.
-/

namespace FixedWindow.Settings

/-- What stands where something else is expected. An integer is wide if no word of 64 bits holds
it. -/
inductive Found
  | nothing
  | bool (b : Bool)
  | integer (n : Int) (wide : Bool)
  | float (x : Binary64)
  | text (s : String)
  | sequence
  | mapping
  deriving DecidableEq, Repr

namespace Found

/-- The wording of what stands in a text. Numbers with a fraction part always show one. -/
def wording : Found → String
  | nothing => "unit value"
  | bool b => "boolean `" ++ toString b ++ "`"
  | integer n wide =>
    "integer `" ++ toString n ++ "`" ++
      (if wide then if 0 ≤ n then " as u128" else " as i128" else "")
  | float x => "floating point `" ++ x.pointedText ++ "`"
  | text s => "string " ++ Text.quoted s
  | sequence => "sequence"
  | mapping => "map"

/-- The wording of a single value among layered settings, which tells the width of an integer. -/
def valueWording : Found → String
  | integer n _ => "64-bit integer `" ++ toString n ++ "`"
  | float x => "floating point `" ++ x.text ++ "`"
  | other => other.wording

end Found

/-- What may be expected somewhere. -/
inductive Expected
  | settings
  | store
  | limits
  | log
  | fieldName
  | word
  | size
  | string
  | truth
  | whole
  | wholeUnsigned
  | fraction
  | null
  | unit
  | tag
  | mapping
  deriving DecidableEq, Repr

/-- The wording of what is expected. -/
def Expected.wording : Expected → String
  | .settings => "struct TierlimitConfig"
  | .store => "struct StoreConfig"
  | .limits => "struct RateLimitingConfig"
  | .log => "struct LoggingConfig"
  | .fieldName => "field identifier"
  | .word => "u64"
  | .size => "usize"
  | .string => "a string"
  | .truth => "a boolean"
  | .whole => "an integer"
  | .wholeUnsigned => "an unsigned 64 bit or less integer"
  | .fraction => "a float"
  | .null => "null"
  | .unit => "unit"
  | .tag => "a YAML tag starting with '!'"
  | .mapping => "a map"

/-- A value of the wrong kind, or a key that stands twice. -/
inductive Problem
  | invalidType (found : Found) (expected : Expected)
  | invalidValue (text : String) (expected : Expected)
  | unknownBackend (name : String)
  | duplicate (field : String)
  deriving DecidableEq, Repr

/-- The wording of a problem. -/
def Problem.message : Problem → String
  | .invalidType found expected =>
    "invalid type: " ++ found.wording ++ ", expected " ++ expected.wording
  | .invalidValue text expected =>
    "invalid value: string " ++ Text.quoted text ++ ", expected " ++ expected.wording
  | .unknownBackend name =>
    "unknown variant `" ++ name ++ "`, expected `redis` or `memory`"
  | .duplicate field => "duplicate field `" ++ field ++ "`"

/-- A problem in a single text, with the keys that lead to it and its line and column, counted from
zero. -/
structure Misfit where
  problem : Problem
  path : List String
  line : Nat
  column : Nat
  deriving DecidableEq, Repr

/-- The wording of a misfit. What begins the text has neither a path nor a place. -/
def Misfit.message (m : Misfit) : String :=
  (if m.path.isEmpty then "" else ".".intercalate m.path ++ ": ")
  ++ m.problem.message
  ++ (if m.line = 0 ∧ m.column = 0 then ""
      else " at line " ++ toString (m.line + 1) ++ " column " ++ toString (m.column + 1))

/-- A value of the wrong kind among layered settings, with its key and with where it came from. -/
structure Mistyped where
  found : Found
  expected : Expected
  key : Option String := none
  origin : Option String := none
  deriving DecidableEq, Repr

/-- The wording of a value of the wrong kind. -/
def Mistyped.message (m : Mistyped) : String :=
  "invalid type: " ++ m.found.valueWording ++ ", expected " ++ m.expected.wording
  ++ (m.key.elim "" fun key => " for key `" ++ key ++ "`")
  ++ (m.origin.elim "" fun origin => " in " ++ origin)

/-- Why settings are turned down. -/
inductive Fault
  /-- They do not meet a condition. -/
  | unmet (condition : Condition)
  /-- The text that holds them is not well formed. -/
  | malformedText
  /-- A value in the text that holds them is of the wrong kind. -/
  | misfit (m : Misfit)
  /-- There is no file of the name. -/
  | fileMissing (name : String)
  /-- The file is not well formed. -/
  | malformedFile
  /-- The file does not hold exactly one document. -/
  | documentCount (n : Nat) (file : String)
  /-- The file does not hold a mapping. -/
  | fileRoot (found : Found) (file : String)
  /-- A number in the file cannot be read. -/
  | unreadableFloat (text file : String)
  /-- A value is of the wrong kind. -/
  | mistyped (m : Mistyped)
  /-- A section is neither a mapping nor a sequence. -/
  | sectionKind (found : Found) (expected : Expected)
  /-- There is no store of the name. -/
  | noSuchBackend (name : String)
  /-- What names the store is neither a text nor a mapping with one key. -/
  | backendKind
  | described (text : String)
  deriving DecidableEq, Repr

/-- The wording of a fault. -/
def Fault.message : Fault → String
  | .unmet condition => condition.message
  | .malformedText => "Failed to parse configuration"
  | .misfit m => "Failed to parse configuration: " ++ m.message
  | .fileMissing name => "configuration file \"" ++ name ++ "\" not found"
  | .malformedFile => "<yaml syntax>"
  | .documentCount n file =>
    "Got " ++ toString n ++ " YAML documents, expected 1 in " ++ file
  | .fileRoot found file =>
    ({ found, expected := .mapping, origin := some file } : Mistyped).message ++ " in " ++ file
  | .unreadableFloat text file =>
    "Parsing " ++ text ++ " as floating point number failed in " ++ file
  | .mistyped m => m.message
  | .sectionKind found expected => (Problem.invalidType found expected).message
  | .noSuchBackend name =>
    "enum StoreBackend does not have variant constructor " ++ name
  | .backendKind =>
    "value of enum StoreBackend should be represented by either string or table "
      ++ "with exactly one key"
  | .described text => text

end FixedWindow.Settings
