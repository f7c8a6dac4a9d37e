import FixedWindow.CommandLine.Help
import FixedWindow.Event
import FixedWindow.Text.Json
import FixedWindow.Text.Lowercase
import FixedWindow.WallTime

/-!
# The written log

The program writes events to its log from a level on, each on a line of its own, either in words or
as JSON. The level is given by directives between commas: a level by itself, or one for the program
by its name. The last directive counts, and without any nothing is written.

## Main definitions

* `Threshold`, `Threshold.ofDirectives`: from which level on events are written.
* `eventLine`: the line for an event.
-/

namespace FixedWindow.CommandLine

/-- How many levels are written, the gravest first. -/
structure Threshold where
  depth : Nat
  deriving DecidableEq, Repr

namespace Threshold

/-- The names of the thresholds, each with one level more than the one before it. -/
def names : List String := ["off", "error", "warn", "info", "debug", "trace"]

/-- The threshold of a name, in letters of any case. -/
def ofName? (name : String) : Option Threshold :=
  (names.findIdx? fun n => n = Text.lowercase name).map Threshold.mk

/-- The threshold that a directive sets for the program. -/
def ofDirective? (directive : String) : Option Threshold :=
  match directive.splitOn "=" with
  | [name] => ofName? name
  | [target, name] => if target = programName then ofName? name else none
  | _ => none

/-- The threshold that directives set. -/
def ofDirectives (directives : String) : Threshold :=
  ((directives.splitOn ",").filterMap ofDirective?).getLast?.getD ⟨0⟩

/-- How many levels are at least as grave as a level. -/
def rank : Level → Nat
  | .error => 1
  | .warn => 2
  | .info => 3
  | .debug => 4
  | .trace => 5

/-- Whether an event is written. -/
def admits (t : Threshold) (e : Event) : Bool := rank e.level ≤ t.depth

end Threshold

/-- The value of a field as JSON. -/
def jsonOf : FieldValue → JsonValue
  | .number n => .number n
  | .flag b => .flag b
  | .text s => .text s

/-- The value of a field in words. -/
def wordsOf : FieldValue → String
  | .number n => toString n
  | .flag b => toString b
  | .text s => s

/-- The line for an event written at a wall time. -/
def eventLine (json : Bool) (wall : WallTime) (e : Event) : String :=
  if json then
    JsonLine.text ⟨[("timestamp", .text wall.text), ("level", .text e.level.label),
      ("message", .text e.message)] ++ e.fields.map fun (name, value) => (name, jsonOf value)⟩
  else
    wall.text ++ " " ++ filled 5 e.level.label ++ " " ++ e.message
      ++ String.join (e.fields.map fun (name, value) => " " ++ name ++ "=" ++ wordsOf value)

end FixedWindow.CommandLine
