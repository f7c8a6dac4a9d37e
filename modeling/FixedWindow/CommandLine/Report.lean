import FixedWindow.Decision
import FixedWindow.Error
import FixedWindow.Settings.Basic
import FixedWindow.Text.Json
import FixedWindow.WallTime

/-!
# Reports

What the program writes about its work: one JSON line for each check and for a ping, and a report in
words when a stage of its work fails. A check's line gives the wall time at which the window closes,
if a delay of that length can be told; the calendar may end before that time, and then there is no
line to write and the program breaks off.

## Main definitions

* `CheckReport`, `PingReport`: the lines.
* `closing?`: when a window closes on the wall clock.
* `Exit`: how the program ends.
* `Stage`, `failureReport`: the report of a failure.

## Main statements

* `CheckReport.of?_eq_none_iff`: a decision has no report only if its delay can be told and the
  calendar ends before it is over.
-/

namespace FixedWindow.CommandLine

/-- The longest delay that can be told: `2 ^ 63 - 1` milliseconds. -/
def longestDelay : Span := .ofMillis 9223372036854775807

/-- When a window closes on the wall clock: at no time that can be told if the delay is too long.
The outer answer is missing when the calendar ends before the delay is over. -/
def closing? (wall : WallTime) (resetIn : Span) : Option (Option WallTime) :=
  if longestDelay < resetIn then some none else (wall.add? resetIn).map some

/-- A decision on a subject, with the wall time at which the window closes. -/
structure CheckReport where
  subject : String
  decision : Decision
  resetAt : Option WallTime
  deriving DecidableEq, Repr

namespace CheckReport

/-- The report of a decision made at a wall time. -/
def of? (wall : WallTime) (subject : String) (d : Decision) : Option CheckReport :=
  (closing? wall d.resetIn).map fun resetAt => ⟨subject, d, resetAt⟩

theorem of?_eq_none_iff {wall : WallTime} {subject : String} {d : Decision} :
    of? wall subject d = none ↔
      ¬ longestDelay < d.resetIn ∧ wall.add? d.resetIn = none := by
  unfold of? closing?
  split <;> simp_all

/-- The line of a report. -/
def line (r : CheckReport) : JsonLine where
  fields := [("subject", .text r.subject), ("allowed", .flag r.decision.allowed),
    ("limit", .number r.decision.limit), ("remaining", .number r.decision.remaining),
    ("reset_in_ms", .number r.decision.resetIn.millisWord),
    ("source", .text r.decision.source.word),
    ("reset_at", (r.resetAt.map fun t => JsonValue.text t.text).getD .null)]

end CheckReport

/-- A sign of life of a store, with the time that it took. -/
structure PingReport where
  store : String
  latency : Span
  deriving DecidableEq, Repr

/-- A span in milliseconds with their fraction, to the nearest number. -/
def millisOf (d : Span) : Binary64 :=
  if d.isZero then .finite false 0 Binary64.minExponent
  else .ofRatio false d.nanos nanosPerMilli

/-- The line of a report. -/
def PingReport.line (r : PingReport) : JsonLine where
  fields := [("backend", .text r.store), ("latency_ms", .real (millisOf r.latency))]

/-- The stages of the program's work. -/
inductive Stage
  | loading
  | connecting
  | pinging
  | checking
  deriving DecidableEq, Repr

/-- What a failure of a stage is headed by. A check that fails speaks for itself. -/
def Stage.heading? : Stage → Option String
  | loading => some "Failed to load configuration"
  | connecting => some "Failed to connect to counter store"
  | pinging => some "Counter store ping failed"
  | checking => none

/-- A text whose further lines are indented. -/
def indented (margin text : String) : String := ("\n" ++ margin).intercalate (text.splitOn "\n")

/-- The causes of a failure under their heading. A single cause stands by itself, several are
numbered from zero. -/
def causedBy : List String → String
  | [] => ""
  | [cause] => "\n\nCaused by:\n    " ++ indented "    " cause
  | causes =>
    "\n\nCaused by:" ++ String.join (causes.zipIdx.map fun (cause, i) =>
      let number := toString i
      "\n" ++ "".pushn ' ' (5 - number.length) ++ number ++ ": " ++ indented "       " cause)

/-- The report of a failure, from the words for it and those for its causes. -/
def failureReport : List String → String
  | [] => "Error\n"
  | words :: causes => "Error: " ++ words ++ causedBy causes ++ "\n"

/-- How the program ends: well, with a report of a failure, because it does not understand its
command line, or by breaking off. -/
inductive Exit
  | success
  | failure (report : String)
  | misuse
  | crash
  deriving DecidableEq, Repr

namespace Exit

/-- The number by which the program tells how it ended. -/
def code : Exit → Nat
  | success => 0
  | failure _ => 1
  | misuse => 2
  | crash => 101

/-- The end that a failure of a stage leads to. -/
def ofFailure (stage : Stage) : LimitError → Exit
  | .abort _ => .crash
  | e => .failure (failureReport
      (stage.heading?.toList ++ e.message :: (e.source?.map StoreError.message).toList))

/-- The end that a store without a sign of life leads to. -/
def ofSilence (e : StoreError) : Exit :=
  .failure (failureReport (Stage.pinging.heading?.toList ++ [e.message]))

end Exit

end FixedWindow.CommandLine
