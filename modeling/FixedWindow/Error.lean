import FixedWindow.Settings.Fault
import FixedWindow.Text.Spoken

/-!
# What can go wrong

Every way in which an operation fails is a cause, a value of one of the types below. The wording of
a cause stands in its `message`.

## Main definitions

* `Rejection`: an argument of a check that is no subject or no limit.
* `Refusal`: a write that the local cache turns down.
* `StoreError`: a store call that brought no count.
* `Abort`: what ends an operation midway.
* `LimitError`: all of them, with `message` for people and `diagnostic` for logs.
-/

namespace FixedWindow

/-- Why the arguments of a check are rejected. -/
inductive Rejection
  | emptySubject
  | zeroLimit
  | described (text : String)
  deriving DecidableEq, Repr

/-- The wording of a rejection. -/
def Rejection.message : Rejection → String
  | .emptySubject => "subject cannot be empty"
  | .zeroLimit => "limit must be greater than 0"
  | .described text => text

/-- Why the local cache turns a write down. -/
inductive Refusal
  | closedWindow (subject : String)
  | zeroWindow (subject : String)
  | clockOverflow (window : Span)
  | described (text : String)
  deriving DecidableEq, Repr

/-- The wording for a window whose end the clock cannot represent. -/
def clockOverflowText (window : Span) : String :=
  "window of " ++ window.text ++ " overflows the clock"

/-- The wording of a refusal. -/
def Refusal.message : Refusal → String
  | .closedWindow subject =>
    "refusing to cache subject " ++ subject ++ " with an already-closed window"
  | .zeroWindow subject => "refusing to count subject " ++ subject ++ " in a zero-length window"
  | .clockOverflow window => clockOverflowText window
  | .described text => text

/-- What was wrong with a reply that the store did give. -/
inductive BadReply
  | clockOverflow (window : Span)
  | count (n : Int)
  | timeLeft (ms : Int)
  | ping (text : String)
  | described (text : String)
  deriving DecidableEq, Repr

/-- The wording for a reply that makes no sense. -/
def BadReply.message : BadReply → String
  | .clockOverflow window => clockOverflowText window
  | .count n => "INCR returned non-positive count " ++ toString n
  | .timeLeft ms => "PTTL returned " ++ toString ms ++ " for a live counter"
  | .ping text => "PING answered with " ++ Text.quoted text
  | .described text => text

/-- Why a store call brought no count: the server or its client reported an error, no answer came
in time, or the answer was not one that a store gives. -/
inductive StoreError
  | redis
  | timeout (after : Span)
  | protocol (reply : BadReply)
  deriving DecidableEq, Repr

namespace StoreError

/-- The wording of a store error. -/
def message : StoreError → String
  | redis => "Redis error"
  | timeout after => "Store call timed out after " ++ after.text
  | protocol reply => "Unexpected store reply: " ++ reply.message

/-- The name of the kind of store error. -/
def kind : StoreError → String
  | redis => "Redis"
  | timeout _ => "Timeout"
  | protocol _ => "Protocol"

/-- The kind with its detail in parentheses. -/
def diagnostic (e : StoreError) : String :=
  e.kind ++ match e with
    | redis => ""
    | timeout after => "(" ++ after.text ++ ")"
    | protocol reply => "(" ++ Text.quoted reply.message ++ ")"

end StoreError

/-- What ends an operation midway, without an answer of its own: arithmetic that leaves its range, a
list longer than any can be, or a key in a settings file that is neither a text nor an integer. -/
inductive Abort
  | clockPastEnd
  | countPastEnd
  | belowZero
  | listPastEnd
  | strayKey
  deriving DecidableEq, Repr

/-- The wording of an abort. -/
def Abort.message : Abort → String
  | .clockPastEnd => "overflow when adding duration to instant"
  | .countPastEnd => "attempt to add with overflow"
  | .belowZero => "attempt to subtract with overflow"
  | .listPastEnd => "capacity overflow"
  | .strayKey => "internal error: entered unreachable code"

/-- Every way in which an operation fails. -/
inductive LimitError
  | validation (why : Rejection)
  | storeUnavailable (cause : StoreError)
  | invariant (why : Refusal)
  | config (why : Settings.Fault)
  | abort (why : Abort)
  deriving DecidableEq, Repr

namespace LimitError

/-- The name of the kind of error. -/
def kind : LimitError → String
  | validation _ => "Validation"
  | storeUnavailable _ => "StoreUnavailable"
  | invariant _ => "Invariant"
  | config _ => "Config"
  | abort _ => "Abort"

/-- The wording of an error, its kind before its cause. -/
def message : LimitError → String
  | validation why => "Validation error: " ++ why.message
  | storeUnavailable cause => "Store unavailable: " ++ cause.message
  | invariant why => "Internal invariant violated: " ++ why.message
  | config why => "Configuration error: " ++ why.message
  | abort why => why.message

/-- The kind with its cause in parentheses. -/
def diagnostic (e : LimitError) : String :=
  e.kind ++ "(" ++ (match e with
    | validation why => Text.quoted why.message
    | storeUnavailable cause => cause.diagnostic
    | invariant why => Text.quoted why.message
    | config why => Text.quoted why.message
    | abort why => Text.quoted why.message) ++ ")"

/-- The error behind an error: the store's, when there is one. -/
def source? : LimitError → Option StoreError
  | storeUnavailable cause => some cause
  | _ => none

end LimitError

end FixedWindow
