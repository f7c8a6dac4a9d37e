import FixedWindow.Number.Binary64

/-!
# Replies of the server

A reply is a single value, an error, or a list of replies. The newer version of the protocol adds
more kinds of single values and lists, and replies with attributes around them. A client also reads
those, and it refuses replies that are nested too deeply.

## Main definitions

* `Redis.Reply`.
* `Redis.Reply.toInt?`, `Redis.Reply.toText?`: replies read as numbers and as texts.
* `Redis.Reply.hasError`: whether there is an error anywhere in a reply.
* `Redis.Reply.parses`: whether a reply can be parsed.
* `Redis.Reply.isNotice`: whether a reply answers nothing.
-/

namespace FixedWindow.Redis

/-- The kinds of lists beside plain ones. The keys and values of a map stand in turn. -/
inductive Grouping
  | set
  | map
  | push (kind : String)
  deriving DecidableEq, Repr

/-- A reply of the server. -/
inductive Reply
  | integer (n : Int)
  | bulk (text : String)
  /-- A bulk string that is no text. -/
  | bytes (content : List UInt8)
  | nil
  | status (text : String)
  | error (text : String)
  | array (items : List Reply)
  | double (x : Binary64)
  | boolean (b : Bool)
  | bigNumber (n : Int)
  | verbatim (format text : String)
  | group (kind : Grouping) (items : List Reply)
  /-- A reply with attributes, whose keys and values stand in turn. -/
  | attributed (attributes : List Reply) (data : Reply)
  deriving Repr, Inhabited

namespace Reply

/-- What stands inside the attributes of a reply. -/
def bare : Reply → Reply
  | attributed _ data => data
  | r => r

/-- A reply as a signed word: a number, or a text that reads as one. A fraction is cut off. -/
def toInt? (r : Reply) : Option Int :=
  match r.bare with
  | integer n => some n
  | bulk text => Number.readInt64? text
  | status text => Number.readInt64? text
  | double x => some x.truncateToWord
  | _ => none

/-- A reply as a text: a text, or the decimal digits of a number. -/
def toText? (r : Reply) : Option String :=
  match r.bare with
  | integer n => some (toString n)
  | bulk text => some text
  | status text => some text
  | verbatim _ text => some text
  | double x => some x.text
  | _ => none

mutual
/-- Whether a reply is an error or holds one at any depth. -/
def hasError : Reply → Bool
  | error _ => true
  | array items | group _ items => anyHasError items
  | attributed attributes data => anyHasError attributes || hasError data
  | _ => false

/-- Whether one of several replies holds an error. -/
def anyHasError : List Reply → Bool
  | [] => false
  | r :: rest => hasError r || anyHasError rest
end

mutual
/-- Whether a reply can be parsed that may have so many levels: its integers are signed words, and
it is nested no more deeply. -/
def parses : (levels : Nat) → Reply → Bool
  | 0, _ => false
  | _ + 1, integer n => Number.fitsSigned 64 n
  | levels + 1, array items | levels + 1, group _ items => allParse levels items
  | levels + 1, attributed attributes data => allParse levels attributes && parses levels data
  | _ + 1, _ => true

/-- Whether all of several replies can be parsed that may have so many levels. -/
def allParse (levels : Nat) : List Reply → Bool
  | [] => true
  | r :: rest => parses levels r && allParse levels rest
end

/-- The levels that a reply may have. -/
def maxLevels : Nat := 100

/-- The kinds of pushed messages that answer a command. -/
def answeringKinds : List String :=
  ["subscribe", "unsubscribe", "psubscribe", "punsubscribe", "ssubscribe", "sunsubscribe"]

/-- Whether a reply is a pushed message that answers no command, and is passed over. -/
def isNotice : Reply → Bool
  | group (.push kind) _ => !answeringKinds.contains kind
  | _ => false

end Reply

end FixedWindow.Redis
