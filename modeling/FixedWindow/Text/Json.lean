import FixedWindow.Number.Binary64

/-!
# JSON lines

A report is one line of text, a JSON object whose values are simple. Its fields come in the order in
which they are given, without spaces.

## Main definitions

* `Text.jsonString`: a text between double quotes.
* `JsonValue`, `JsonValue.written`: a simple value and its written form.
* `JsonLine`, `JsonLine.text`: named values and the line for them.
-/

namespace FixedWindow

namespace Text

/-- The written form of one character inside a JSON text. The quote, the backslash and the control
characters are escaped, five of these by a letter. -/
def jsonChar (c : Char) : String :=
  if c = '"' then "\\\""
  else if c = '\\' then "\\\\"
  else if c = '\n' then "\\n"
  else if c = '\r' then "\\r"
  else if c = '\t' then "\\t"
  else if c = '\x08' then "\\b"
  else if c = '\x0c' then "\\f"
  else if c.toNat < 32 then
    "\\u00" ++ String.ofList [Nat.digitChar (c.toNat / 16), Nat.digitChar (c.toNat % 16)]
  else c.toString

/-- A text between double quotes. -/
def jsonString (s : String) : String :=
  "\"" ++ s.foldl (fun acc c => acc ++ jsonChar c) "" ++ "\""

end Text

/-- A simple value of a report. -/
inductive JsonValue
  | null
  | flag (b : Bool)
  | number (n : Nat)
  | real (x : Binary64)
  | text (s : String)
  deriving DecidableEq, Repr

/-- The written form of a value. A number without a finite value is written as none. -/
def JsonValue.written : JsonValue → String
  | null => "null"
  | flag b => toString b
  | number n => toString n
  | real x => if x.isFinite then x.pointedText else "null"
  | text s => Text.jsonString s

/-- Named values in the order of the line. -/
structure JsonLine where
  fields : List (String × JsonValue)
  deriving DecidableEq, Repr

/-- The line itself. -/
def JsonLine.text (l : JsonLine) : String :=
  "\x7b"
    ++ ",".intercalate (l.fields.map fun (name, value) =>
      Text.jsonString name ++ ":" ++ value.written)
    ++ "\x7d"

end FixedWindow
