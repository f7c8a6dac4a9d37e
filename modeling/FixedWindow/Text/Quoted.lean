import FixedWindow.Text.Shown

/-!
# Quoted text

A text in diagnostics is put between double quotes, and what would be unclear inside them is
escaped: the quote and the backslash, tab, line feed, carriage return and the null character by a
letter, every other character that is not visible on its own by its code point in braces.

## Main definitions

* `escapeChar`: the written form of one character.
* `quoted`: a whole text between quotes.
-/

namespace FixedWindow.Text

/-- The lower-case hexadecimal digits of a number, without leading zeros. -/
def hexDigits (n : Nat) : String := String.ofList (Nat.toDigits 16 n)

/-- The written form of one character inside quotes. -/
def escapeChar (c : Char) : String :=
  if c = '\x00' then "\\0"
  else if c = '\t' then "\\t"
  else if c = '\r' then "\\r"
  else if c = '\n' then "\\n"
  else if c = '\\' then "\\\\"
  else if c = '"' then "\\\""
  else if isShown c then c.toString
  else "\\u\x7b" ++ hexDigits c.toNat ++ "\x7d"

/-- A text between double quotes, with unclear characters escaped. -/
def quoted (s : String) : String :=
  "\"" ++ s.foldl (fun acc c => acc ++ escapeChar c) "" ++ "\""

end FixedWindow.Text
