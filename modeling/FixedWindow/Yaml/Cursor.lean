/-!
# Places in a YAML text

A cursor is what is left of a text together with the place that has been reached. Lines and columns
count from zero, columns in characters.

## Main definitions

* `Yaml.Mark`, `Yaml.Cursor`.
* `Cursor.advance`, `Cursor.nextLine`: moving within a line and over its end.
* The classes of characters that the grammar distinguishes.
-/

namespace FixedWindow.Yaml

/-- A place in a text: characters before it, lines before it, characters before it in its line. -/
structure Mark where
  index : Nat := 0
  line : Nat := 0
  column : Nat := 0
  deriving DecidableEq, Repr, Inhabited

/-- Whether a character ends a line. -/
def isBreak (c : Char) : Bool :=
  c = '\n' || c = '\r' || c = '\u0085' || c = '\u2028' || c = '\u2029'

/-- Whether a character is a space or a tab. -/
def isBlank (c : Char) : Bool := c = ' ' || c = '\t'

/-- Whether a character separates words. -/
def isSpacing (c : Char) : Bool := isBlank c || isBreak c

/-- Whether a character may stand in a YAML text. -/
def isAdmissible (c : Char) : Bool :=
  let n := c.toNat
  n = 0x9 || n = 0xA || n = 0xD || (0x20 ≤ n && n ≤ 0x7E) || n = 0x85
    || (0xA0 ≤ n && n ≤ 0xFFFD) || 0x10000 ≤ n

/-- The mark that may stand before the first character of a text. -/
def byteOrderMark : Char := '\uFEFF'

/-- Whether a character may stand in the name of an anchor, a directive or a tag handle. -/
def isNameChar (c : Char) : Bool := c.isAlphanum || c = '_' || c = '-'

/-- Whether a character may stand in a tag. -/
def isTagChar (c : Char) : Bool := isNameChar c || ";/?:@&=+$.!~*'()%".toList.contains c

/-- The text that is left and the place that has been reached. -/
structure Cursor where
  rest : List Char
  mark : Mark := {}

namespace Cursor

/-- The next character. -/
def peek? (c : Cursor) : Option Char := c.rest.head?

/-- The character `n` places ahead. -/
def peekAt? (c : Cursor) (n : Nat) : Option Char := c.rest[n]?

/-- Whether the next character is the given one. -/
def at? (c : Cursor) (x : Char) : Bool := c.rest.head? == some x

/-- Whether the text ends `n` places ahead or goes on there with spacing. -/
def spacedAt (c : Cursor) (n : Nat) : Bool := (c.peekAt? n).all isSpacing

/-- Whether the line ends here. -/
def atLineEnd (c : Cursor) : Bool := c.peek?.all isBreak

/-- Moves over characters of one line. -/
def advance (c : Cursor) (n : Nat) : Cursor :=
  { rest := c.rest.drop n
    mark := { c.mark with index := c.mark.index + n, column := c.mark.column + n } }

/-- Moves over the end of a line, which may be written with two characters. -/
def nextLine (c : Cursor) : Cursor :=
  let n := match c.rest with
    | '\r' :: '\n' :: _ => 2
    | _ => 1
  { rest := c.rest.drop n, mark := ⟨c.mark.index + n, c.mark.line + 1, 0⟩ }

/-- The character that the end of a line stands for in a scalar: a line feed, but for the separators
of lines and paragraphs, which stand for themselves. -/
def breakChar (c : Cursor) : Char :=
  match c.peek? with
  | some '\u2028' => '\u2028'
  | some '\u2029' => '\u2029'
  | _ => '\n'

/-- The characters from here on that pass a test, and the place behind them. The test has to fail on
the ends of lines. -/
def takeWhile (c : Cursor) (p : Char → Bool) : List Char × Cursor :=
  let taken := c.rest.takeWhile p
  (taken, c.advance taken.length)

/-- The place behind the characters that pass a test. -/
def skipWhile (c : Cursor) (p : Char → Bool) : Cursor := (c.takeWhile p).2

/-- Whether a line that consists of three equal characters, or starts with them and goes on with
spacing, begins here. -/
def atTriple (c : Cursor) (x : Char) : Bool :=
  c.mark.column = 0 && c.rest.take 3 == [x, x, x] && c.spacedAt 3

/-- Whether a line begins here that separates documents. -/
def atDocumentLine (c : Cursor) : Bool := c.atTriple '-' || c.atTriple '.'

end Cursor

end FixedWindow.Yaml
