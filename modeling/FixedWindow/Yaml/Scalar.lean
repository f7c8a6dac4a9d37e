import FixedWindow.Yaml.Cursor
import FixedWindow.Yaml.Dialect

/-!
# Scalars in a YAML text

A scalar is written plain, between single or double quotes, or as a block of lines. Spacing between
the words of a plain or quoted scalar is folded: spacing within a line stands for itself, a line end
for a space, and further line ends for themselves.

Each reader starts at the first character of the scalar and gives its text and the place behind it.
A reader gives nothing where the text is not well formed.

## Main definitions

* `Yaml.Style`, `Yaml.Gap`.
* `Yaml.readPlain?`, `Yaml.readQuoted?`, `Yaml.readBlock?`.
-/

namespace FixedWindow.Yaml

/-- The ways to write a scalar. -/
inductive Style
  | plain
  | singleQuoted
  | doubleQuoted
  | literal
  | folded
  deriving DecidableEq, Repr

/-- The spacing between two words of a scalar: the blanks of the line, or, once the line has ended,
its end and the ends of the empty lines that follow. -/
structure Gap where
  blanks : String := ""
  onNewLine : Bool := false
  firstBreak : Option Char := none
  moreBreaks : String := ""

namespace Gap

/-- What the spacing stands for. -/
def text (g : Gap) : String :=
  if g.onNewLine then
    match g.firstBreak with
    | none => g.moreBreaks
    | some '\n' => if g.moreBreaks = "" then " " else g.moreBreaks
    | some c => c.toString ++ g.moreBreaks
  else g.blanks

/-- The spacing with one more line end. -/
def addBreak (g : Gap) (c : Char) : Gap :=
  if g.onNewLine then { g with moreBreaks := g.moreBreaks.push c }
  else { g with blanks := "", onNewLine := true, firstBreak := some c }

/-- The spacing with one more blank, which counts only before the line has ended. -/
def addBlank (g : Gap) (c : Char) : Gap :=
  if g.onNewLine then g else { g with blanks := g.blanks.push c }

end Gap

/-- Reads spacing. On a line after the first, a tab left of column `tabsFrom` is an error. -/
def readGap? (tabsFrom : Nat) : Nat → Cursor → Gap → Option (Gap × Cursor)
  | 0, c, g => some (g, c)
  | fuel + 1, c, g =>
    match c.peek? with
    | none => some (g, c)
    | some x =>
      if isBreak x then readGap? tabsFrom fuel c.nextLine (g.addBreak c.breakChar)
      else if isBlank x then
        if g.onNewLine ∧ c.mark.column < tabsFrom ∧ x = '\t' then none
        else readGap? tabsFrom fuel (c.advance 1) (g.addBlank x)
      else some (g, c)

/-- Whether a character opens, closes or separates in a flow collection. -/
def isFlowIndicator (c : Char) : Bool :=
  c = ',' || c = '[' || c = ']' || c = '{' || c = '}'

/-- The characters of a plain scalar up to spacing or the end of the scalar. A colon ends it before
spacing; in a flow collection so does an indicator. A colon before an indicator ends it too where
the dialect binds the signs of flow collections, and is an error otherwise. -/
def plainWord? (d : Dialect) (inFlow : Bool) : List Char → Option (List Char)
  | [] => some []
  | c :: rest =>
    if isSpacing c then some []
    else if c = ':' ∧ rest.head?.all isSpacing then some []
    else if inFlow ∧ isFlowIndicator c then some []
    else if inFlow ∧ c = ':' ∧ rest.head?.any isFlowIndicator then
      if d.bindsFlowSigns then some [] else none
    else if inFlow ∧ c = ':' ∧ rest.head? = some '?' ∧ ¬ d.bindsFlowSigns then none
    else (plainWord? d inFlow rest).map (c :: ·)

/-- What has been read of a scalar that runs over several lines. -/
structure Reading where
  text : String
  cursor : Cursor
  stop : Mark
  gap : Gap := {}

/-- Whether a word begins here that is a dash before a flow indicator. -/
def atBoundDash (c : Cursor) : Bool := c.at? '-' && (c.peekAt? 1).any isFlowIndicator

/-- Reads the words of a plain scalar, whose later lines begin at column `indent` or right of it
unless it stands in a flow collection. -/
def plainWords? (d : Dialect) (inFlow : Bool) (indent : Nat) : Nat → Reading → Option Reading
  | 0, r => some r
  | fuel + 1, r =>
    if r.cursor.atDocumentLine ∨ r.cursor.at? '#' then some r
    else if inFlow ∧ d.bindsFlowSigns ∧ atBoundDash r.cursor then none
    else
      match plainWord? d inFlow r.cursor.rest with
      | none => none
      | some word =>
        let r := if word.isEmpty then r else
          let cursor := r.cursor.advance word.length
          { text := r.text ++ r.gap.text ++ String.ofList word, cursor := cursor
            stop := cursor.mark }
        if r.cursor.peek?.any isSpacing then
          match readGap? indent (r.cursor.rest.length + 1) r.cursor r.gap with
          | none => none
          | some (gap, cursor) =>
            let r := { r with gap := gap, cursor := cursor }
            if ¬ inFlow ∧ cursor.mark.column < indent then some r
            else plainWords? d inFlow indent fuel r
        else some r

/-- Reads a plain scalar. -/
def readPlain? (d : Dialect) (inFlow : Bool) (indent : Nat) (c : Cursor) : Option Reading :=
  plainWords? d inFlow indent (c.rest.length + 1) ⟨"", c, c.mark, {}⟩

/-- The characters that a backslash and a letter stand for. -/
def escapes : List (Char × Char) :=
  [('0', '\x00'), ('a', '\x07'), ('b', '\x08'), ('t', '\t'), ('\t', '\t'), ('n', '\n'),
    ('v', '\x0b'), ('f', '\x0c'), ('r', '\r'), ('e', '\x1b'), (' ', ' '), ('"', '"'), ('/', '/'),
    ('\\', '\\'), ('N', '\u0085'), ('_', '\u00a0'), ('L', '\u2028'), ('P', '\u2029')]

/-- The number of hexadecimal digits that follow a letter after a backslash. -/
def escapeWidth? (c : Char) : Option Nat :=
  match c with
  | 'x' => some 2
  | 'u' => some 4
  | 'U' => some 8
  | _ => none

/-- The value of a hexadecimal digit. -/
def hexValue? (c : Char) : Option Nat :=
  if '0' ≤ c ∧ c ≤ '9' then some (c.toNat - '0'.toNat)
  else if 'a' ≤ c ∧ c ≤ 'f' then some (c.toNat - 'a'.toNat + 10)
  else if 'A' ≤ c ∧ c ≤ 'F' then some (c.toNat - 'A'.toNat + 10)
  else none

/-- The character with the code point that the given digits spell. -/
def charOfHex? (ds : List Char) : Option Char :=
  (ds.foldlM (fun acc d => (hexValue? d).map fun v => acc * 16 + v) 0).bind fun n =>
    if n.isValidChar then some (Char.ofNat n) else none

/-- The character that an escape stands for, and the characters it takes with its backslash. -/
def readEscape? : List Char → Option (Char × Nat)
  | c :: rest =>
    match escapes.lookup c with
    | some x => some (x, 2)
    | none =>
      match escapeWidth? c with
      | none => none
      | some width =>
        let ds := rest.take width
        if ds.length = width then (charOfHex? ds).map fun x => (x, width + 2) else none
  | [] => none

/-- Reads the characters between quotes up to spacing or the closing quote. The answer tells whether
the line ended with a backslash, which joins it to the next one. -/
def quotedWord? (single : Bool) : Nat → Cursor → String → Option (String × Cursor × Bool)
  | 0, c, text => some (text, c, false)
  | fuel + 1, c, text =>
    match c.rest with
    | [] => some (text, c, false)
    | x :: rest =>
      if isSpacing x then some (text, c, false)
      else if single then
        if x = '\'' then
          if rest.head? = some '\'' then quotedWord? single fuel (c.advance 2) (text.push '\'')
          else some (text, c, false)
        else quotedWord? single fuel (c.advance 1) (text.push x)
      else if x = '"' then some (text, c, false)
      else if x = '\\' then
        if rest.head?.any isBreak then some (text, (c.advance 1).nextLine, true)
        else
          match readEscape? rest with
          | none => none
          | some (y, width) => quotedWord? single fuel (c.advance width) (text.push y)
      else quotedWord? single fuel (c.advance 1) (text.push x)

/-- Reads the words between quotes and the closing quote. -/
def quotedWords? (single : Bool) : Nat → String → Cursor → Option (String × Cursor)
  | 0, _, _ => none
  | fuel + 1, text, c =>
    if c.atDocumentLine ∨ c.rest.isEmpty then none
    else
      match quotedWord? single (c.rest.length + 1) c text with
      | none => none
      | some (text, c, joined) =>
        if c.at? (if single then '\'' else '"') then some (text, c.advance 1)
        else
          match readGap? 0 (c.rest.length + 1) c { onNewLine := joined } with
          | none => none
          | some (gap, c) => quotedWords? single fuel (text ++ gap.text) c

/-- Reads a quoted scalar. -/
def readQuoted? (single : Bool) (c : Cursor) : Option (String × Cursor) :=
  quotedWords? single (c.rest.length + 1) "" (c.advance 1)

/-- What becomes of the line ends after the last line of a block. -/
inductive Chomping
  | strip
  | clip
  | keep
  deriving DecidableEq, Repr

/-- The sign that chooses what becomes of the last line ends. -/
def chomping? (c : Cursor) : Option Chomping :=
  match c.peek? with
  | some '+' => some .keep
  | some '-' => some .strip
  | _ => none

/-- Reads an indentation indicator, a digit but zero. The outer option is an error. -/
def indentIndicator? (c : Cursor) : Option (Option Nat × Cursor) :=
  match c.peek? with
  | some '0' => none
  | some x => if x.isDigit then some (some (x.toNat - '0'.toNat), c.advance 1) else some (none, c)
  | none => some (none, c)

/-- Reads the indicators at the head of a block, in either order, with the rest of their line. -/
def blockHeader? (c : Cursor) : Option (Chomping × Option Nat × Cursor) := do
  let (chomping, increment, c) ←
    match chomping? c with
    | some chomping =>
      let (increment, c) ← indentIndicator? (c.advance 1)
      pure (chomping, increment, c)
    | none =>
      let (increment, c) ← indentIndicator? c
      match increment, chomping? c with
      | some n, some chomping => pure (chomping, some n, c.advance 1)
      | increment, _ => pure (Chomping.clip, increment, c)
  let c := c.skipWhile isBlank
  let c := if c.at? '#' then c.skipWhile fun x => !isBreak x else c
  match c.peek? with
  | none => pure (chomping, increment, c)
  | some x => if isBreak x then pure (chomping, increment, c.nextLine) else none

/-- Reads the indentation of the next line of a block over empty lines. While the block's own
indentation is not known (zero), the deepest one met is found along the way. -/
def blockIndent? (indent : Nat) : Nat → Cursor → String → Nat → Option (String × Cursor × Nat)
  | 0, c, breaks, deepest => some (breaks, c, deepest)
  | fuel + 1, c, breaks, deepest =>
    let within (x : Cursor) : Bool := indent = 0 || x.mark.column < indent
    let spaces := (c.rest.takeWhile (· = ' ')).length
    let c := c.advance (if indent = 0 then spaces else min spaces (indent - c.mark.column))
    let deepest := max deepest c.mark.column
    match c.peek? with
    | none => some (breaks, c, deepest)
    | some x =>
      if within c ∧ x = '\t' then none
      else if isBreak x then blockIndent? indent fuel c.nextLine (breaks.push c.breakChar) deepest
      else some (breaks, c, deepest)

/-- What has been read of a block: its text, the end of its last line, the ends of the empty lines
after that, and whether the last line began with a blank. -/
structure BlockReading where
  text : String := ""
  lastBreak : Option Char := none
  emptyLines : String := ""
  afterBlank : Bool := false
  cursor : Cursor

/-- Reads the lines of a block. In a folded block a line end between two lines that do not begin
with a blank is folded. -/
def blockLines? (folded : Bool) (indent : Nat) : Nat → BlockReading → Option BlockReading
  | 0, r => some r
  | fuel + 1, r =>
    if r.cursor.mark.column ≠ indent ∨ r.cursor.rest.isEmpty then some r
    else
      let startsBlank := r.cursor.peek?.any isBlank
      let lineEnd :=
        if folded ∧ r.lastBreak = some '\n' ∧ ¬ r.afterBlank ∧ ¬ startsBlank then
          if r.emptyLines = "" then " " else ""
        else (r.lastBreak.map Char.toString).getD ""
      let (line, c) := r.cursor.takeWhile fun x => !isBreak x
      let (lastBreak, c) := if c.rest.isEmpty then (none, c) else (some c.breakChar, c.nextLine)
      match blockIndent? indent (c.rest.length + 1) c "" 0 with
      | none => none
      | some (breaks, c, _) =>
        blockLines? folded indent fuel {
          text := r.text ++ lineEnd ++ r.emptyLines ++ String.ofList line
          lastBreak := lastBreak
          emptyLines := breaks
          afterBlank := startsBlank
          cursor := c }

/-- Reads a block scalar inside a construct indented by `outer`, which is `-1` at the top. -/
def readBlock? (folded : Bool) (outer : Int) (c : Cursor) : Option (String × Cursor) := do
  let (chomping, increment, c) ← blockHeader? (c.advance 1)
  let known := match increment with
    | some n => if 0 ≤ outer then outer.toNat + n else n
    | none => 0
  let (breaks, c, deepest) ← blockIndent? known (c.rest.length + 1) c "" 0
  let indent := if known = 0 then max (max deepest (outer + 1).toNat) 1 else known
  let r ← blockLines? folded indent (c.rest.length + 1) { emptyLines := breaks, cursor := c }
  let lastBreak := (r.lastBreak.map Char.toString).getD ""
  let tail := match chomping with
    | .strip => ""
    | .clip => lastBreak
    | .keep => lastBreak ++ r.emptyLines
  pure (r.text ++ tail, r.cursor)

end FixedWindow.Yaml
