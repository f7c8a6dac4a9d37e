import FixedWindow.Yaml.Scalar

/-!
# Tokens of a YAML text

A text is cut into tokens: indicators, scalars, names, and marks for the beginning and the end of
blocks, which follow from the indentation. A key before a colon is recognised only when the colon is
met, so a token that may still turn out to begin a key is withheld until that is decided. When the
text breaks off with an error, `tokens` gives the tokens that had been handed out by then.

## Main definitions

* `Yaml.Token`.
* `Yaml.Lexing`: the state between two tokens.
* `Yaml.tokens`: the tokens of a text.
-/

namespace FixedWindow.Yaml

/-- The kinds of tokens. -/
inductive TokenKind
  | streamEnd
  | versionDirective (major minor : Nat)
  | tagDirective (handle leading : String)
  | documentStart
  | documentEnd
  | blockSequenceStart
  | blockMappingStart
  | blockEnd
  | flowSequenceStart
  | flowSequenceEnd
  | flowMappingStart
  | flowMappingEnd
  | blockEntry
  | flowEntry
  | key
  | value
  | alias (name : String)
  | anchor (name : String)
  | tag (handle suffix : String)
  | scalar (text : String) (style : Style)
  deriving DecidableEq, Repr

/-- A token with the places where it begins and ends. -/
structure Token where
  kind : TokenKind
  start : Mark
  stop : Mark
  deriving DecidableEq, Repr

/-- A token that may turn out to begin a key: its number, its place, and whether the text is in
error if it does not. -/
structure KeyCandidate where
  number : Nat
  mark : Mark
  required : Bool
  deriving DecidableEq, Repr

/-- The state between two tokens. The indentation of the block is `-1` outside of all blocks; those
of the blocks around it follow. What comes next hangs on the block if it is the value of one of its
keys. There is one key candidate at most for each level of flow collections, the innermost
first. -/
structure Lexing where
  dialect : Dialect
  cursor : Cursor
  tokens : Array Token := #[]
  indent : Int := -1
  outerIndents : List Int := []
  hanging : Bool := false
  candidate : Option KeyCandidate := none
  outerCandidates : List (Option KeyCandidate) := []
  keyAllowed : Bool := true
  ended : Bool := false

namespace Lexing

/-- Whether the text is inside of a flow collection. -/
def inFlow (s : Lexing) : Bool := !s.outerCandidates.isEmpty

/-- The first column for what comes next: that of the block, or the one behind it for what hangs on
the block. -/
def floor (s : Lexing) : Int := if s.hanging then s.indent + 1 else s.indent

/-- Lets what comes next hang on the block, if there is one and no flow collection in it. -/
def hang (s : Lexing) : Lexing := if s.inFlow || s.indent < 0 then s else { s with hanging := true }

/-- Appends a token. -/
def emit (s : Lexing) (kind : TokenKind) (start stop : Mark) : Lexing :=
  { s with tokens := s.tokens.push ⟨kind, start, stop⟩ }

/-- Appends a token of `n` characters and moves behind it. -/
def emitChars (s : Lexing) (kind : TokenKind) (n : Nat) : Lexing :=
  let cursor := s.cursor.advance n
  { s.emit kind s.cursor.mark cursor.mark with cursor := cursor }

/-- Whether a key candidate is out of the question: its line has ended, or it is too long. -/
def outdated (s : Lexing) (k : KeyCandidate) : Bool :=
  !(s.inFlow && s.dialect.freesFlowKeys)
    && (k.mark.line < s.cursor.mark.line || k.mark.index + 1024 < s.cursor.mark.index)

/-- Drops the key candidates that are out of the question. A required one is an error. -/
def dropOutdated? (s : Lexing) : Option Lexing :=
  let all := s.candidate :: s.outerCandidates
  if all.any fun k? => k?.any fun k => k.required && s.outdated k then none
  else
    let checked := all.map fun k? => k?.filter fun k => !s.outdated k
    some { s with candidate := checked.headD none, outerCandidates := checked.tail }

/-- Drops the innermost key candidate. A required one is an error. -/
def dropCandidate? (s : Lexing) : Option Lexing :=
  if s.candidate.any KeyCandidate.required then none else some { s with candidate := none }

/-- Makes the next token a key candidate, where one may stand. -/
def offerCandidate? (s : Lexing) : Option Lexing :=
  if s.keyAllowed then
    let k : KeyCandidate := {
      number := s.tokens.size
      mark := s.cursor.mark
      required := !s.inFlow && s.indent = s.cursor.mark.column }
    (s.dropCandidate?).map fun s => { s with candidate := some k }
  else some s

/-- Closes the blocks that are indented deeper than a column. -/
def closeBlocks (s : Lexing) (column : Int) : Lexing :=
  if s.inFlow then s
  else
    let levels := s.indent :: s.outerIndents
    let closing := levels.takeWhile (column < ·)
    let left := levels.drop closing.length
    let ends := closing.map fun _ => ⟨TokenKind.blockEnd, s.cursor.mark, s.cursor.mark⟩
    { s with
      tokens := s.tokens ++ ends.toArray, indent := left.headD (-1), outerIndents := left.tail
      hanging := s.hanging && s.floor ≤ column }

/-- Opens a block at a column that is deeper than the present one, with its token at a number. -/
def openBlock (s : Lexing) (column : Nat) (number : Nat) (kind : TokenKind) (mark : Mark) :
    Lexing :=
  if s.inFlow ∨ (column : Int) ≤ s.indent then s
  else { s with
    outerIndents := s.indent :: s.outerIndents
    indent := column
    hanging := false
    tokens := s.tokens.insertIdxIfInBounds number ⟨kind, mark, mark⟩ }

/-- Whether a tab stands where a line of the block is still to be indented. -/
def tabIndents (s : Lexing) : Bool :=
  let c := s.cursor.skipWhile (· = ' ')
  s.cursor.mark.column = 0 && 0 ≤ s.indent && (c.mark.column : Int) < s.floor && c.at? '\t'

/-- Moves over spaces, comments and line ends. Tabs count as spaces where no key may begin, or, in a
dialect that takes them, wherever they do not indent a line with something on it. -/
def skipSpacing? (s : Lexing) : Nat → Option Lexing
  | 0 => some s
  | fuel + 1 =>
    let tabs := s.inFlow || !s.keyAllowed || s.dialect.takesTabs
    let c := s.cursor.skipWhile fun x => x = ' ' || (tabs && x = '\t')
    let c := if c.at? '#' then c.skipWhile fun x => !isBreak x else c
    if s.dialect.takesTabs ∧ s.tabIndents ∧ ¬ c.atLineEnd then none
    else if c.peek?.any isBreak then
      skipSpacing? { s with cursor := c.nextLine, keyAllowed := s.keyAllowed || !s.inFlow } fuel
    else some { s with cursor := c }

/-- The end of the text: it ends the line, all blocks, and the search for tokens. -/
def readEnd? (s : Lexing) : Option Lexing := do
  let m := s.cursor.mark
  let m := if m.column = 0 then m else { m with line := m.line + 1, column := 0 }
  let s := { s with cursor := { s.cursor with mark := m } }
  let s ← (s.closeBlocks (-1)).dropCandidate?
  pure { s.emit .streamEnd m m with keyAllowed := false, ended := true }

/-- A line that separates documents. -/
def readDocumentLine? (s : Lexing) (kind : TokenKind) : Option Lexing := do
  let s ← (s.closeBlocks (-1)).dropCandidate?
  pure ({ s with keyAllowed := false }.emitChars kind 3)

/-- The line that ends a document. Where another may begin behind it, the line holds nothing
else. -/
def readDocumentEnd? (s : Lexing) : Option Lexing :=
  let c := (s.cursor.advance 3).skipWhile isBlank
  if s.dialect.reopensAfterEnd ∧ ¬ (c.at? '#' ∨ c.atLineEnd) then none
  else s.readDocumentLine? .documentEnd

/-- The opening of a flow collection, which may begin a key. -/
def readFlowStart? (s : Lexing) (kind : TokenKind) : Option Lexing := do
  let s ← s.offerCandidate?
  let s := s.hang.emitChars kind 1
  if s.dialect.flowDepth?.any (· ≤ s.outerCandidates.length) then none
  else pure { s with
    candidate := none, outerCandidates := s.candidate :: s.outerCandidates, keyAllowed := true }

/-- The closing of a flow collection. -/
def readFlowEnd? (s : Lexing) (kind : TokenKind) : Option Lexing := do
  let s ← s.dropCandidate?
  let s :=
    if s.inFlow then
      { s with
        candidate := s.outerCandidates.headD none, outerCandidates := s.outerCandidates.tail }
    else s
  pure ({ s with keyAllowed := false }.emitChars kind 1)

/-- The comma between the entries of a flow collection. -/
def readFlowEntry? (s : Lexing) : Option Lexing := do
  let s ← s.dropCandidate?
  pure ({ s with keyAllowed := true }.emitChars .flowEntry 1)

/-- Whether a tab stands between the dash that comes next and another dash behind it. -/
def tabbedEntry (c : Cursor) : Bool :=
  let (blanks, after) := (c.advance 1).takeWhile isBlank
  blanks.contains '\t' && after.at? '-' && after.spacedAt 1

/-- The dash before an entry of a block sequence, which may open the sequence. -/
def readBlockEntry? (s : Lexing) : Option Lexing := do
  let m := s.cursor.mark
  let s ← if s.dialect.takesTabs ∧ tabbedEntry s.cursor then none
    else if s.inFlow then some s
    else if s.keyAllowed then some (s.openBlock m.column s.tokens.size .blockSequenceStart m)
    else none
  let s ← s.dropCandidate?
  let s := { s with keyAllowed := true }.emitChars .blockEntry 1
  let next? := (s.cursor.skipWhile isBlank).peek?
  pure (if next?.any fun x => isBreak x || isFlowIndicator x then s.hang else s)

/-- Whether the sign that comes next stands before a tab, spaces, lines and comments apart. -/
def tabbedKey (c : Cursor) : Nat → Bool
  | 0 => false
  | fuel + 1 =>
    let c := (c.advance 1).skipWhile (· = ' ')
    let c := if c.at? '#' then c.skipWhile fun x => !isBreak x else c
    if c.peek?.any isBreak then tabbedKey c fuel else c.at? '\t'

/-- The question mark before a key, which may open a mapping. -/
def readKey? (s : Lexing) : Option Lexing := do
  let m := s.cursor.mark
  let refused := s.dialect.takesTabs
    && (s.cursor.rest.length = 1 || tabbedKey s.cursor (s.cursor.rest.length + 1))
  let s ← if refused then none
    else if s.inFlow then some s
    else if s.keyAllowed then some (s.openBlock m.column s.tokens.size .blockMappingStart m)
    else none
  let s ← s.dropCandidate?
  pure ({ s with keyAllowed := !s.inFlow }.emitChars .key 1)

/-- Whether only tabs stand between a colon and the first character of a word behind it. -/
def tabbedValue (c : Cursor) : Bool :=
  let after := c.skipWhile (· = '\t')
  c.at? '\t' && after.peek?.any fun x => x = '-' || x.isAlphanum

/-- The colon before a value. A key candidate before it becomes a key, which may open a mapping. -/
def readValue? (s : Lexing) : Option Lexing :=
  if s.dialect.takesTabs ∧ tabbedValue (s.cursor.advance 1) then none
  else
    match s.candidate with
    | some k =>
      let s := { s with tokens := s.tokens.insertIdxIfInBounds k.number ⟨.key, k.mark, k.mark⟩ }
      let s := s.openBlock k.mark.column k.number .blockMappingStart k.mark
      some ({ s.hang with candidate := none, keyAllowed := false }.emitChars .value 1)
    | none =>
      let m := s.cursor.mark
      if s.inFlow then some ({ s with keyAllowed := false }.emitChars .value 1)
      else if s.keyAllowed then
        let s := s.openBlock m.column s.tokens.size .blockMappingStart m
        some ({ s.hang with keyAllowed := true }.emitChars .value 1)
      else none

/-- Whether a character may follow the name of an anchor at once. -/
def endsAnchor (c : Char) : Bool := isSpacing c || "?:,]\x7d%@`".toList.contains c

/-- The name of an anchor or alias, after its indicator. -/
def readAnchor? (s : Lexing) (kind : String → TokenKind) : Option Lexing := do
  let s ← s.offerCandidate?
  let start := s.cursor.mark
  let inName (x : Char) : Bool :=
    if s.dialect.freesAnchors then !isSpacing x && !isFlowIndicator x else isNameChar x
  let (name, c) := (s.cursor.advance 1).takeWhile inName
  if name.isEmpty ∨ ¬ c.peek?.all endsAnchor ∧ ¬ s.dialect.freesAnchors then none
  else
    pure { s.emit (kind (String.ofList name)) start c.mark with cursor := c, keyAllowed := false }

/-- The bytes that the characters of a tag stand for. A percent sign and two hexadecimal digits
stand for one byte, any other character for its own encoding. -/
def tagBytes? : List Char → Option (List UInt8)
  | [] => some []
  | '%' :: a :: b :: rest => do
    let a ← hexValue? a
    let b ← hexValue? b
    let rest ← tagBytes? rest
    pure ((a * 16 + b).toUInt8 :: rest)
  | '%' :: _ => none
  | c :: rest => (tagBytes? rest).map (String.utf8EncodeChar c ++ ·)

/-- The text of a tag. Between angle brackets some flow indicators may stand in it too. -/
def readTagText? (verbatim : Bool) (c : Cursor) : Option (String × Cursor) := do
  let (cs, after) := c.takeWhile fun x =>
    isTagChar x || (verbatim && (x = ',' || x = '[' || x = ']'))
  let bytes ← tagBytes? cs
  let text ← String.fromUTF8? ⟨bytes.toArray⟩
  pure (text, after)

/-- The handle at the front of a tag: an exclamation mark, or a name between two of them. -/
def readTagHandle? (c : Cursor) : Option (String × Cursor) :=
  if c.at? '!' then
    let (name, after) := (c.advance 1).takeWhile isNameChar
    if after.at? '!' then some ("!" ++ String.ofList name ++ "!", after.advance 1)
    else some ("!" ++ String.ofList name, after)
  else none

/-- A tag. -/
def readTag? (s : Lexing) : Option Lexing := do
  let s ← s.offerCandidate?
  let start := s.cursor.mark
  let (handle, suffix, c) ←
    if s.cursor.peekAt? 1 = some '<' then do
      let (text, c) ← readTagText? true (s.cursor.advance 2)
      if c.at? '>' ∧ text ≠ "" then pure ("", text, c.advance 1) else none
    else do
      let (handle, c) ← readTagHandle? s.cursor
      let (text, after) ← readTagText? false c
      if 1 < handle.length ∧ handle.endsWith "!" then
        if text = "" then none else pure (handle, text, after)
      else
        let suffix := (handle.drop 1).toString ++ text
        if suffix = "" then pure ("", "!", after) else pure ("!", suffix, after)
  let bound (x : Char) : Bool := x = ',' || (s.dialect.bindsFlowSigns && isFlowIndicator x)
  if c.peek?.all isSpacing ∨ s.inFlow ∧ c.peek?.any bound then
    pure { s.emit (.tag handle suffix) start c.mark with cursor := c, keyAllowed := false }
  else none

/-- A number of at most nine digits. -/
def readVersionNumber? (c : Cursor) : Option (Nat × Cursor) :=
  let (ds, after) := c.takeWhile Char.isDigit
  if ds.isEmpty ∨ 9 < ds.length then none
  else some (ds.foldl (fun n d => n * 10 + (d.toNat - '0'.toNat)) 0, after)

/-- A directive, in a line of its own. -/
def readDirective? (s : Lexing) : Option Lexing := do
  let s ← (s.closeBlocks (-1)).dropCandidate?
  let start := s.cursor.mark
  let (name, c) := (s.cursor.advance 1).takeWhile isNameChar
  let blanks (c : Cursor) : Cursor := c.skipWhile isBlank
  let (kind, c) ←
    if ¬ c.peek?.all isSpacing then none
    else if String.ofList name = "YAML" then do
      let (major, c) ← readVersionNumber? (blanks c)
      if ¬ c.at? '.' then none
      else do
        let (minor, c) ← readVersionNumber? (c.advance 1)
        pure (TokenKind.versionDirective major minor, c)
    else if String.ofList name = "TAG" then do
      let (handle, c) ← readTagHandle? (blanks c)
      if handle ≠ "!" ∧ ¬ handle.endsWith "!" ∨ ¬ c.peek?.any isBlank then none
      else do
        let (text, c) ← readTagText? true (blanks c)
        if text = "" ∨ ¬ c.peek?.all isSpacing then none
        else pure (TokenKind.tagDirective handle text, c)
    else if s.dialect.passesDirectives then
      pure (TokenKind.tagDirective "" "", c.skipWhile fun x => !isBreak x)
    else none
  let stop := c.mark
  let c := blanks c
  let c := if c.at? '#' then c.skipWhile fun x => !isBreak x else c
  if ¬ c.atLineEnd then none
  else
    let c := if c.rest.isEmpty then c else c.nextLine
    pure { s.emit kind start stop with cursor := c, keyAllowed := false }

/-- A block scalar. A key may follow it. -/
def readBlockScalar? (s : Lexing) (folded : Bool) : Option Lexing := do
  let s ← s.dropCandidate?
  let start := s.cursor.mark
  let (text, c) ← readBlock? folded s.indent s.cursor
  let style := if folded then Style.folded else Style.literal
  pure { s.emit (.scalar text style) start c.mark with
    cursor := c, keyAllowed := true, hanging := false }

/-- A quoted scalar, which may begin a key. -/
def readQuotedScalar? (s : Lexing) (single : Bool) : Option Lexing := do
  let s ← s.offerCandidate?
  let start := s.cursor.mark
  let (text, c) ← readQuoted? single s.cursor
  let style := if single then Style.singleQuoted else Style.doubleQuoted
  pure { s.emit (.scalar text style) start c.mark with cursor := c, keyAllowed := false }

/-- Whether what stands in a flow collection is not indented deeper than the block around it, where
it has to be. -/
def lacksIndent (s : Lexing) : Bool :=
  s.dialect.indentsFlow && s.inFlow && (s.cursor.mark.column : Int) ≤ s.indent

/-- A plain scalar, which may begin a key. After one that ends a line, a key may follow. -/
def readPlainScalar? (s : Lexing) : Option Lexing := do
  let s ← s.offerCandidate?
  let start := s.cursor.mark
  let r ← readPlain? s.dialect s.inFlow (s.indent + 1).toNat s.cursor
  if s.lacksIndent then none
  else pure { s.emit (.scalar r.text .plain) start r.stop with
    cursor := r.cursor, keyAllowed := r.gap.onNewLine, hanging := false }

/-- Whether a plain scalar may begin with a character that goes on as given. -/
def startsPlain (s : Lexing) (x : Char) : Bool :=
  !(isSpacing x || "-?:,[]\x7b\x7d#&*!|>'\"%@`".toList.contains x)
    || (x = '-' && !(s.cursor.peekAt? 1).any isBlank)
    || (!s.inFlow && (x = '?' || x = ':') && !s.cursor.spacedAt 1)
    || (s.inFlow && s.dialect.bindsFlowSigns && "?:|>".toList.contains x)

/-- Whether the last token may be a key that is closed by a sign of its own. -/
def endsClosed (s : Lexing) : Bool :=
  match s.tokens.back?.map Token.kind with
  | some (.scalar _ style) => style = .singleQuoted || style = .doubleQuoted
  | some .flowSequenceEnd | some .flowMappingEnd => true
  | _ => false

/-- Whether the question mark that comes next stands before a key. -/
def marksKey (s : Lexing) : Bool :=
  s.cursor.spacedAt 1 || (s.inFlow && !s.dialect.bindsFlowSigns)

/-- Whether the colon that comes next stands before a value. -/
def marksValue (s : Lexing) : Bool :=
  s.cursor.spacedAt 1
    || (s.inFlow && (!s.dialect.bindsFlowSigns || (s.cursor.peekAt? 1).any isFlowIndicator
      || s.endsClosed))

/-- Whether a comment begins right behind a sign or a quoted scalar. -/
def runsIntoComment (s : Lexing) : Bool :=
  s.cursor.at? '#' && (s.endsClosed || match s.tokens.back?.map Token.kind with
    | some .flowSequenceStart | some .flowMappingStart | some .flowEntry | some .blockEntry => true
    | _ => false)

/-- Reads the next token. -/
def next? (s : Lexing) : Option Lexing := do
  let s ← if s.dialect.partsComments ∧ s.runsIntoComment then none
    else s.skipSpacing? (s.cursor.rest.length + 1)
  let s ← s.dropOutdated?
  let s := s.closeBlocks s.cursor.mark.column
  match s.cursor.peek? with
  | none => s.readEnd?
  | some x =>
    if s.cursor.mark.column = 0 ∧ x = '%' then s.readDirective?
    else if s.cursor.atTriple '-' then s.readDocumentLine? .documentStart
    else if s.cursor.atTriple '.' then s.readDocumentEnd?
    else if s.dialect.indentsFlow ∧ (s.cursor.mark.column : Int) < s.floor then none
    else if x = '[' then s.readFlowStart? .flowSequenceStart
    else if x = '{' then s.readFlowStart? .flowMappingStart
    else if x = ']' then s.readFlowEnd? .flowSequenceEnd
    else if x = '}' then s.readFlowEnd? .flowMappingEnd
    else if x = ',' then s.readFlowEntry?
    else if x = '-' ∧ s.cursor.spacedAt 1 then s.readBlockEntry?
    else if x = '?' ∧ s.marksKey then s.readKey?
    else if x = ':' ∧ s.marksValue then s.readValue?
    else if x = '*' then s.readAnchor? .alias
    else if x = '&' then s.readAnchor? .anchor
    else if x = '!' then s.readTag?
    else if x = '|' ∧ ¬ s.inFlow then s.readBlockScalar? false
    else if x = '>' ∧ ¬ s.inFlow then s.readBlockScalar? true
    else if x = '\'' then s.readQuotedScalar? true
    else if x = '"' then s.readQuotedScalar? false
    else if s.startsPlain x then s.readPlainScalar?
    else none

/-- The number of tokens that no key candidate withholds. -/
def released (s : Lexing) : Nat :=
  (s.candidate :: s.outerCandidates).foldl
    (fun n k? => match k? with
      | some k => min n k.number
      | none => n)
    s.tokens.size

/-- Reads tokens to the end of the text. The answer tells whether the end was reached; if it was
not, it holds the tokens handed out before the error, of which there were `handed` before. -/
def toEnd (s : Lexing) (handed : Nat) : Nat → List Token × Bool
  | 0 => (s.tokens.toList.take handed, false)
  | fuel + 1 =>
    match if handed < s.tokens.size then s.dropOutdated? else some s with
    | none => (s.tokens.toList.take handed, false)
    | some s =>
      if s.ended then (s.tokens.toList, true)
      else
        let handed := s.released
        match s.next? with
        | none => (s.tokens.toList.take handed, false)
        | some s => toEnd s handed fuel

end Lexing

/-- The tokens of a text, and whether the text was read to its end. A mark before the first
character is passed over. -/
def tokens (dialect : Dialect) (text : String) : List Token × Bool :=
  let cs := match text.toList with
    | [] => []
    | c :: rest => if c = byteOrderMark then rest else c :: rest
  if dialect.refusesControls ∧ ¬ cs.all isAdmissible then ([], false)
  else
    let start : Lexing := { dialect := dialect, cursor := { rest := cs.takeWhile (· ≠ '\x00') } }
    start.toEnd 0 (cs.length + 2)

end FixedWindow.Yaml
