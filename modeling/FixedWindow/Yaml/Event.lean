import FixedWindow.Yaml.Token

/-!
# Events of a YAML text

The grammar of YAML turns tokens into events: documents, collections and scalars begin and end. It
is a pushdown automaton: a stack says what is expected next, and each step reads some tokens and
gives one event. Where the tokens break off or do not fit, the events end.

## Main definitions

* `Yaml.Event`, `Yaml.Expectation`, `Yaml.Grammar`.
* `Yaml.Grammar.step?`: the next event.
* `Yaml.events`: the events of a text.
-/

namespace FixedWindow.Yaml

/-- The kinds of events. Anchors and tags belong to the node that begins. -/
inductive EventKind
  | streamEnd
  | documentStart
  | documentEnd
  | alias (name : String)
  | scalar (anchor tag : Option String) (text : String) (style : Style)
  | sequenceStart (anchor tag : Option String)
  | sequenceEnd
  | mappingStart (anchor tag : Option String)
  | mappingEnd
  deriving DecidableEq, Repr

/-- An event and the place where it begins. -/
structure Event where
  kind : EventKind
  mark : Mark
  deriving DecidableEq, Repr

/-- What may come next in a text. -/
inductive Expectation
  | documentStart (implicit : Bool)
  | documentContent
  | documentEnd
  | blockNode
  | blockSequenceEntry
  | indentlessEntry
  | blockMappingKey
  | blockMappingValue
  | flowSequenceEntry (first : Bool)
  | flowPairKey
  | flowPairValue
  | flowPairEnd
  | flowMappingKey (first : Bool)
  | flowMappingValue (empty : Bool)
  deriving DecidableEq, Repr

/-- The state of the grammar: the tokens left, what is expected, the innermost first, and the tag
handles of the document. -/
structure Grammar where
  dialect : Dialect
  tokens : List Token
  expected : List Expectation
  handles : List (String × String) := []

namespace Grammar

/-- What the predefined tag handles stand for. -/
def predefinedHandles : List (String × String) :=
  [("!", "!"), ("!!", "tag:yaml.org,2002:")]

/-- Replaces what is expected innermost. -/
def expect (g : Grammar) (e : Expectation) : Grammar :=
  { g with expected := e :: g.expected.tail }

/-- Expects something inside of what is expected already. -/
def enter (g : Grammar) (e : Expectation) : Grammar := { g with expected := e :: g.expected }

/-- Expects no longer what was expected innermost. -/
def leave (g : Grammar) : Grammar := { g with expected := g.expected.tail }

/-- Reads over the next token. -/
def skip (g : Grammar) : Grammar := { g with tokens := g.tokens.tail }

/-- A scalar that is not written at all. -/
def emptyScalar (m : Mark) : Event := ⟨.scalar none none "" .plain, m⟩

/-- The full tag for a handle and a suffix, if the handle is known. -/
def resolveTag? (g : Grammar) (handle suffix : String) : Option String :=
  if handle = "" then some suffix
  else ((g.handles ++ predefinedHandles).lookup handle).map (· ++ suffix)

/-- The properties of a node: an anchor and a tag in either order, and where the first begins. -/
structure Properties where
  anchor : Option String := none
  tag : Option String := none
  start : Option Mark := none

/-- Reads an anchor, if one comes next and none has been read. -/
def readAnchor (g : Grammar) (p : Properties) : Grammar × Properties :=
  match g.tokens with
  | ⟨.anchor name, start, _⟩ :: _ =>
    (g.skip, { p with anchor := some name, start := some (p.start.getD start) })
  | _ => (g, p)

/-- Reads a tag, if one comes next. An unknown handle is an error. -/
def readTag? (g : Grammar) (p : Properties) : Option (Grammar × Properties) :=
  match g.tokens with
  | ⟨.tag handle suffix, start, _⟩ :: _ =>
    (g.resolveTag? handle suffix).map fun tag =>
      (g.skip, { p with tag := some tag, start := some (p.start.getD start) })
  | _ => some (g, p)

/-- Reads the properties of a node. -/
def readProperties? (g : Grammar) : Option (Grammar × Properties) :=
  match g.tokens with
  | ⟨.tag .., _, _⟩ :: _ => (g.readTag? {}).map fun (g, p) => g.readAnchor p
  | _ =>
    let (g, p) := g.readAnchor {}
    g.readTag? p

/-- Reads the beginning of a node. Block collections may begin only where `block` is set, and a
block sequence without an indentation of its own only where `indentless` is. The node takes the
place of what is expected innermost. -/
def node? (g : Grammar) (block indentless : Bool) : Option (Event × Grammar) :=
  match g.tokens with
  | ⟨.alias name, start, _⟩ :: _ => some (⟨.alias name, start⟩, g.skip.leave)
  | _ => do
    let (g, p) ← g.readProperties?
    let token ← g.tokens.head?
    let start := p.start.getD token.start
    let tag := p.tag.filter (· ≠ "")
    match token.kind with
    | .scalar text style =>
      let tag := tag.filter (· ≠ "!")
      some (⟨.scalar p.anchor tag text style, start⟩, g.skip.leave)
    | .flowSequenceStart =>
      some (⟨.sequenceStart p.anchor tag, start⟩, g.skip.expect (.flowSequenceEntry true))
    | .flowMappingStart =>
      some (⟨.mappingStart p.anchor tag, start⟩, g.skip.expect (.flowMappingKey true))
    | .blockSequenceStart =>
      if block then
        some (⟨.sequenceStart p.anchor tag, start⟩, g.skip.expect .blockSequenceEntry)
      else if p.start.isSome then some (⟨.scalar p.anchor tag "" .plain, start⟩, g.leave) else none
    | .blockMappingStart =>
      if block then
        some (⟨.mappingStart p.anchor tag, start⟩, g.skip.expect .blockMappingKey)
      else if p.start.isSome then some (⟨.scalar p.anchor tag "" .plain, start⟩, g.leave) else none
    | .blockEntry =>
      if indentless then some (⟨.sequenceStart p.anchor tag, start⟩, g.expect .indentlessEntry)
      else if p.start.isSome then some (⟨.scalar p.anchor tag "" .plain, start⟩, g.leave) else none
    | _ => if p.start.isSome then some (⟨.scalar p.anchor tag "" .plain, start⟩, g.leave) else none

/-- Reads a node inside of what is expected, which then is `next`. -/
def nodeBefore? (g : Grammar) (next : Expectation) (block indentless : Bool) :
    Option (Event × Grammar) :=
  ((g.expect next).enter .blockNode).node? block indentless

/-- Reads the directives before a document. -/
def directives? (g : Grammar) : List Token → Bool → Option Grammar
  | ⟨.versionDirective major minor, _, _⟩ :: rest, versioned =>
    let known : Bool := major = 1 && (minor = 1 || minor = 2)
    if versioned || !(known || g.dialect.passesDirectives) then none
    else directives? { g with tokens := rest } rest true
  | ⟨.tagDirective handle leading, _, _⟩ :: rest, versioned =>
    if (g.handles.lookup handle).isSome && !g.dialect.passesDirectives then none
    else directives? { g with tokens := rest, handles := g.handles ++ [(handle, leading)] } rest
      versioned
  | _, _ => some g

/-- Whether a token is a directive. -/
def isDirective (t : Token) : Bool :=
  match t.kind with
  | .versionDirective .. | .tagDirective .. => true
  | _ => false

/-- Reads the beginning of a document or the end of the text. A document may begin without a line
that says so if it is the first one, or where the dialect lets it behind the end of another. -/
def documentStart? (g : Grammar) (implicit : Bool) : Option (Event × Grammar) :=
  let g := if implicit && !g.dialect.reopensAfterEnd then g
    else { g with tokens := g.tokens.dropWhile fun t => t.kind == .documentEnd }
  match g.tokens with
  | [] => none
  | token :: _ =>
    match token.kind with
    | .streamEnd => some (⟨.streamEnd, token.start⟩, { g with tokens := [], expected := [] })
    | .versionDirective .. | .tagDirective .. | .documentStart => do
      let g ← g.directives? g.tokens false
      match g.tokens with
      | ⟨.documentStart, _, _⟩ :: _ =>
        some (⟨.documentStart, token.start⟩, (g.skip.expect .documentEnd).enter .documentContent)
      | _ => none
    | _ =>
      if implicit then
        some (⟨.documentStart, token.start⟩, (g.expect .documentEnd).enter .blockNode)
      else none

/-- Whether a token is one of the given kinds. -/
def isOneOf (t : Token) (kinds : List TokenKind) : Bool := kinds.contains t.kind

/-- The next event, if the tokens fit. -/
def step? (g : Grammar) : Option (Event × Grammar) :=
  match g.expected, g.tokens with
  | .documentStart implicit :: _, _ => g.documentStart? implicit
  | .documentContent :: _, token :: _ =>
    match token.kind with
    | .versionDirective .. | .tagDirective .. | .documentStart | .documentEnd | .streamEnd =>
      some (emptyScalar token.start, g.leave)
    | _ => g.node? true false
  | .documentEnd :: _, token :: _ =>
    let ended : Bool := token.kind = .documentEnd
    let reopens := g.dialect.reopensAfterEnd
    if reopens ∧ isDirective token then none
    else
      let g := (if ended then g.skip else g).expect (.documentStart (ended && reopens))
      some (⟨.documentEnd, token.start⟩, { g with handles := [] })
  | .blockNode :: _, _ => g.node? true false
  | .blockSequenceEntry :: _, token :: rest =>
    match token.kind with
    | .blockEntry => do
      let next ← rest.head?
      if isOneOf next [.blockEntry, .blockEnd] then some (emptyScalar token.stop, g.skip)
      else g.skip.nodeBefore? .blockSequenceEntry true false
    | .blockEnd => some (⟨.sequenceEnd, token.start⟩, g.skip.leave)
    | _ => none
  | .indentlessEntry :: _, token :: rest =>
    if token.kind = .blockEntry then do
      let next ← rest.head?
      if isOneOf next [.blockEntry, .key, .value, .blockEnd] then
        some (emptyScalar token.stop, g.skip)
      else g.skip.nodeBefore? .indentlessEntry true false
    else some (⟨.sequenceEnd, token.start⟩, g.leave)
  | .blockMappingKey :: _, token :: rest =>
    match token.kind with
    | .key => do
      let next ← rest.head?
      if isOneOf next [.key, .value, .blockEnd] then
        some (emptyScalar token.stop, g.skip.expect .blockMappingValue)
      else g.skip.nodeBefore? .blockMappingValue true true
    | .blockEnd => some (⟨.mappingEnd, token.start⟩, g.skip.leave)
    | _ => none
  | .blockMappingValue :: _, token :: rest =>
    if token.kind = .value then do
      let next ← rest.head?
      if isOneOf next [.key, .value, .blockEnd] then
        some (emptyScalar token.stop, g.skip.expect .blockMappingKey)
      else g.skip.nodeBefore? .blockMappingKey true true
    else some (emptyScalar token.start, g.expect .blockMappingKey)
  | .flowSequenceEntry first :: _, token :: rest =>
    if token.kind = .flowSequenceEnd then some (⟨.sequenceEnd, token.start⟩, g.skip.leave)
    else do
      let g ← if first then some g
        else if token.kind = .flowEntry then some { g with tokens := rest }
        else none
      let token ← g.tokens.head?
      match token.kind with
      | .key =>
        some (⟨.mappingStart none none, token.start⟩,
          (g.skip.expect (.flowSequenceEntry false)).enter .flowPairKey)
      | .flowSequenceEnd => some (⟨.sequenceEnd, token.start⟩, g.skip.leave)
      | _ => g.nodeBefore? (.flowSequenceEntry false) false false
  | .flowPairKey :: _, token :: _ =>
    if isOneOf token [.value, .flowEntry, .flowSequenceEnd] then
      some (emptyScalar token.stop, g.skip.expect .flowPairValue)
    else g.nodeBefore? .flowPairValue false false
  | .flowPairValue :: _, token :: rest =>
    if token.kind = .value then do
      let next ← rest.head?
      if isOneOf next [.flowEntry, .flowSequenceEnd] then
        some (emptyScalar next.start, g.skip.expect .flowPairEnd)
      else g.skip.nodeBefore? .flowPairEnd false false
    else some (emptyScalar token.start, g.expect .flowPairEnd)
  | .flowPairEnd :: _, token :: _ => some (⟨.mappingEnd, token.start⟩, g.leave)
  | .flowMappingKey first :: _, token :: rest =>
    if token.kind = .flowMappingEnd then some (⟨.mappingEnd, token.start⟩, g.skip.leave)
    else do
      let g ← if first then some g
        else if token.kind = .flowEntry then some { g with tokens := rest }
        else none
      let token ← g.tokens.head?
      match token.kind with
      | .key => do
        let next ← g.tokens.tail.head?
        if isOneOf next [.value, .flowEntry, .flowMappingEnd] then
          some (emptyScalar next.start, g.skip.expect (.flowMappingValue false))
        else g.skip.nodeBefore? (.flowMappingValue false) false false
      | .flowMappingEnd => some (⟨.mappingEnd, token.start⟩, g.skip.leave)
      | _ => g.nodeBefore? (.flowMappingValue true) false false
  | .flowMappingValue empty :: _, token :: rest =>
    if empty then some (emptyScalar token.start, g.expect (.flowMappingKey false))
    else if token.kind = .value then do
      let next ← rest.head?
      if isOneOf next [.flowEntry, .flowMappingEnd] then
        some (emptyScalar next.start, g.skip.expect (.flowMappingKey false))
      else g.skip.nodeBefore? (.flowMappingKey false) false false
    else some (emptyScalar token.start, g.expect (.flowMappingKey false))
  | _, _ => none

/-- All events until the text ends or does not fit. -/
def toEnd (g : Grammar) : Nat → List Event
  | 0 => []
  | fuel + 1 =>
    match g.step? with
    | none => []
    | some (event, g) => event :: toEnd g fuel

end Grammar

/-- The events of a text. The last one is the end of the text exactly if the text is well formed. -/
def events (dialect : Dialect) (text : String) : List Event :=
  let tokens := (tokens dialect text).1
  let start : Grammar := { dialect, tokens, expected := [.documentStart true] }
  start.toEnd (4 * tokens.length + 4)

end FixedWindow.Yaml
