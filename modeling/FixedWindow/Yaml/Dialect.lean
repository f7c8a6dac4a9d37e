/-!
# Dialects of YAML

YAML is read in two dialects, which part at the edges of the grammar. The strict one keeps to the
letter of the standard for what may be written; the lenient one passes over more, but asks that what
stands in a flow collection is indented deeper than the block around it. Each point on which they
differ is a question to the dialect.

## Main definitions

* `Yaml.Dialect` and its questions.
-/

namespace FixedWindow.Yaml

/-- A dialect of YAML. -/
inductive Dialect
  | strict
  | lenient
  deriving DecidableEq, Repr

namespace Dialect

/-- Whether a text may not hold control characters. Where it may, the null character ends it. -/
def refusesControls (d : Dialect) : Bool := d = strict

/-- Whether the name of an anchor may hold any character but spacing and flow indicators. -/
def freesAnchors (d : Dialect) : Bool := d = lenient

/-- Whether directives of any name and versions of any number are passed over. -/
def passesDirectives (d : Dialect) : Bool := d = lenient

/-- Whether a line that ends a document lets the next one begin without a line of its own, and only
such a line lets a directive follow a document. -/
def reopensAfterEnd (d : Dialect) : Bool := d = lenient

/-- Whether a comment has to be set apart from the sign or quoted scalar before it. -/
def partsComments (d : Dialect) : Bool := d = lenient

/-- Whether the signs before keys and values in a flow collection need a neighbour that sets them
apart, and go on as text where they have none. -/
def bindsFlowSigns (d : Dialect) : Bool := d = lenient

/-- Whether what stands in a flow collection has to be indented deeper than the block around it. -/
def indentsFlow (d : Dialect) : Bool := d = lenient

/-- Whether a key of a flow collection may be of any length and run over several lines. -/
def freesFlowKeys (d : Dialect) : Bool := d = lenient

/-- Whether tabs count as spaces in front of a key, if the line is indented without them and no sign
of a block comes right before them. -/
def takesTabs (d : Dialect) : Bool := d = lenient

/-- How deep flow collections may be nested. -/
def flowDepth? : Dialect → Option Nat
  | strict => none
  | lenient => some 255

end Dialect

end FixedWindow.Yaml
