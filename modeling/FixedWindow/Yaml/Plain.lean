import FixedWindow.Number.Binary64
import FixedWindow.Yaml.Scalar

/-!
# What plain scalars mean

A plain scalar may be written text, but also nothing, a truth value or a number. Two schemas are
read. The core schema knows radix prefixes and signs, and takes a number with needless zeros in
front for text. The loose schema is that of layered settings, with signed words only.

## Main definitions

* `Yaml.Plain`: the meanings of a plain scalar.
* `Yaml.coreBool?`, `Yaml.coreUnsigned?`, `Yaml.coreFloat?`: readings of the core schema.
* `Yaml.coreMeaning`: the meaning of a scalar in the core schema.
* `Yaml.looseBool?`, `Yaml.loosePrefixed?`, `Yaml.looseIsFloat`: readings of the loose schema.
-/

namespace FixedWindow.Yaml

/-- The meanings of a plain scalar. A number outside of the words of 64 bits is wide. -/
inductive Plain
  | null
  | bool (b : Bool)
  | integer (n : Int) (wide : Bool)
  | float (x : Binary64)
  | text
  deriving DecidableEq, Repr

/-- The words for nothing in the core schema. -/
def coreIsNull (s : String) : Bool :=
  ["~", "null", "Null", "NULL"].contains s

/-- The words for truth values in the core schema. -/
def coreBool? (s : String) : Option Bool :=
  if ["true", "True", "TRUE"].contains s then some true
  else if ["false", "False", "FALSE"].contains s then some false
  else none

/-- Whether a row of digits, after an optional sign, has a needless zero in front. -/
def hasNeedlessZero : List Char → Bool
  | '-' :: '0' :: d :: rest => (d :: rest).all Char.isDigit
  | '+' :: '0' :: d :: rest => (d :: rest).all Char.isDigit
  | '0' :: d :: rest => (d :: rest).all Char.isDigit
  | _ => false

/-- Whether a text begins with a sign. -/
def startsSigned : List Char → Bool
  | '-' :: _ => true
  | '+' :: _ => true
  | _ => false

/-- A number in a radix other than ten, after the prefix that says so. -/
def radixPrefix? : List Char → Option (Nat × List Char)
  | '0' :: 'x' :: ds => some (16, ds)
  | '0' :: 'o' :: ds => some (8, ds)
  | '0' :: 'b' :: ds => some (2, ds)
  | _ => none

/-- An unsigned word of `width` bits in the core schema. -/
def coreUnsigned? (width : Nat) (s : String) : Option Nat :=
  let cs := match s.toList with
    | '+' :: rest => rest
    | other => other
  match radixPrefix? cs with
  | some (radix, ds) => if startsSigned ds then none else Number.readUnsigned? width radix ds
  | none =>
    if startsSigned cs ∨ hasNeedlessZero s.toList then none else Number.readUnsigned? width 10 cs

/-- A signed word of `width` bits in the core schema. -/
def coreSigned? (width : Nat) (s : String) : Option Int :=
  match s.toList with
  | '-' :: rest =>
    match radixPrefix? rest with
    | some (radix, ds) => Number.readSigned? width radix ('-' :: ds)
    | none => if hasNeedlessZero s.toList then none else Number.readSigned? width 10 s.toList
  | cs => if hasNeedlessZero cs then none else Number.readSigned? width 10 cs

/-- A whole number in the core schema, if it fits a word of 128 bits. -/
def coreInteger? (s : String) : Option Plain :=
  match coreUnsigned? 64 s, coreSigned? 64 s with
  | some n, _ => some (.integer n false)
  | none, some n => some (.integer n false)
  | none, none =>
    match coreUnsigned? 128 s, coreSigned? 128 s with
    | some n, _ => some (.integer n true)
    | none, some n => some (.integer n true)
    | none, none => none

/-- The words for a positive infinity. -/
def infinityWords : List String := [".inf", ".Inf", ".INF"]

/-- A floating-point number in the core schema. Decimals beyond the range are none. -/
def coreFloat? (s : String) : Option Binary64 :=
  let unsigned := match s.toList with
    | '+' :: rest => String.ofList rest
    | _ => s
  if s.toList.head? = some '+' ∧ startsSigned unsigned.toList then none
  else if infinityWords.contains unsigned then some (.infinite false)
  else if (infinityWords.map ("-" ++ ·)).contains s then some (.infinite true)
  else if [".nan", ".NaN", ".NAN"].contains s then some .nan
  else (Binary64.read? unsigned).filter Binary64.isFinite

/-- The meaning of a plain scalar in the core schema. -/
def coreMeaning (s : String) : Plain :=
  if s = "" ∨ coreIsNull s then .null
  else
    match coreBool? s with
    | some b => .bool b
    | none =>
      match coreInteger? s with
      | some n => n
      | none =>
        if hasNeedlessZero s.toList then .text
        else match coreFloat? s with
          | some x => .float x
          | none => .text

/-- The words for truth values in the loose schema. -/
def looseBool? (s : String) : Option Bool := coreBool? s

/-- Whether a text reads as a floating-point number in the loose schema. The bare words for
infinities do not. -/
def looseIsFloat (s : String) : Bool :=
  ((infinityWords ++ infinityWords.map ("+" ++ ·) ++ infinityWords.map ("-" ++ ·)
    ++ [".nan", "NaN", ".NAN"]).contains s)
  || (s.toList.any Char.isDigit && (Binary64.read? s).isSome)

/-- A signed word with a prefix for its radix or with a plus sign. -/
def loosePrefixed? (s : String) : Option Int :=
  match s.toList with
  | '0' :: 'x' :: ds => Number.readSigned? 64 16 ds
  | '0' :: 'o' :: ds => Number.readSigned? 64 8 ds
  | '+' :: ds => Number.readSigned? 64 10 ds
  | _ => none

end FixedWindow.Yaml
