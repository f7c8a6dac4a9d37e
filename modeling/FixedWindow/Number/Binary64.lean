import FixedWindow.Number.Word

/-!
# Floating-point numbers

A number of double precision is a mantissa of at most 53 bits times a power of two, or infinite, or
no number at all. Reading a decimal rounds it to the nearest such number, a half to the one with the
even mantissa. Writing one uses the fewest digits that read back as the same number, and among those
the nearest to it, always in positional notation.

## Main definitions

* `Binary64`, `Binary64.ofRatio`, `Binary64.ofDecimal`.
* `Binary64.read?`: a number from its written form.
* `Binary64.shortest`: the fewest digits that read back.
* `Binary64.text`: the written form of a number.
* `Binary64.roundToWord`: the nearest unsigned word of 64 bits.
* `Binary64.truncateToWord`: a number without its fraction, as a signed word of 64 bits.
-/

namespace FixedWindow

/-- A number of double precision. A finite one is `mantissa * 2 ^ exponent`, with a sign. -/
inductive Binary64
  | finite (negative : Bool) (mantissa : Nat) (exponent : Int)
  | infinite (negative : Bool)
  | nan
  deriving DecidableEq, Repr

namespace Binary64

/-- The exponent of the smallest positive number. -/
def minExponent : Int := -1074

/-- The exponent of the largest numbers. -/
def maxExponent : Int := 971

/-- The leading bit of a mantissa that uses all its 53 bits. -/
def leadingBit : Nat := 4503599627370496

/-- The nearest whole number to a quotient, a half going to the even neighbour. -/
def roundHalfEven (num den : Nat) : Nat :=
  let q := num / den
  let twice := 2 * (num % den)
  if twice < den then q
  else if den < twice then q + 1
  else if q % 2 = 0 then q else q + 1

/-- `a * b ^ e` over `c`, as a numerator and a denominator. -/
def scaled (a b c : Nat) (e : Int) : Nat × Nat :=
  if 0 ≤ e then (a * b.pow e.toNat, c) else (a, c * b.pow (-e).toNat)

/-- The nearest number to a positive quotient. -/
def ofRatio (negative : Bool) (num den : Nat) : Binary64 :=
  let e : Int := (num.log2 : Int) - den.log2
  let (n, d) := scaled num 2 den (-e)
  let top := if n < d then e - 1 else e
  let q := max (top - 52) minExponent
  let (n, d) := scaled num 2 den (-q)
  let m := roundHalfEven n d
  let (m, q) := if m = 2 * leadingBit then (leadingBit, q + 1) else (m, q)
  if maxExponent < q then .infinite negative else .finite negative m q

/-- The number of decimal digits of a number. -/
def digitCount (n : Nat) : Nat := (Nat.toDigits 10 n).length

/-- The nearest number to `digits * 10 ^ exponent`. Numbers far outside the range are settled by
their magnitude. -/
def ofDecimal (negative : Bool) (digits : Nat) (exponent : Int) : Binary64 :=
  let magnitude := (digitCount digits : Int) + exponent
  if digits = 0 ∨ magnitude < -400 then .finite negative 0 minExponent
  else if 400 < magnitude then .infinite negative
  else
    let (n, d) := scaled digits 10 1 exponent
    ofRatio negative n d

/-- The digits at the front of a text and what follows them. -/
def spanDigits (cs : List Char) : List Char × List Char := cs.span Char.isDigit

/-- The exponent part of a decimal, which has to be the whole of the text. -/
def readExponent? : List Char → Option Int
  | [] => some 0
  | c :: rest =>
    if c = 'e' ∨ c = 'E' then
      match rest with
      | '-' :: ds => (Number.digitsValue? 10 ds).map fun n => -(n : Int)
      | '+' :: ds => (Number.digitsValue? 10 ds).map fun n => (n : Int)
      | ds => (Number.digitsValue? 10 ds).map fun n => (n : Int)
    else none

/-- A number without its sign: a word for an infinity or for no number, in any case, or a decimal
with at least one digit around its point. -/
def readUnsigned? (negative : Bool) (cs : List Char) : Option Binary64 :=
  let word := String.ofList (cs.map Char.toLower)
  if word = "inf" ∨ word = "infinity" then some (.infinite negative)
  else if word = "nan" then some .nan
  else
    let (whole, rest) := spanDigits cs
    let (fraction, rest) := match rest with
      | '.' :: more => spanDigits more
      | other => ([], other)
    match Number.digitsValue? 10 (whole ++ fraction), readExponent? rest with
    | some digits, some e => some (ofDecimal negative digits (e - fraction.length))
    | _, _ => none

/-- A number from its written form. -/
def read? (s : String) : Option Binary64 :=
  match s.toList with
  | '-' :: cs => readUnsigned? true cs
  | '+' :: cs => readUnsigned? false cs
  | cs => readUnsigned? false cs

/-- Whether a number is neither infinite nor missing. -/
def isFinite : Binary64 → Bool
  | finite .. => true
  | _ => false

/-- Whether a number is a zero of either sign. -/
def isZero : Binary64 → Bool
  | finite _ 0 _ => true
  | _ => false

/-- The multiple of `10 ^ k` nearest to `mantissa * 2 ^ exponent` among its two neighbours, if it
reads back as that number; of two equally near the upper one. Quarters of the mantissa's unit make
the ends of the interval of decimals that read back whole; the ends count if the mantissa is
even. -/
def onGrid? (mantissa : Nat) (exponent : Int) (k : Int) : Option Nat :=
  let value := 4 * mantissa
  let low := if mantissa = leadingBit ∧ exponent ≠ minExponent then value - 1 else value - 2
  let high := value + 2
  let (unit, den) := scaled 1 2 1 (exponent - 2)
  let (unit, den) := scaled unit 10 den (-k)
  let inside (n : Nat) : Bool :=
    if mantissa % 2 = 0 then low * unit ≤ n * den && n * den ≤ high * unit
    else low * unit < n * den && n * den < high * unit
  let below := value * unit / den
  let above := below + 1
  let nearer := if value * unit - below * den < above * den - value * unit then below else above
  let farther := if nearer = below then above else below
  if inside nearer then some nearer else if inside farther then some farther else none

/-- The coarsest decimal grid that holds a number reading back as the given one, with the nearest
such number: `(digits, k)` stands for `digits * 10 ^ k`. -/
def shortest (mantissa : Nat) (exponent : Int) : Nat × Int :=
  ((List.range 660).findSome? fun (i : Nat) =>
    let k : Int := 310 - (i : Int)
    (onGrid? mantissa exponent k).map fun digits => (digits, k)).getD (0, 0)

/-- `digits * 10 ^ k` in positional notation. -/
def positional (digits : Nat) (k : Int) : String :=
  let ds := toString digits
  if 0 ≤ k then ds.pushn '0' k.toNat
  else
    let places := (-k).toNat
    let ds := "".pushn '0' (places + 1 - ds.length) ++ ds
    String.ofList (ds.toList.take (ds.length - places)) ++ "."
      ++ String.ofList (ds.toList.drop (ds.length - places))

/-- The written form of a number: the fewest digits that read back, without an exponent. -/
def text : Binary64 → String
  | nan => "NaN"
  | infinite negative => if negative then "-inf" else "inf"
  | finite negative mantissa exponent =>
    (if negative then "-" else "") ++
      if mantissa = 0 then "0"
      else
        let (digits, k) := shortest mantissa exponent
        positional digits k

/-- The written form with a point in it, if the number is finite. -/
def pointedText (x : Binary64) : String :=
  let s := x.text
  if x.isFinite ∧ ¬ s.toList.contains '.' then s ++ ".0" else s

/-- The nearest unsigned word of 64 bits, a half going up. What is negative or no number gives zero,
what is too large the largest word. -/
def roundToWord : Binary64 → Nat
  | nan => 0
  | infinite negative => if negative then 0 else wordSize - 1
  | finite true _ _ => 0
  | finite false mantissa exponent =>
    let (n, d) := scaled mantissa 2 1 exponent
    min ((2 * n + d) / (2 * d)) (wordSize - 1)

/-- A number without its fraction, as a signed word of 64 bits. What is outside their range gives
the word at that end, and what is no number gives zero. -/
def truncateToWord : Binary64 → Int
  | nan => 0
  | infinite negative => if negative then -9223372036854775808 else 9223372036854775807
  | finite negative mantissa exponent =>
    let (n, d) := scaled mantissa 2 1 exponent
    if negative then -(min (n / d) 9223372036854775808 : Nat)
    else (min (n / d) 9223372036854775807 : Nat)

end Binary64

end FixedWindow
