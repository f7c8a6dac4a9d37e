import FixedWindow.Time

/-!
# Reading whole numbers

A whole number is written with one or more digits of a radix, after an optional sign. A reader for a
machine word also refuses what does not fit the word.

## Main definitions

* `Number.digitsValue?`: the value of a row of digits.
* `Number.readUnsigned?`, `Number.readSigned?`: words of a given width in a given radix.
* `Number.readInt64?`, `Number.readWord64?`: decimal words of 64 bits.
-/

namespace FixedWindow.Number

/-- The value of a digit in a radix of up to 36, letters in either case following nine. -/
def digitValue? (radix : Nat) (c : Char) : Option Nat :=
  let v? :=
    if '0' ≤ c ∧ c ≤ '9' then some (c.toNat - '0'.toNat)
    else if 'a' ≤ c ∧ c ≤ 'z' then some (c.toNat - 'a'.toNat + 10)
    else if 'A' ≤ c ∧ c ≤ 'Z' then some (c.toNat - 'A'.toNat + 10)
    else none
  v?.filter fun v => v < radix

/-- The value of a row of digits, if there is at least one and nothing else. -/
def digitsValue? (radix : Nat) : List Char → Option Nat
  | [] => none
  | cs => cs.foldlM (fun acc c => (digitValue? radix c).map fun v => acc * radix + v) 0

/-- An unsigned word of `width` bits, with an optional plus sign before the digits. -/
def readUnsigned? (width radix : Nat) : List Char → Option Nat
  | '+' :: cs => (digitsValue? radix cs).filter fun n => n < Nat.pow 2 width
  | cs => (digitsValue? radix cs).filter fun n => n < Nat.pow 2 width

/-- Whether a number fits a signed word of `width` bits. -/
def fitsSigned (width : Nat) (n : Int) : Bool :=
  -(Nat.pow 2 (width - 1) : Int) ≤ n && n < Nat.pow 2 (width - 1)

/-- A signed word of `width` bits, with an optional sign before the digits. -/
def readSigned? (width radix : Nat) : List Char → Option Int
  | '-' :: cs => ((digitsValue? radix cs).map fun n => -(n : Int)).filter (fitsSigned width)
  | '+' :: cs => ((digitsValue? radix cs).map fun n => (n : Int)).filter (fitsSigned width)
  | cs => ((digitsValue? radix cs).map fun n => (n : Int)).filter (fitsSigned width)

/-- A signed word of 64 bits in decimal digits. -/
def readInt64? (s : String) : Option Int := readSigned? 64 10 s.toList

/-- An unsigned word of 64 bits in decimal digits. -/
def readWord64? (s : String) : Option Nat := readUnsigned? 64 10 s.toList

end FixedWindow.Number
