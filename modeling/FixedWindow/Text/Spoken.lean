import FixedWindow.Time

/-!
# Spans in words

A span in a message is written in the largest of the units s, ms, µs and ns that it reaches, as a
whole number followed by the fraction of that unit without trailing zeros: `60s`, `1.5s`, `100ms`,
`1.000001ms`, `1.5µs`, `0ns`.

## Main definitions

* `decimalFraction`: the fraction of a unit, with its point, or nothing when it is zero.
* `Span.text`: the written form of a span.
-/

namespace FixedWindow

namespace Text

/-- A number in decimal digits, filled with zeros on the left up to `width` places. -/
def padded (width n : Nat) : String :=
  let digits := toString n
  "".pushn '0' (width - digits.length) ++ digits

/-- The fraction `part / 10 ^ places` after a point, without trailing zeros, empty when it is
zero. -/
def decimalFraction (places part : Nat) : String :=
  if part = 0 then ""
  else "." ++ String.ofList ((padded places part).toList.reverse.dropWhile (· == '0')).reverse

end Text

/-- The span in the largest unit that it reaches. -/
def Span.text (d : Span) : String :=
  let n := d.nanos
  if 1000000000 ≤ n then
    toString (n / 1000000000) ++ Text.decimalFraction 9 (n % 1000000000) ++ "s"
  else if 1000000 ≤ n then
    toString (n / 1000000) ++ Text.decimalFraction 6 (n % 1000000) ++ "ms"
  else if 1000 ≤ n then
    toString (n / 1000) ++ Text.decimalFraction 3 (n % 1000) ++ "µs"
  else
    toString n ++ "ns"

end FixedWindow
