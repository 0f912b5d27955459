/-!
# Decimal numbers

A decimal number is a sign, a whole number of digits and a power of ten. The text of one has a point
or an exponent, so it is never taken for a whole number.
-/

namespace BrokerConnector

/-- The number `digits · 10^exponent`, with a sign in front. -/
structure Decimal where
  negative : Bool := false
  digits : Nat
  exponent : Int := 0
  deriving DecidableEq, Inhabited

namespace Decimal

/-- The digits of a number. -/
def digitsOf (n : Nat) : List Char :=
  Nat.toDigits 10 n

/-- A number in scientific form, from its first digit, the others and the exponent of the first. -/
def scientific (first : Char) (rest : List Char) (exponent : Int) : List Char :=
  let fraction := if rest.isEmpty then [] else '.' :: rest
  first :: fraction ++ 'e' :: (toString exponent).toList

/-- The text of a number without its sign. It is in scientific form when the point would stand more
than sixteen digits behind the first digit or more than five zeros before it. -/
def magnitudeText (digits : Nat) (exponent : Int) : List Char :=
  let written := digitsOf digits
  let point := written.length + exponent
  if point ≤ -5 ∨ 16 < point then
    match written with
    | first :: rest => scientific first rest (point - 1)
    | [] => []
  else if 0 ≤ exponent then written ++ List.replicate exponent.toNat '0' ++ ['.', '0']
  else if 0 < point then written.take point.toNat ++ '.' :: written.drop point.toNat
  else '0' :: '.' :: List.replicate (-point).toNat '0' ++ written

/-- The text of a number. -/
def text (number : Decimal) : String :=
  let sign := if number.negative then ['-'] else []
  String.ofList (sign ++ magnitudeText number.digits number.exponent)

end Decimal

end BrokerConnector
