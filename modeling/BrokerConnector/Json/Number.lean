import BrokerConnector.Json.Basic

/-!
# Reading numbers

A number that is not whole is read as a double. Its digits are taken as a whole number as far as
that fits a word of 64 bits. The double of this word is then multiplied or divided by a power of
ten, so the result is the nearest double only where each of these steps is exact but the last.
-/

namespace BrokerConnector.Json

/-! ## Digits -/

/-- The value of a decimal digit. -/
def digitValue (c : Char) : Nat :=
  c.toNat - '0'.toNat

/-- The number that decimal digits stand for. -/
def ofDigits (digits : List Char) : Nat :=
  digits.foldl (fun n c => 10 * n + digitValue c) 0

/-- The digits at the front, at least one. -/
def readDigits (text : List Char) : Option (List Char × List Char) :=
  match text.span Char.isDigit with
  | ([], _) => none
  | (digits, rest) => some (digits, rest)

/-- The digits in front of the point. Only the number zero begins with a zero. -/
def readWhole (text : List Char) : Option (List Char × List Char) := do
  let (digits, rest) ← readDigits text
  if digits.length = 1 ∨ digits.head? ≠ some '0' then some (digits, rest) else none

/-- The digits behind a point, if there is one. -/
def readFraction : List Char → Option (Option (List Char) × List Char)
  | '.' :: text => do
    let (digits, rest) ← readDigits text
    return (some digits, rest)
  | text => some (none, text)

/-- The sign in front of an exponent. -/
def readSign : List Char → Bool × List Char
  | '-' :: rest => (true, rest)
  | '+' :: rest => (false, rest)
  | text => (false, text)

/-- An exponent, if there is one. -/
def readExponent (text : List Char) : Option (Option Int × List Char) :=
  match text with
  | c :: rest =>
    if c = 'e' ∨ c = 'E' then do
      let (negative, rest) := readSign rest
      let (digits, rest) ← readDigits rest
      let magnitude : Int := ofDigits digits
      return (some (if negative then -magnitude else magnitude), rest)
    else some (none, text)
  | [] => some (none, [])

/-! ## Doubles -/

/-- The largest power of ten that is a double. -/
def maxPower : Nat := 308

/-- A power of ten as a double. -/
def powerOfTen (power : Nat) : Float :=
  Float.ofScientific 1 false power

/-- A double divided by a power of ten. One that is no double is divided by in several steps. -/
def divide (value : Float) (power : Nat) : Float :=
  if value == 0 then value
  else if maxPower < power then divide (value / powerOfTen maxPower) (power - maxPower)
  else value / powerOfTen power
termination_by power
decreasing_by simp only [maxPower] at *; omega

/-- The double of a word multiplied by a power of ten, unless it is beyond all doubles. -/
def scale? (word : Nat) (exponent : Int) : Option Float :=
  if exponent < 0 then some (divide (Float.ofNat word) exponent.natAbs)
  else if word = 0 then some 0
  else if maxPower < exponent then none
  else
    let value := Float.ofNat word * powerOfTen exponent.toNat
    if value.isFinite then some value else none

/-- Appends digits to a number as long as it fits a word of 64 bits. Gives the number of digits that
are left as well. -/
def appendDigits (word : Nat) : List Char → Nat × Nat
  | [] => (word, 0)
  | c :: rest =>
    let longer := 10 * word + digitValue c
    if longer < UInt64.size then appendDigits longer rest else (word, rest.length + 1)

/-! ## Numbers -/

/-- A number as it is written. -/
structure Numeral where
  negative : Bool
  /-- The digits in front of the point. -/
  whole : List Char
  /-- The digits behind the point, if there is one. -/
  fraction : Option (List Char)
  exponent : Option Int
  deriving DecidableEq, Inhabited

namespace Numeral

/-- The whole number that is written, if it fits a word of 64 bits, signed or unsigned. The negative
zero is not whole. -/
def int? (number : Numeral) : Option Int :=
  let magnitude : Int := ofDigits number.whole
  let value := if number.negative then -magnitude else magnitude
  if number.fraction.isSome ∨ number.exponent.isSome ∨ (number.negative ∧ magnitude = 0) then none
  else if Int64.minValue.toInt ≤ value ∧ value < UInt64.size then some value
  else none

/-- The bits of the double that is written. -/
def double? (number : Numeral) : Option UInt64 := do
  let places := number.fraction.getD []
  let (word, wholeLeft) := appendDigits 0 number.whole
  let (word, placesLeft) := appendDigits word places
  let exponent : Int := number.exponent.getD 0 + wholeLeft + placesLeft - places.length
  let value ← scale? word exponent
  return (if number.negative then -value else value).toBits

/-- The value of a number. -/
def value (number : Numeral) : Json :=
  match number.int? with
  | some value => .whole value
  | none => .fraction number.double?

end Numeral

/-- A number without its sign. -/
def readNumber (negative : Bool) (text : List Char) : Option (Json × List Char) := do
  let (digits, rest) ← readWhole text
  let (places, rest) ← readFraction rest
  let (exponent, rest) ← readExponent rest
  let number : Numeral := ⟨negative, digits, places, exponent⟩
  return (number.value, rest)

end BrokerConnector.Json
