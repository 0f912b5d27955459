import BrokerConnector.Decimal.Basic

/-!
# Decimals and doubles

A double is told by the bits of its IEEE 754 format. It is written as the decimal with the fewest
digits among those that round to the double, and the nearest to it of these.

All decimals with one exponent form a grid. The fewest digits are those of the coarsest grid with a
point in the interval of the numbers that round to the double, and if a grid has a point there, so
it has one next to the double.
-/

namespace BrokerConnector.Decimal

/-- How many doubles have the same sign and exponent. -/
def fractionCount : Nat := Nat.pow 2 52

/-- How many doubles have the same sign, those that are not finite included. -/
def magnitudeCount : Nat := Nat.pow 2 63

/-- A positive finite double: the number `significand · 2^exponent`. -/
structure Binary where
  significand : Nat
  exponent : Int
  /-- Whether the next smaller double is half as far away as the next larger one. -/
  isPowerOfTwo : Bool := false
  deriving DecidableEq, Inhabited

namespace Binary

/-- The finite double of a positive sign with these bits. -/
def ofBits (bits : UInt64) : Binary :=
  let field := bits.toNat % magnitudeCount / fractionCount
  let fraction := bits.toNat % fractionCount
  if field = 0 then { significand := fraction, exponent := -1074 }
  else {
    significand := fraction + fractionCount
    exponent := Int.ofNat field - 1075
    isPowerOfTwo := fraction = 0 ∧ 1 < field }

/-- `digits · 10^power` and quarters of the last place of the double, both as multiples of one
number: the first is `digits` times the first factor, the others are multiples of the second. -/
def scale (b : Binary) (power : Int) : Nat × Nat :=
  let shift := b.exponent - 2
  (Nat.pow 2 (-shift).toNat * Nat.pow 10 power.toNat,
    Nat.pow 2 shift.toNat * Nat.pow 10 (-power).toNat)

/-- Whether `digits · 10^power` rounds to the double. The ends of the interval round to their
neighbour with the even significand. -/
def contains (b : Binary) (digits : Nat) (power : Int) : Bool :=
  let (unit, quarter) := b.scale power
  let low := (4 * b.significand - if b.isPowerOfTwo then 1 else 2) * quarter
  let high := (4 * b.significand + 2) * quarter
  let value := digits * unit
  if b.significand % 2 = 0 then low ≤ value && value ≤ high else low < value && value < high

/-- The nearest point to the double of those on a grid that round to it. -/
def onGrid? (b : Binary) (power : Int) : Option Nat :=
  let (unit, quarter) := b.scale power
  let value := 4 * b.significand * quarter
  let below := value / unit
  match b.contains below power, b.contains (below + 1) power with
  | true, true => if 2 * (value % unit) ≤ unit then some below else some (below + 1)
  | true, false => some below
  | false, true => some (below + 1)
  | false, false => none

/-- The powers of ten of the grids that doubles can need, the coarsest first. -/
def powers : List Int :=
  (List.range 650).map fun step => 309 - Int.ofNat step

/-- The shortest decimal that rounds to the double. -/
def shortest (b : Binary) : Decimal :=
  match powers.findSome? fun power => (b.onGrid? power).map (⟨false, ·, power⟩) with
  | some decimal => decimal
  | none => ⟨false, 0, 0⟩

end Binary

/-- Whether the sign bit is set. -/
def isNegativeBits (bits : UInt64) : Bool :=
  magnitudeCount ≤ bits.toNat

/-- The shortest decimal that rounds to a double, if the double is finite. -/
def ofBits? (bits : UInt64) : Option Decimal :=
  let magnitude := bits.toNat % magnitudeCount
  if 2047 * fractionCount ≤ magnitude then none
  else if magnitude = 0 then some ⟨isNegativeBits bits, 0, 0⟩
  else some { (Binary.ofBits bits).shortest with negative := isNegativeBits bits }

end BrokerConnector.Decimal
