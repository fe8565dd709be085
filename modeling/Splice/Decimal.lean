namespace Splice

/-!
# Decimal numbers and their nearest binary neighbours

A number that is written with a point or an exponent stands for the binary64 value
nearest to it, of two equally near ones the one with the even significand.
`Decimal.nearest` finds that value in exact arithmetic and tells whether it is
infinite, has a fractional part or is whole.
-/

/-- The number `digits * 10 ^ exponent`, with a sign. -/
structure Decimal where
  negative : Bool
  digits : Nat
  exponent : Int
  deriving Repr, DecidableEq

/-- What a binary64 value is as a number. -/
inductive Binary64 where
  | infinite
  | fractional
  | whole (value : Int)
  deriving Repr, DecidableEq

/-- The whole number nearest to `numerator / denominator`; a tie goes to the even one. -/
def nearestWhole (numerator denominator : Nat) : Nat :=
  let quotient := numerator / denominator
  let twice := 2 * (numerator % denominator)
  if twice < denominator then
    quotient
  else if twice = denominator then
    quotient + quotient % 2
  else
    quotient + 1

namespace Binary64

def leastExponent : Int := -1074

/-- `numerator / denominator` divided by `2 ^ exponent`, as a fraction. -/
def scaled
    (numerator denominator : Nat)
    (exponent : Int) :
    Nat × Nat :=
  if exponent < 0 then
    (numerator * Nat.pow 2 (-exponent).toNat, denominator)
  else
    (numerator, denominator * Nat.pow 2 exponent.toNat)

/--
The significand and exponent nearest to a positive fraction.  The exponent is the
one that leaves a significand of 53 bits, but never below the least exponent.
-/
def significand
    (numerator denominator : Nat) :
    Nat × Int :=
  let low : Int := (numerator.log2 : Int) - denominator.log2 - 53
  let atLow := scaled numerator denominator low
  let normal := if atLow.1 < Nat.pow 2 53 * atLow.2 then low else low + 1
  let exponent := max normal leastExponent
  let fraction := scaled numerator denominator exponent
  (nearestWhole fraction.1 fraction.2, exponent)

/-- The value `significand * 2 ^ exponent`, infinite from `2 ^ 1024` on. -/
def ofSignificand
    (negative : Bool)
    (significand : Nat)
    (exponent : Int) :
    Binary64 :=
  let sign : Int := if negative then -1 else 1
  if exponent < 0 then
    let unit := Nat.pow 2 (-exponent).toNat
    if significand % unit = 0 then
      .whole (sign * (significand / unit))
    else
      .fractional
  else
    let value := significand * Nat.pow 2 exponent.toNat
    if Nat.pow 2 1024 ≤ value then .infinite else .whole (sign * value)

end Binary64

/--
The binary64 value nearest to a decimal.  Exponents above 310 are infinite and
numbers below `10 ^ (-330)` are zero without further computation.
-/
def Decimal.nearest (decimal : Decimal) : Binary64 :=
  let digits := decimal.digits
  if digits = 0 then
    .whole 0
  else if 310 < decimal.exponent then
    .infinite
  else if 0 ≤ decimal.exponent then
    let rounded :=
      Binary64.significand (digits * Nat.pow 10 decimal.exponent.toNat) 1
    .ofSignificand decimal.negative rounded.1 rounded.2
  else
    let shift := (-decimal.exponent).toNat
    if 331 + digits.log2 / 3 < shift then
      .whole 0
    else
      let rounded := Binary64.significand digits (Nat.pow 10 shift)
      .ofSignificand decimal.negative rounded.1 rounded.2

end Splice
