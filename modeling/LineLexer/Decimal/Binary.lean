import LineLexer.Decimal

set_option autoImplicit false

namespace LineLexer

structure Binary where
  mantissa : Nat
  exponent : Int
  deriving DecidableEq, Repr

namespace Binary

def least : Nat := Nat.pow 2 52

def bound : Nat := Nat.pow 2 53

def lowestExponent : Int := -1074

def highestExponent : Int := 971

-- A mantissa that was rounded up to the bound moves to the next exponent.
def normalize (mantissa : Nat) (exponent : Int) : Binary :=
  if mantissa = bound then { mantissa := least, exponent := exponent + 1 }
  else { mantissa, exponent }

end Binary

structure Ratio where
  numerator : Nat
  denominator : Nat := 1
  deriving DecidableEq, Repr

namespace Ratio

def scale (ratio : Ratio) (base : Nat) (power : Int) : Ratio where
  numerator := ratio.numerator * base.pow power.toNat
  denominator := ratio.denominator * base.pow (-power).toNat

def floor (ratio : Ratio) : Nat :=
  ratio.numerator / ratio.denominator

def round (ratio : Ratio) : Nat :=
  let twice := 2 * (ratio.numerator % ratio.denominator)
  if ratio.denominator < twice ∨ (ratio.denominator = twice ∧ ratio.floor % 2 = 1) then
    ratio.floor + 1
  else ratio.floor

def binaryExponent (ratio : Ratio) : Int :=
  let guess : Int := ratio.numerator.log2 - ratio.denominator.log2 - 53
  let exponent := if Binary.bound ≤ (ratio.scale 2 (-guess)).floor then guess + 1 else guess
  max Binary.lowestExponent exponent

def nearest? (ratio : Ratio) : Option Binary :=
  let exponent := ratio.binaryExponent
  let binary := Binary.normalize (ratio.scale 2 (-exponent)).round exponent
  if binary.exponent ≤ Binary.highestExponent then some binary else none

end Ratio

-- Decimals that are far too small or too great are not computed.
def Decimal.nearest? (decimal : Decimal) : Option Binary :=
  if decimal.significand = 0 ∨ decimal.point < -330 then
    some { mantissa := 0, exponent := Binary.lowestExponent }
  else if 310 < decimal.point then none
  else (Ratio.scale { numerator := decimal.significand } 10 decimal.exponent).nearest?

end LineLexer
