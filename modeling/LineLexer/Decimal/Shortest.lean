import LineLexer.Decimal.Binary

set_option autoImplicit false

namespace LineLexer.Binary

structure Grid where
  quarter : Nat
  step : Nat
  deriving DecidableEq, Repr

def grid (binary : Binary) (power : Int) : Grid where
  quarter := Nat.pow 2 (binary.exponent - 2).toNat * Nat.pow 10 (-power).toNat
  step := Nat.pow 2 (2 - binary.exponent).toNat * Nat.pow 10 power.toNat

-- Below the least mantissa the numbers are twice as close.
def gapBelow (binary : Binary) : Nat :=
  if binary.mantissa = least ∧ lowestExponent < binary.exponent then 1 else 2

def scaled (binary : Binary) (grid : Grid) : Ratio where
  numerator := 4 * binary.mantissa * grid.quarter
  denominator := grid.step

-- Halfway between two numbers the one with the even mantissa is meant.
def readsBack (binary : Binary) (grid : Grid) (multiple : Nat) : Bool :=
  let low := (4 * binary.mantissa - binary.gapBelow) * grid.quarter
  let high := (4 * binary.mantissa + 2) * grid.quarter
  let place := multiple * grid.step
  if binary.mantissa % 2 = 0 then low ≤ place && place ≤ high else low < place && place < high

def multiple? (binary : Binary) (grid : Grid) : Option Nat :=
  let ratio := binary.scaled grid
  let candidates := [ratio.floor, ratio.floor + 1].filter (binary.readsBack grid)
  if candidates.contains ratio.round then some ratio.round else candidates.head?

def point (binary : Binary) : Int :=
  let ratio := binary.scaled (binary.grid 0)
  if ratio.denominator ≤ ratio.numerator then (Numeral.nat ratio.floor).length
  else 1 - (Numeral.nat ((ratio.denominator - 1) / ratio.numerator)).length

def withDigits? (binary : Binary) (count : Nat) : Option Decimal :=
  let power := binary.point - count
  (binary.multiple? (binary.grid power)).map fun multiple =>
    { significand := multiple, exponent := power }

def shortest (binary : Binary) : Decimal :=
  ((List.range' 1 17).findSome? binary.withDigits?).getD { significand := 0, exponent := 0 }

end LineLexer.Binary
