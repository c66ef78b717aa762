import LineLexer.Text.Basic

set_option autoImplicit false

namespace LineLexer

structure Decimal where
  significand : Nat
  exponent : Int
  deriving DecidableEq, Repr

namespace Decimal

def digits (decimal : Decimal) : Text :=
  Numeral.nat decimal.significand

-- How many digits stand before the point; negative where zeros follow it.
def point (decimal : Decimal) : Int :=
  decimal.digits.length + decimal.exponent

def withoutFinalZeros (digits : Text) : Text :=
  (digits.reverse.dropWhile (· == '0')).reverse

def positional (digits : Text) (point : Int) : Text :=
  if point ≤ 0 then "0.".toList ++ List.replicate (-point).toNat '0' ++ digits
  else if digits.length ≤ point then
    digits ++ List.replicate (point.toNat - digits.length) '0' ++ ".0".toList
  else digits.take point.toNat ++ '.' :: digits.drop point.toNat

def scientific (digits : Text) (point : Int) : Text :=
  let power := point - 1
  let size := Numeral.nat power.natAbs
  let fraction := if digits.length ≤ 1 then [] else '.' :: digits.drop 1
  digits.take 1 ++ fraction ++ 'e' :: (if power < 0 then '-' else '+') ::
    List.replicate (2 - size.length) '0' ++ size

def shown (decimal : Decimal) : Text :=
  if decimal.significand = 0 then "0.0".toList
  else
    let digits := withoutFinalZeros decimal.digits
    if -4 < decimal.point ∧ decimal.point ≤ 16 then positional digits decimal.point
    else scientific digits decimal.point

end Decimal
end LineLexer
