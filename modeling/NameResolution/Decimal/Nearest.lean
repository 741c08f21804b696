/-!
# The float nearest to a decimal

A decimal number is read as the 64-bit float nearest to it; of two that are
equally near, the one with the even significand is taken. The arithmetic is
exact: nothing is rounded before the last step.
-/

namespace NameResolution.Decimal

/-- The quotient of two numbers rounded to the nearest whole number, a half to
the even neighbour. -/
def roundDiv (num den : Nat) : Nat :=
  let quotient := num / den
  let twice := 2 * (num % den)
  if twice > den || (twice == den && quotient % 2 == 1) then quotient + 1 else quotient

/-- The largest `e` with `2 ^ e * den ≤ num`, for positive numbers. -/
def floorLog2 (num den : Nat) : Int :=
  let guess : Int := (num.log2 : Int) - den.log2
  let reached := if guess < 0 then den ≤ num <<< (-guess).toNat else den <<< guess.toNat ≤ num
  if reached then guess else guess - 1

/-- The bits of positive infinity, above those of every finite positive float. -/
def infinityBits : Nat := 0x7FF0000000000000

/-- The bits of the float nearest to the positive quotient `num / den`. Floats
near it are multiples of a power of two, so the quotient is counted in units of
that power; the bits of positive floats count up through all of them. -/
def nearestBits (num den : Nat) : Nat :=
  let unit := max (floorLog2 num den - 52) (-1074)
  let count :=
    if unit < 0 then roundDiv (num <<< (-unit).toNat) den
    else roundDiv num (den <<< unit.toNat)
  min ((unit + 1074).toNat <<< 52 + count) infinityBits

/-- The float nearest to `± mantissa * 10 ^ exponent`. Numbers far outside of
the range of floats are recognized by their count of digits. -/
def toFloat (negative : Bool) (mantissa : Nat) (exponent : Int) : Float :=
  let digits : Int := (Nat.toDigits 10 mantissa).length
  let bits :=
    if mantissa == 0 || exponent + digits < -400 then 0
    else if exponent + digits > 400 then infinityBits
    else if exponent < 0 then nearestBits mantissa (Nat.pow 10 (-exponent).toNat)
    else nearestBits (mantissa * Nat.pow 10 exponent.toNat) 1
  let magnitude := Float.ofBits bits.toUInt64
  if negative then -magnitude else magnitude

end NameResolution.Decimal
