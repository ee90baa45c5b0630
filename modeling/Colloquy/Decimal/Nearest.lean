/-!
# The nearest floating-point number

Rounding a ratio of naturals to binary64 in exact arithmetic: to the nearest representable number, and of two equally
near ones to the one with the even significand. `nearestBits` gives the bit pattern, which for ratios beyond the largest
finite number is that of infinity or larger.
-/

namespace Colloquy.Decimal

/-- A quotient rounded to the nearest natural, a half going to the even neighbour. -/
def roundDiv (num den : Nat) : Nat :=
  let quotient := num / den
  let double := 2 * (num % den)
  if double < den || (double == den && quotient % 2 == 0) then quotient else quotient + 1

/-- `num / den` as a fraction of natural numbers after division by `2 ^ e`. -/
def scaleDown (num den : Nat) (e : Int) : Nat × Nat :=
  if 0 ≤ e then (num, den * Nat.pow 2 e.toNat) else (num * Nat.pow 2 (-e).toNat, den)

/-- The exponent that gives `num / den` a significand of 53 bits, or the least exponent there is. -/
def binaryExponent (num den : Nat) : Int :=
  let s : Int := (num.log2 : Int) - den.log2
  let (n, d) := scaleDown num den s
  max (-1074) (if d ≤ n then s - 52 else s - 53)

/-- The bit pattern of the binary64 number nearest to `num / den`. -/
def nearestBits (num den : Nat) : Nat :=
  if num = 0 then 0 else
    let e := binaryExponent num den
    let (n, d) := scaleDown num den e
    (e + 1074).toNat * Nat.pow 2 52 + roundDiv n d

/-- The bit pattern of infinity: the patterns of finite numbers lie below it. -/
def infinityBits : Nat := 2047 * Nat.pow 2 52

/-- The number nearest to `±num / den`; none when that lies beyond the finite numbers. -/
def nearest? (negative : Bool) (num den : Nat) : Option Float :=
  let bits := nearestBits num den
  if bits < infinityBits then
    some (Float.ofBits (UInt64.ofNat (if negative then bits + Nat.pow 2 63 else bits)))
  else none

/-- The number nearest to an integer divided by a positive natural; none when that lies beyond the finite numbers. -/
def divide? (n : Int) (den : Nat) : Option Float := nearest? (n < 0) n.natAbs den

def infinity (negative : Bool) : Float := if negative then -1.0 / 0.0 else 1.0 / 0.0

def notANumber : Float := 0.0 / 0.0

/-- The number nearest to `±mantissa · 10 ^ exponent`, infinite beyond the finite numbers. -/
def ofScientific (negative : Bool) (mantissa : Nat) (exponent : Int) : Float :=
  let size := exponent + (Nat.log2 mantissa : Int) * 30103 / 100000
  let zero : Float := if negative then -0.0 else 0.0
  if mantissa = 0 || size < -400 then zero
  else if size > 400 then infinity negative
  else
    let (num, den) :=
      if 0 ≤ exponent then (mantissa * Nat.pow 10 exponent.toNat, 1) else (mantissa, Nat.pow 10 (-exponent).toNat)
    (nearest? negative num den).getD (infinity negative)

end Colloquy.Decimal
