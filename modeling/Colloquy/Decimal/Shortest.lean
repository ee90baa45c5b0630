/-!
# Shortest decimal digits

The decimal with the fewest digits that reads back as a given floating-point number `m · 2 ^ q`, and of several with
that many digits the one nearest to it. The reals that read back as the number form an interval around it, the ends
included exactly when `m` is even. For one, two, … seventeen digits the two neighbours of the number on the decimal
grid are tested against the interval in exact arithmetic; if any point of a grid lies in the interval, so does a
neighbour.
-/

namespace Colloquy.Decimal

/-- The value `mantissa · 10 ^ exponent`. -/
structure Scientific where
  mantissa : Nat
  exponent : Int
  deriving Repr, DecidableEq

/-- A positive ratio `num / den` between the ends of the interval of reals that read back as it, over one denominator.
-/
structure Rounding where
  value : Nat
  lower : Nat
  upper : Nat
  den : Nat
  /-- Whether the ends of the interval belong to it. -/
  closed : Bool

/-- The interval of `m · 2 ^ q`. Below a power of two the numbers lie twice as dense. -/
def Rounding.ofBinary (m : Nat) (q : Int) : Rounding :=
  let scale := if 2 ≤ q then Nat.pow 2 (q - 2).toNat else 1
  { value := 4 * m * scale
    lower := (4 * m - (if m == Nat.pow 2 52 && q > -1074 then 1 else 2)) * scale
    upper := (4 * m + 2) * scale
    den := if 2 ≤ q then 1 else Nat.pow 2 (2 - q).toNat
    closed := m % 2 == 0 }

/-- Whether `num / den` reads back as the number. -/
def Rounding.holds (r : Rounding) (num den : Nat) : Bool :=
  let x := num * r.den
  if r.closed then r.lower * den ≤ x && x ≤ r.upper * den else r.lower * den < x && x < r.upper * den

/-- The least `p` with `num / den < 10 ^ p`, searched from `p` upwards. -/
def pointAbove (num den : Nat) : Nat → Nat → Nat
  | 0, p => p
  | fuel + 1, p => if num < den * Nat.pow 10 p then p else pointAbove num den fuel (p + 1)

/-- The greatest `z` with `num · 10 ^ z < den`, searched from `z` upwards. -/
def zerosBelow (num den : Nat) : Nat → Nat → Nat
  | 0, z => z
  | fuel + 1, z => if num * Nat.pow 10 (z + 1) < den then zerosBelow num den fuel (z + 1) else z

/-- The place `p` of the decimal point: `10 ^ (p - 1) ≤ num / den < 10 ^ p`. -/
def pointOf (num den : Nat) : Int :=
  if den ≤ num then (pointAbove num den 400 1 : Int) else -(zerosBelow num den 400 0 : Int)

/-- The better of the two grid neighbours `low` and `low + 1` at `10 ^ k`, if one reads back. -/
def Rounding.onGrid (r : Rounding) (k : Int) : Option Nat :=
  let up := if 0 ≤ k then Nat.pow 10 k.toNat else 1
  let down := if 0 ≤ k then 1 else Nat.pow 10 (-k).toNat
  let low := r.value * down / (r.den * up)
  match r.holds (low * up) down, r.holds ((low + 1) * up) down with
  | false, false => none
  | true, false => some low
  | false, true => some (low + 1)
  | true, true =>
    let twice := 2 * r.value * down
    let middle := (2 * low + 1) * (r.den * up)
    some (if twice < middle || (twice == middle && low % 2 == 0) then low else low + 1)

/-- The first grid with a hit, from `digits` digits on. -/
def Rounding.search (r : Rounding) (point : Int) : Nat → Nat → Scientific
  | 0, digits => ⟨r.value * Nat.pow 10 (digits - point).toNat / r.den, point - digits⟩
  | fuel + 1, digits =>
    match r.onGrid (point - digits) with
    | some mantissa => ⟨mantissa, point - digits⟩
    | none => r.search point fuel (digits + 1)

/-- The same value without zeros at the end of the mantissa. -/
def Scientific.trimZeros (s : Scientific) : Nat → Scientific
  | 0 => s
  | fuel + 1 =>
    if s.mantissa ≠ 0 && s.mantissa % 10 == 0 then trimZeros ⟨s.mantissa / 10, s.exponent + 1⟩ fuel else s

/-- The shortest decimal that reads back as `m · 2 ^ q`. -/
def shortest (m : Nat) (q : Int) : Scientific :=
  let r := Rounding.ofBinary m q
  (r.search (pointOf r.value r.den) 17 1).trimZeros 20

end Colloquy.Decimal
