/-!
# The parts of a floating-point number

A binary64 number as an exact value: a sign and a natural times a power of two, an infinity, or no number at all.
Powers are written `Nat.pow`, so that they are the same whatever instances of `^` a module sees.
-/

namespace Colloquy.Decimal

inductive Parts where
  /-- The value `± m · 2 ^ q`. -/
  | finite (negative : Bool) (m : Nat) (q : Int)
  | infinite (negative : Bool)
  | notANumber
  deriving Repr, DecidableEq

/-- The parts of the number with a given bit pattern. -/
def Parts.ofBits (bits : Nat) : Parts :=
  let negative := decide (Nat.pow 2 63 ≤ bits)
  let biased : Nat := bits / Nat.pow 2 52 % Nat.pow 2 11
  let fraction : Nat := bits % Nat.pow 2 52
  if biased = 2047 then if fraction = 0 then infinite negative else notANumber
  else if biased = 0 then finite negative fraction (-1074)
  else finite negative (Nat.pow 2 52 + fraction) ((biased : Int) - 1075)

def Parts.ofFloat (x : Float) : Parts := ofBits x.toBits.toNat

/-- The integer that a number is, if it is one. -/
def Parts.whole? : Parts → Option Int
  | finite negative m q =>
    let magnitude? :=
      if 0 ≤ q then some (m * Nat.pow 2 q.toNat)
      else if m % Nat.pow 2 (-q).toNat = 0 then some (m / Nat.pow 2 (-q).toNat) else none
    magnitude?.map fun n => if negative then -(n : Int) else n
  | _ => none

end Colloquy.Decimal
