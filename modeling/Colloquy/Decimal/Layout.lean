import Colloquy.Decimal.Binary
import Colloquy.Decimal.Shortest

/-!
# The text of a floating-point number

How shortest digits are laid out: positional with a decimal point in the middle range, scientific with a signed exponent
of two digits at least outside it.
-/

namespace Colloquy.Decimal

/-- The decisions a written form takes. -/
structure Layout where
  /-- The least decimal exponent that is written positionally. -/
  leastPositional : Int
  /-- The least decimal exponent beyond the positional range. -/
  firstScientific : Int
  infinity : String
  notANumber : String

/-- Numbers inside the text of a value. -/
def Layout.plain : Layout := ⟨-4, 16, "inf", "nan"⟩

/-- Numbers inside JSON text. -/
def Layout.json : Layout := ⟨-4, 16, "Infinity", "NaN"⟩

/-- The decimal digits of a natural number. -/
def digits (n : Nat) : List Char := Nat.toDigits 10 n

/-- So many zeros. -/
def zeros (n : Nat) : List Char := List.replicate n '0'

/-- Digits with the point after `point` of them, zeros filled in on either side; one digit at least on both sides. -/
def positional (ds : List Char) (point : Int) : List Char :=
  if point ≤ 0 then '0' :: '.' :: (zeros (-point).toNat ++ ds)
  else
    let n := point.toNat
    if ds.length ≤ n then ds ++ zeros (n - ds.length) ++ ['.', '0'] else ds.take n ++ '.' :: ds.drop n

/-- One digit before the point, and the exponent with its sign. -/
def scientific (ds : List Char) (exponent : Int) : List Char :=
  let fraction := match ds with
    | [] => []
    | [d] => [d]
    | d :: rest => d :: '.' :: rest
  let magnitude := digits exponent.natAbs
  let padded := if magnitude.length < 2 then '0' :: magnitude else magnitude
  fraction ++ 'e' :: (if exponent < 0 then '-' else '+') :: padded

/-- The digits of a positive finite number in the layout. -/
def Layout.unsigned (l : Layout) (s : Scientific) : List Char :=
  let ds := digits s.mantissa
  let exponent := s.exponent + ds.length - 1
  if l.leastPositional ≤ exponent && exponent < l.firstScientific then positional ds (exponent + 1)
  else scientific ds exponent

/-- The text of a floating-point number. -/
def Layout.render (l : Layout) (x : Float) : List Char :=
  let signed (negative : Bool) (cs : List Char) := if negative then '-' :: cs else cs
  match Parts.ofFloat x with
  | .notANumber => l.notANumber.toList
  | .infinite negative => signed negative l.infinity.toList
  | .finite negative 0 _ => signed negative ['0', '.', '0']
  | .finite negative m q => signed negative (l.unsigned (shortest m q))

end Colloquy.Decimal
