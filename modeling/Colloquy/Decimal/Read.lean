import Colloquy.Decimal.Nearest
import Colloquy.Text.Class

/-!
# Reading numbers from text

Numbers have a plain text: for an integer a minus sign and digits without a leading zero, for a floating-point number
digits with a point and an exponent, either of which may be left out, or a name. The lenient texts of settings and
editor fields are tidied until they are plain: blanks around the number, leading zeros, a plus sign, a fraction of zeros
and single underscores go.
-/

namespace Colloquy.Decimal

/-- The natural number that decimal digits denote. -/
def ofDigits (ds : Text) : Nat := ds.foldl (fun n d => 10 * n + (d.toNat - '0'.toNat)) 0

/-- A leading sign, as whether the number is negative, and the text after it. -/
def splitSign : Text → Bool × Text
  | .char '-' :: t => (true, t)
  | .char '+' :: t => (false, t)
  | t => (false, t)

/-! ## Underscores -/

def underscore : CodePoint := .char '_'

/-- Whether two underscores stand side by side. -/
def hasDoubleUnderscore : Text → Bool
  | a :: b :: t => (a == underscore && b == underscore) || hasDoubleUnderscore (b :: t)
  | _ => false

/-- Whether underscores separate the parts of a text: none stands at an end or beside another. -/
def isGrouped (t : Text) : Bool :=
  t.head? != some underscore && t.getLast? != some underscore && !hasDoubleUnderscore t

def dropUnderscores (t : Text) : Text := t.filter (· ≠ underscore)

/-! ## Integers -/

/-- Why a text denotes no integer. -/
inductive Misread where
  | unreadable
  | tooLong
  deriving Repr, DecidableEq

/-- The most digits of an integer. -/
def maxDigits : Nat := 4300

/-- The integer that a plain text denotes. The digits are counted before what follows them is looked at. -/
def readPlainInt (t : Text) : Except Misread Int :=
  let (negative, body) := match t with
    | .char '-' :: body => (true, body)
    | body => (false, body)
  let ds := body.takeWhile CodePoint.isDigit
  if ds.isEmpty then .error .unreadable
  else if ds.head? = some (.char '0') then if body.length = 1 then .ok 0 else .error .unreadable
  else if maxDigits < ds.length then .error .tooLong
  else if ds.length < body.length then .error .unreadable
  else .ok (if negative then -(ofDigits ds : Int) else ofDigits ds)

/-- A text after its leading zero, which is `last` or an underscore among zeros. A point keeps the character before it;
a minus sign may start what follows the zeros. -/
def afterZeros (last : CodePoint) : Text → Option Text
  | [] => some [last]
  | c :: t =>
    if c = .char '0' || c = underscore then afterZeros c t
    else if c.isDigit || c = .char '-' then some (c :: t)
    else if c = .char '.' then some (last :: c :: t)
    else none

/-- A text that starts with a digit, without its leading zeros. -/
def dropLeadingZeros : Text → Option Text
  | [] => none
  | c :: t => if c = .char '0' then afterZeros c t else if c.isDigit then some (c :: t) else none

/-- A text without a fraction of zeros. -/
def dropZeroFraction (t : Text) : Text :=
  let fraction := (t.dropWhile (· ≠ .char '.')).drop 1
  if !fraction.isEmpty && fraction.all (· == .char '0') then t.takeWhile (· ≠ .char '.') else t

/-- Digits without leading zeros, a fraction of zeros and underscores. -/
def tidyDigits (t : Text) : Option Text :=
  (dropLeadingZeros t).map fun t =>
    let t := dropZeroFraction t
    if isGrouped t then dropUnderscores t else t

/-- The plain text of an integer's text. -/
def tidyInt (t : Text) : Option Text :=
  match Text.trimBy Text.isSpace t with
  | .char '-' :: body => (tidyDigits body).map (.char '-' :: ·)
  | .char '+' :: body => tidyDigits body
  | body => tidyDigits body

/-- The integer that a lenient text denotes. Only a text that is too long as it stands is called so; one that is too
long once it is tidy is unreadable. -/
def readInt (t : Text) : Except Misread Int :=
  match readPlainInt t with
  | .error .unreadable => ((tidyInt t).bind fun tidy => (readPlainInt tidy).toOption).elim (.error .unreadable) .ok
  | answer => answer

/-! ## Floating-point numbers -/

/-- The number that one or more digits denote. -/
def digitsOnly? (ds : Text) : Option Nat := if ds ≠ [] ∧ ds.all CodePoint.isDigit then some (ofDigits ds) else none

/-- The exponent after the digits of a number: none written means zero. -/
def readExponent? : Text → Option Int
  | [] => some 0
  | c :: t =>
    if c = .char 'e' || c = .char 'E' then
      let (negative, ds) := splitSign t
      (digitsOnly? ds).map fun n => if negative then -(n : Int) else n
    else none

/-- The number that digits with a point and an exponent, either of which may be left out, denote. -/
def readUnsigned? (negative : Bool) (t : Text) : Option Float :=
  let whole := t.takeWhile CodePoint.isDigit
  let rest := t.dropWhile CodePoint.isDigit
  let (fraction, rest) := match rest with
    | .char '.' :: more => (more.takeWhile CodePoint.isDigit, more.dropWhile CodePoint.isDigit)
    | rest => ([], rest)
  if whole.isEmpty && fraction.isEmpty then none
  else (readExponent? rest).map fun e => ofScientific negative (ofDigits (whole ++ fraction)) (e - fraction.length)

/-- The floating-point number that a plain text denotes. -/
def readPlainFloat? (t : Text) : Option Float :=
  let (negative, body) := splitSign t
  let word := body.map CodePoint.toLower
  if word = ("inf" : Text) || word = ("infinity" : Text) then some (infinity negative)
  else if word = ("nan" : Text) then some notANumber
  else readUnsigned? negative body

/-- The floating-point number that a lenient text denotes: there may be blanks around it or underscores in it, but not
both. -/
def readFloat? (t : Text) : Option Float :=
  (readPlainFloat? (Text.trimBy Text.isSpace t)).or
    (if isGrouped t then readPlainFloat? (dropUnderscores t) else none)

end Colloquy.Decimal
