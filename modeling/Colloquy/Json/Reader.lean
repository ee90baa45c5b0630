import Colloquy.Decimal.Read
import Colloquy.Value

/-!
# Reading JSON text

A reader for one JSON value surrounded by white space. A number with a point or an exponent is a floating-point number,
any other an integer; `NaN`, `Infinity` and `-Infinity` are numbers too. Of entries with one key the first gives the
place and the last the value. Half a surrogate pair that is escaped alone stands for itself. Limits bound the digits of
an integer and the depth of nesting, and passing one is an error of its own. Fuel bounds the recursion: every two steps
consume a code point, so twice the length of the text is enough.
-/

namespace Colloquy.Json

/-! ## Limits and errors -/

/-- How much a text may hold; none means any amount. -/
structure Limits where
  /-- The most digits of an integer. -/
  digits : Option Nat
  /-- The most lists and objects inside one another. -/
  depth : Option Nat

/-- The limits of texts that come from outside. -/
def Limits.standard : Limits := ⟨some 4300, some 990⟩

def Limits.unlimited : Limits := ⟨none, none⟩

/-- The limits one level deeper; none when that is too deep. -/
def Limits.inside? (l : Limits) : Option Limits :=
  match l.depth with
  | none => some l
  | some 0 => none
  | some (n + 1) => some { l with depth := some n }

/-- Why a text is not read. -/
inductive ReadError where
  /-- The text is not JSON. -/
  | malformed
  | tooManyDigits (limit count : Nat)
  | tooDeep (inObject : Bool)
  deriving Repr, DecidableEq

/-- What an error says; that a text is not JSON needs no words. -/
def ReadError.message : ReadError → Text
  | malformed => ""
  | tooManyDigits limit count =>
    "Exceeds the limit (" ++ Text.ofNat limit ++ " digits) for integer string conversion: value has "
      ++ Text.ofNat count ++ " digits; use sys.set_int_max_str_digits() to increase the limit"
  | tooDeep inObject =>
    "maximum recursion depth exceeded while decoding a JSON " ++ (if inObject then "object" else "array" : Text)
      ++ " from a unicode string"

def isSpace (c : CodePoint) : Bool := c = .char ' ' || c = .char '\t' || c = .char '\n' || c = .char '\r'

def skipSpace (t : Text) : Text := t.dropWhile isSpace

/-! ## Strings -/

def hexDigit? : CodePoint → Option Nat
  | .half _ => none
  | .char c =>
    if c.isDigit then some (c.toNat - '0'.toNat)
    else if 'a' ≤ c ∧ c ≤ 'f' then some (c.toNat - 'a'.toNat + 10)
    else if 'A' ≤ c ∧ c ≤ 'F' then some (c.toNat - 'A'.toNat + 10)
    else none

/-- A UTF-16 code unit in four hexadecimal digits. -/
def readUnit : Text → Option (Nat × Text)
  | a :: b :: c :: d :: rest => do
    some (((← hexDigit? a) * 16 + (← hexDigit? b)) * 256 + (← hexDigit? c) * 16 + (← hexDigit? d), rest)
  | _ => none

/-- The character of a surrogate pair whose first half is `high`, if the text goes on with the escape of a second. -/
def readLowSurrogate (high : Nat) (t : Text) : Option (CodePoint × Text) :=
  match t with
  | .char '\\' :: .char 'u' :: more =>
    match readUnit more with
    | some (low, rest) =>
      if 0xDC00 ≤ low ∧ low < 0xE000 then some (.ofNat (0x10000 + (high - 0xD800) * 0x400 + (low - 0xDC00)), rest)
      else none
    | none => none
  | _ => none

/-- The code point after `\u`. -/
def readUnitEscape (t : Text) : Option (CodePoint × Text) := do
  let (unit, rest) ← readUnit t
  if 0xD800 ≤ unit ∧ unit < 0xDC00 then
    some ((readLowSurrogate unit rest).getD (.ofNat unit, rest))
  else some (.ofNat unit, rest)

/-- The code point after a backslash. -/
def readEscape : Text → Option (CodePoint × Text)
  | .char '"' :: rest => some (.char '"', rest)
  | .char '\\' :: rest => some (.char '\\', rest)
  | .char '/' :: rest => some (.char '/', rest)
  | .char 'b' :: rest => some (.char '\x08', rest)
  | .char 'f' :: rest => some (.char '\x0c', rest)
  | .char 'n' :: rest => some (.char '\n', rest)
  | .char 'r' :: rest => some (.char '\r', rest)
  | .char 't' :: rest => some (.char '\t', rest)
  | .char 'u' :: rest => readUnitEscape rest
  | _ => none

/-- The text up to the closing quote, and the text after it. -/
def readText : Nat → Text → Option (Text × Text)
  | 0, _ => none
  | _ + 1, [] => none
  | fuel + 1, c :: rest =>
    if c = .char '"' then some ([], rest)
    else if c = .char '\\' then do
      let (d, rest) ← readEscape rest
      let (text, rest) ← readText fuel rest
      some (d :: text, rest)
    else if c.toNat < 0x20 then none
    else do
      let (text, rest) ← readText fuel rest
      some (c :: text, rest)

/-- The string after an opening quote. -/
def readString (t : Text) : Except ReadError (Text × Text) :=
  match readText (t.length + 1) t with
  | some found => .ok found
  | none => .error .malformed

/-! ## Numbers -/

/-- The digits after a decimal point, and the text after them; no digits when no digit follows a point. -/
def readFraction : Text → Text × Text
  | .char '.' :: d :: rest =>
    if d.isDigit then (d :: rest.takeWhile CodePoint.isDigit, rest.dropWhile CodePoint.isDigit)
    else ([], .char '.' :: d :: rest)
  | t => ([], t)

/-- An exponent with at least one digit, and the text after it. -/
def readExponent : Text → Option (Int × Text)
  | c :: t =>
    if c = .char 'e' || c = .char 'E' then
      let (negative, body) := Decimal.splitSign t
      let ds := body.takeWhile CodePoint.isDigit
      if ds.isEmpty then none
      else
        let n : Int := Decimal.ofDigits ds
        some (if negative then -n else n, body.dropWhile CodePoint.isDigit)
    else none
  | [] => none

/-- The integer of some digits, if there are not too many. -/
def integer (l : Limits) (negative : Bool) (digits : Text) : Except ReadError Value :=
  match l.digits with
  | some limit => if limit < digits.length then .error (.tooManyDigits limit digits.length) else .ok value
  | none => .ok value
where
  value : Value := .int (if negative then -(Decimal.ofDigits digits : Int) else Decimal.ofDigits digits)

/-- The number whose integer digits are `whole`, and the text after it. -/
def finishNumber (l : Limits) (negative : Bool) (whole rest : Text) : Except ReadError (Value × Text) :=
  let (fraction, afterFraction) := readFraction rest
  match fraction, readExponent afterFraction with
  | [], none => do return (← integer l negative whole, rest)
  | _, none =>
    .ok (.float (Decimal.ofScientific negative (Decimal.ofDigits (whole ++ fraction)) (-fraction.length)),
      afterFraction)
  | _, some (e, rest) =>
    .ok (.float (Decimal.ofScientific negative (Decimal.ofDigits (whole ++ fraction)) (e - fraction.length)), rest)

/-- Digits without a leading zero, then a fraction and an exponent. -/
def readUnsigned (l : Limits) (negative : Bool) : Text → Except ReadError (Value × Text)
  | [] => .error .malformed
  | c :: rest =>
    if c = .char '0' then finishNumber l negative [c] rest
    else if c.isDigit then
      finishNumber l negative (c :: rest.takeWhile CodePoint.isDigit) (rest.dropWhile CodePoint.isDigit)
    else .error .malformed

def readNumber (l : Limits) : Text → Except ReadError (Value × Text)
  | .char '-' :: t => readUnsigned l true t
  | t => readUnsigned l false t

/-! ## Values -/

/-- The named constants. -/
def constants : List (Text × Value) :=
  [("null", .null), ("true", .bool true), ("false", .bool false), ("NaN", .float Decimal.notANumber),
    ("Infinity", .float (Decimal.infinity false)), ("-Infinity", .float (Decimal.infinity true))]

/-- A constant or a number. -/
def readScalar (l : Limits) (t : Text) : Except ReadError (Value × Text) :=
  match constants.find? (·.1.isPrefixOf t) with
  | some (word, v) => .ok (v, t.drop word.length)
  | none => readNumber l t

mutual

/-- One value at the start of the text, and the text after it. -/
def readValue : Nat → Limits → Text → Except ReadError (Value × Text)
  | 0, _, _ => .error .malformed
  | _ + 1, _, [] => .error .malformed
  | fuel + 1, l, c :: rest =>
    if c = .char '"' then do
      let (s, rest) ← readString rest
      return (.str s, rest)
    else if c = .char '[' then
      match l.inside? with
      | none => .error (.tooDeep false)
      | some l =>
        match skipSpace rest with
        | .char ']' :: rest => .ok (.list [], rest)
        | body => do
          let (items, rest) ← readItems fuel l body
          return (.list items, rest)
    else if c = .char '\x7b' then
      match l.inside? with
      | none => .error (.tooDeep true)
      | some l =>
        match skipSpace rest with
        | .char '\x7d' :: rest => .ok (.object [], rest)
        | body => do
          let (members, rest) ← readMembers fuel l body
          return (.object (Entries.ofPairs members), rest)
    else readScalar l (c :: rest)

/-- Items up to the closing bracket, and the text after it. -/
def readItems : Nat → Limits → Text → Except ReadError (List Value × Text)
  | 0, _, _ => .error .malformed
  | fuel + 1, l, t => do
    let (v, rest) ← readValue fuel l t
    match skipSpace rest with
    | .char ']' :: rest => return ([v], rest)
    | .char ',' :: rest => do
      let (items, rest) ← readItems fuel l (skipSpace rest)
      return (v :: items, rest)
    | _ => .error .malformed

/-- Members up to the closing brace, and the text after it. -/
def readMembers : Nat → Limits → Text → Except ReadError (List (Text × Value) × Text)
  | 0, _, _ => .error .malformed
  | fuel + 1, l, t =>
    match t with
    | .char '"' :: rest => do
      let (key, rest) ← readString rest
      match skipSpace rest with
      | .char ':' :: rest => do
        let (v, rest) ← readValue fuel l (skipSpace rest)
        match skipSpace rest with
        | .char '\x7d' :: rest => return ([(key, v)], rest)
        | .char ',' :: rest => do
          let (members, rest) ← readMembers fuel l (skipSpace rest)
          return ((key, v) :: members, rest)
        | _ => .error .malformed
      | _ => .error .malformed
    | _ => .error .malformed

end

/-- The value that a JSON text denotes. -/
def read (l : Limits) (t : Text) : Except ReadError Value := do
  let (v, rest) ← readValue (2 * t.length + 2) l (skipSpace t)
  if (skipSpace rest).isEmpty then return v else throw .malformed

end Colloquy.Json
