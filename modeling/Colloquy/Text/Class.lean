import Colloquy.Text.Basic
import Colloquy.Text.ClassTable

/-!
# Character classes

Blank, word and printable characters, each by a table of code point ranges. A range table ascends, so a search stops at
the first range that starts beyond the code point (`Ranges.mem`).
-/

namespace Colloquy.Text

/-- Whether a code point lies in one of the ranges of an ascending table. -/
def Ranges.mem : List (Nat × Nat) → Nat → Bool
  | [], _ => false
  | (first, last) :: rest, n => if n < first then false else n ≤ last || Ranges.mem rest n

/-- White space in the widest sense: the property White_Space and the information separators. -/
def isBlank (c : CodePoint) : Bool := Ranges.mem ClassTable.blank c.toNat

/-- Decimal digits of all scripts. -/
def isDecimalDigit (c : CodePoint) : Bool := Ranges.mem ClassTable.decimalDigit c.toNat

/-- The characters of a placeholder's name: letters, numeric characters of every kind, and the underscore. -/
def isWordChar (c : CodePoint) : Bool := c == .char '_' || Ranges.mem ClassTable.alphanumeric c.toNat

/-- Characters that a quoted text shows as they are. -/
def isPrintable (c : CodePoint) : Bool := !Ranges.mem ClassTable.unprintable c.toNat

/-- Letters that have a case, those that case mapping skips over left out. -/
def isCased (c : CodePoint) : Bool := Ranges.mem ClassTable.cased c.toNat

/-- Characters that case mapping skips over when it looks for a neighbouring letter. -/
def isCaseIgnorable (c : CodePoint) : Bool := Ranges.mem ClassTable.caseIgnorable c.toNat

theorem not_isWordChar_brace :
    isWordChar (.char '\x7b') = false ∧ isWordChar (.char '\x7d') = false := by decide +kernel

/-- White space proper, without the information separators. -/
def isSpace (c : CodePoint) : Bool := isBlank c && !(0x1C ≤ c.toNat && c.toNat ≤ 0x1F)

/-! ## Trimming -/

/-- A text without the characters of a class at its start and its end. -/
def trimBy (p : CodePoint → Bool) (t : Text) : Text := ((t.dropWhile p).reverse.dropWhile p).reverse

/-- A text without the blanks at its start and its end. -/
def trim (t : Text) : Text := trimBy isBlank t

end Colloquy.Text
