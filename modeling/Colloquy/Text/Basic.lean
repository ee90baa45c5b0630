/-!
# Texts

A text is a list of code points: characters, and halves of surrogate pairs. An escape can name one half of a pair
without the other, and such a half stays in a text until the text is written again.
-/

namespace Colloquy

inductive CodePoint where
  | char (c : Char)
  /-- The half of a surrogate pair with the code `0xD800 + n`. -/
  | half (n : Fin 0x800)
  deriving Repr, DecidableEq

namespace CodePoint

/-- The code of a code point. -/
def toNat : CodePoint → Nat
  | char c => c.toNat
  | half n => 0xD800 + n.val

/-- The code point with a code; a code beyond the last one stands for the null character. -/
def ofNat (n : Nat) : CodePoint :=
  if h : 0xD800 ≤ n ∧ n < 0xE000 then half ⟨n - 0xD800, by omega⟩ else char (Char.ofNat n)

theorem ofNat_toNat (c : CodePoint) : ofNat c.toNat = c := by
  cases c with
  | char c =>
    have outside : ¬(0xD800 ≤ c.toNat ∧ c.toNat < 0xE000) := by
      rcases c.valid with low | ⟨high, _⟩ <;> unfold Char.toNat <;> omega
    rw [toNat, ofNat, dif_neg outside, Char.ofNat_toNat]
  | half n =>
    have inside : 0xD800 ≤ 0xD800 + n.val ∧ 0xD800 + n.val < 0xE000 := by omega
    rw [toNat, ofNat, dif_pos inside]
    exact congrArg half (Fin.ext (Nat.add_sub_cancel_left ..))

/-- The character, if the code point is one. -/
def char? : CodePoint → Option Char
  | char c => some c
  | half _ => none

/-- Whether the code point is a digit from `0` to `9`. -/
def isDigit : CodePoint → Bool
  | char c => c.isDigit
  | half _ => false

/-- The small form of a letter from `A` to `Z`, and any other code point as it is. -/
def toLower : CodePoint → CodePoint
  | char c => char c.toLower
  | half n => half n

end CodePoint

abbrev Text := List CodePoint

instance : LawfulBEq Text := inferInstance

namespace Text

/-- The text of some characters. -/
def ofChars (cs : List Char) : Text := cs.map .char

def ofString (s : String) : Text := ofChars s.toList

instance : Coe String Text := ⟨ofString⟩

theorem ofString_inj {s t : String} : ofString s = ofString t ↔ s = t := by
  refine ⟨fun h => ?_, congrArg _⟩
  exact String.toList_inj.1 ((List.map_inj_right fun _ _ => CodePoint.char.inj).1 h)

/-- A natural number in decimal digits. -/
def ofNat (n : Nat) : Text := ofChars (Nat.toDigits 10 n)

/-- An integer in decimal digits, with a sign when it is negative. -/
def ofInt (n : Int) : Text := if n < 0 then .char '-' :: ofNat n.natAbs else ofNat n.natAbs

/-- Whether a text is free of surrogate halves. -/
def isUnicode (t : Text) : Bool := t.all fun c => c.char?.isSome

/-- The text as it is shown on a terminal, with a replacement character for every surrogate half. -/
def display (t : Text) : String := String.ofList (t.map fun c => c.char?.getD '\uFFFD')

end Text

end Colloquy
