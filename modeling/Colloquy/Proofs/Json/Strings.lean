import Colloquy.Json.Reader
import Colloquy.Json.Writer

/-!
# Texts as JSON strings

A text is written with escapes and read back from them, one code point at a time (`readText_escapeChar`): short escapes, the
escape of one code unit, and the escapes of the two units of a surrogate pair. A half that stands alone is excluded, because
two halves side by side would be read as a pair. So a JSON string that was written is read as the text that it was written
for, whatever follows it (`readString_escaped`).
-/

namespace Colloquy.Json

/-! ## Code units -/

theorem hexDigit?_hexDigit {n : Nat} (h : n < 16) : hexDigit? (Text.hexDigit n) = some n := by
  have all : ∀ n : Fin 16, hexDigit? (Text.hexDigit n) = some n.val := by decide
  exact all ⟨n, h⟩

/-- Four hexadecimal digits are read as the unit that they were written for. -/
theorem readUnit_hex {n : Nat} (h : n < 0x10000) (rest : Text) : readUnit (Text.hex 4 n ++ rest) = some (n, rest) := by
  have digit (k : Nat) : hexDigit? (Text.hexDigit (k % 16)) = some (k % 16) := hexDigit?_hexDigit (Nat.mod_lt _ (by decide))
  simp only [Text.hex, List.nil_append, List.cons_append, readUnit, digit, Option.bind_eq_bind, Option.bind_some,
    Option.some.injEq, Prod.mk.injEq, and_true]
  omega

theorem unitEscape_append (n : Nat) (rest : Text) :
    unitEscape n ++ rest = .char '\\' :: .char 'u' :: (Text.hex 4 n ++ rest) := rfl

/-- A character of one code unit, from its escape. -/
theorem readEscape_unit {c : Char} (h : c.toNat < 0x10000) (rest : Text) :
    readEscape (.char 'u' :: (Text.hex 4 c.toNat ++ rest)) = some (.char c, rest) := by
  have whole : ¬(0xD800 ≤ c.toNat ∧ c.toNat < 0xDC00) := by
    rcases c.valid with low | ⟨high, -⟩ <;> unfold Char.toNat <;> omega
  show readUnitEscape _ = _
  unfold readUnitEscape
  simp only [readUnit_hex h, Option.bind_eq_bind, Option.bind_some, if_neg whole]
  exact congrArg (fun d => some (d, rest)) (CodePoint.ofNat_toNat (.char c))

/-- The escapes of the two halves of a surrogate pair are read together. -/
theorem readUnitEscape_pair {high low : Nat} (hh : 0xD800 ≤ high ∧ high < 0xDC00) (hl : 0xDC00 ≤ low ∧ low < 0xE000)
    (rest : Text) : readUnitEscape (Text.hex 4 high ++ (unitEscape low ++ rest)) =
      some (.ofNat (0x10000 + (high - 0xD800) * 0x400 + (low - 0xDC00)), rest) := by
  unfold readUnitEscape
  rw [readUnit_hex (by omega), unitEscape_append]
  have second := readUnit_hex (show low < 0x10000 by omega) rest
  simp only [Option.bind_eq_bind, Option.bind_some, if_pos hh, readLowSurrogate, second, if_pos hl, Option.getD_some]

/-- A character of two code units, from the escapes of both. -/
theorem readEscape_pair {c : Char} (h : 0x10000 ≤ c.toNat) (rest : Text) :
    readEscape (.char 'u' :: (Text.hex 4 (0xD800 + (c.toNat - 0x10000) / 0x400) ++
      (unitEscape (0xDC00 + (c.toNat - 0x10000) % 0x400) ++ rest))) = some (.char c, rest) := by
  have bound : c.toNat < 0x110000 := by
    rcases c.valid with low | ⟨-, high⟩ <;> unfold Char.toNat <;> omega
  have code : 0x10000 + (0xD800 + (c.toNat - 0x10000) / 0x400 - 0xD800) * 0x400 +
      (0xDC00 + (c.toNat - 0x10000) % 0x400 - 0xDC00) = (CodePoint.char c).toNat := by
    show _ = c.toNat
    omega
  show readUnitEscape _ = _
  rw [readUnitEscape_pair (by omega) (by omega), code, CodePoint.ofNat_toNat]

/-! ## Strings -/

/-- What an escape is read as is the next code point of the text. -/
theorem readText_backslash {t rest : Text} {d : CodePoint} (h : readEscape t = some (d, rest)) (fuel : Nat) :
    readText (fuel + 1) (.char '\\' :: t) = (readText fuel rest).map fun r => (d :: r.1, r.2) := by
  rw [readText, if_neg (by decide), if_pos rfl, h]
  simp only [Option.bind_eq_bind, Option.bind_some]
  cases readText fuel rest <;> rfl

/-- **A character is read back from the way in which it was written.** -/
theorem readText_escapeChar (c : Char) (fuel : Nat) (rest : Text) :
    readText (fuel + 1) (escapeChar (.char c) ++ rest) =
      (readText fuel rest).map fun r => (.char c :: r.1, r.2) := by
  unfold escapeChar
  split
  next h => exact readText_backslash (by rw [h]; rfl) fuel
  next quote =>
  split
  next h => exact readText_backslash (by rw [h]; rfl) fuel
  next backslash =>
  split
  next h => exact readText_backslash (by rw [h]; rfl) fuel
  split
  next h => exact readText_backslash (by rw [h]; rfl) fuel
  split
  next h => exact readText_backslash (by rw [h]; rfl) fuel
  split
  next h => exact readText_backslash (by rw [h]; rfl) fuel
  split
  next h => exact readText_backslash (by rw [h]; rfl) fuel
  split
  next h =>
    rw [List.singleton_append, readText, if_neg quote, if_neg backslash, if_neg (by omega)]
    cases readText fuel rest <;> rfl
  split
  next h =>
    rw [unitEscape_append]
    exact readText_backslash (readEscape_unit h rest) fuel
  next h =>
    dsimp only
    rw [List.append_assoc, unitEscape_append]
    exact readText_backslash (readEscape_pair (by exact Nat.not_lt.mp h) rest) fuel

/-- A text is read up to the quote after it. -/
theorem readText_escaped {t : Text} (ht : t.isUnicode = true) {fuel : Nat} (enough : t.length < fuel) (rest : Text) :
    readText fuel (t.flatMap escapeChar ++ .char '"' :: rest) = some (t, rest) := by
  induction t generalizing fuel with
  | nil =>
    obtain ⟨fuel, rfl⟩ : ∃ k, fuel = k + 1 := ⟨fuel - 1, by simp at enough; omega⟩
    rfl
  | cons c t ih =>
    obtain ⟨fuel, rfl⟩ : ∃ k, fuel = k + 1 := ⟨fuel - 1, by simp at enough; omega⟩
    simp only [Text.isUnicode, List.all_cons, Bool.and_eq_true] at ht
    cases c with
    | half n => simp [CodePoint.char?] at ht
    | char c =>
      rw [List.flatMap_cons, List.append_assoc, readText_escapeChar, ih ht.2 (by simp at enough; omega)]
      rfl

theorem escapeChar_ne_nil (c : CodePoint) : escapeChar c ≠ [] := by
  unfold escapeChar
  repeat' split
  all_goals exact List.cons_ne_nil _ _

theorem length_le_length_escaped (t : Text) : t.length ≤ (t.flatMap escapeChar).length := by
  induction t with
  | nil => exact Nat.le_refl _
  | cons c t ih =>
    have one := List.length_pos_iff.mpr (escapeChar_ne_nil c)
    rw [List.flatMap_cons, List.length_append, List.length_cons]
    omega

theorem writeText_append (t rest : Text) :
    writeText t ++ rest = .char '"' :: (t.flatMap escapeChar ++ .char '"' :: rest) := by
  unfold writeText
  simp [Text.ofString, Text.ofChars]

/-- **A JSON string that was written is read as its text.** -/
theorem readString_escaped {t : Text} (ht : t.isUnicode = true) (rest : Text) :
    readString (t.flatMap escapeChar ++ .char '"' :: rest) = .ok (t, rest) := by
  have enough := length_le_length_escaped t
  unfold readString
  rw [readText_escaped ht (by rw [List.length_append]; omega)]

end Colloquy.Json
