import Colloquy.Proofs.Json.Digits

/-!
# Integers as JSON numbers

The digits of a natural number begin with no zero but for zero itself (`numeral_ofNat`), and denote the number
(`ofDigits_ofNat`). So an integer that was written is read back from its digits and its sign, unless it has more digits than
the limits allow (`readScalar_ofInt`).
-/

namespace Colloquy.Json

theorem isDigit_of_mem_ofNat {n : Nat} {c : CodePoint} (h : c ∈ Text.ofNat n) : c.isDigit = true := by
  obtain ⟨d, hd, rfl⟩ := List.mem_map.mp h
  exact Nat.isDigit_of_mem_toDigits (by decide) (by decide) hd

/-- No number but zero is written with a zero in front. -/
theorem head?_toDigits_ne_zero {n : Nat} (h : n ≠ 0) : (Nat.toDigits 10 n).head? ≠ some '0' := by
  induction n using Nat.strongRecOn with
  | ind n ih =>
    by_cases small : n < 10
    · rw [Nat.toDigits_of_lt_base small, List.head?_cons]
      exact fun e => h (Nat.digitChar_eq_zero.mp (Option.some.inj e))
    · rw [Nat.toDigits_of_base_le (by decide) (Nat.not_lt.mp small)]
      have shorter := ih (n / 10) (by omega) (by omega)
      cases hd : Nat.toDigits 10 (n / 10) with
      | nil => exact absurd hd Nat.toDigits_ne_nil
      | cons d ds => rwa [hd] at shorter

/-- **A natural number is written as a numeral.** -/
theorem numeral_ofNat (n : Nat) : Numeral (Text.ofNat n) := by
  by_cases zero : n = 0
  · subst zero
    exact .zero
  have first := head?_toDigits_ne_zero zero
  cases hd : Nat.toDigits 10 n with
  | nil => exact absurd hd Nat.toDigits_ne_nil
  | cons d ds =>
    have written : Text.ofNat n = .char d :: Text.ofChars ds := congrArg Text.ofChars hd
    have digits (c : CodePoint) (hm : c ∈ CodePoint.char d :: Text.ofChars ds) : c.isDigit = true :=
      isDigit_of_mem_ofNat (written ▸ hm)
    rw [written]
    refine .digits (digits _ List.mem_cons_self) (fun e => first ?_) fun c hm => digits c (List.mem_cons_of_mem _ hm)
    rw [hd, List.head?_cons, CodePoint.char.inj e]

/-- The digits of a number denote it. -/
theorem ofDigits_ofNat (n : Nat) : Decimal.ofDigits (Text.ofNat n) = n := by
  have fold (cs : List Char) (start : Nat) : (Text.ofChars cs).foldl (fun n d => 10 * n + (d.toNat - '0'.toNat)) start =
      Nat.ofDigitChars 10 cs start := by
    rw [Nat.ofDigitChars_eq_foldl, Text.ofChars, List.foldl_map]
    rfl
  exact (fold _ 0).trans Nat.ofDigitChars_ten_toDigits

/-- An integer is written as a numeral, after a minus sign if it is negative. -/
theorem ofInt_cases (n : Int) : Text.ofInt n = Text.ofNat n.natAbs ∧ 0 ≤ n ∨
    Text.ofInt n = .char '-' :: Text.ofNat n.natAbs ∧ n < 0 := by
  unfold Text.ofInt
  split
  next h => exact .inr ⟨rfl, h⟩
  next h => exact .inl ⟨rfl, Int.not_lt.mp h⟩

/-- **An integer that was written is read back**, unless it has too many digits. -/
theorem readScalar_ofInt (l : Limits) (n : Int) {rest : Text} (h : Delimits rest) :
    readScalar l (Text.ofInt n ++ rest) =
      (integer l (decide (n < 0)) (Text.ofNat n.natAbs)).map fun v => (v, rest) := by
  rcases ofInt_cases n with ⟨written, sign⟩ | ⟨written, sign⟩
  · rw [written, readScalar_numeral (numeral_ofNat _) h, decide_eq_false (Int.not_lt.mpr sign)]
  · rw [written, List.cons_append, readScalar_minus (numeral_ofNat _) h, decide_eq_true sign]

/-- The integer of the digits that were written for it. -/
theorem integer_value (n : Int) : integer.value (decide (n < 0)) (Text.ofNat n.natAbs) = .int n := by
  unfold integer.value
  rw [ofDigits_ofNat]
  by_cases h : n < 0
  · rw [decide_eq_true h, if_pos rfl]
    exact congrArg Value.int (by omega)
  · rw [decide_eq_false h, if_neg Bool.false_ne_true]
    exact congrArg Value.int (by omega)

end Colloquy.Json
