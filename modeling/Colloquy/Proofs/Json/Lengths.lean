import Colloquy.Json.Reader

/-!
# JSON strings are longer than their texts

Reading takes a string apart from its front: an escape is no shorter than the code point that it stands for, and the closing
quote is left over (`length_readText_lt`). Only a string is read as a text (`readValue_eq_str`). So a JSON text never denotes
itself: the text that it denotes is shorter (`length_lt_of_read_eq_str`).
-/

namespace Colloquy.Json

/-- A step that is followed by another has been taken. -/
theorem exists_of_bind_eq_ok {ε α β : Type} {x : Except ε α} {next : α → Except ε β} {b : β}
    (h : x >>= next = .ok b) : ∃ a, x = .ok a ∧ next a = .ok b := by
  cases x with
  | error e => cases h
  | ok a => exact ⟨a, rfl, h⟩

/-! ## Strings -/

theorem length_readUnit_le {t rest : Text} {n : Nat} (h : readUnit t = some (n, rest)) : rest.length ≤ t.length := by
  unfold readUnit at h
  split at h
  next a b c d rest' =>
    simp only [Option.bind_eq_bind, Option.bind_eq_some_iff, Option.some.injEq, Prod.mk.injEq] at h
    obtain ⟨-, -, -, -, -, -, -, -, -, rfl⟩ := h
    simp only [List.length_cons]
    omega
  next => cases h

theorem length_readLowSurrogate_le {high : Nat} {t rest : Text} {c : CodePoint}
    (h : readLowSurrogate high t = some (c, rest)) : rest.length ≤ t.length := by
  unfold readLowSurrogate at h
  split at h
  next more =>
    split at h
    next low rest' hunit =>
      split at h
      next =>
        simp only [Option.some.injEq, Prod.mk.injEq] at h
        obtain ⟨-, rfl⟩ := h
        have shorter := length_readUnit_le hunit
        simp only [List.length_cons]
        omega
      next => cases h
    next => cases h
  next => cases h

theorem length_readUnitEscape_le {t rest : Text} {c : CodePoint} (h : readUnitEscape t = some (c, rest)) :
    rest.length ≤ t.length := by
  unfold readUnitEscape at h
  obtain ⟨⟨n, after⟩, hunit, h⟩ := Option.bind_eq_some_iff.mp h
  have shorter := length_readUnit_le hunit
  dsimp only at h
  split at h
  · cases hlow : readLowSurrogate n after with
    | none =>
      rw [hlow] at h
      cases h
      exact shorter
    | some found =>
      rw [hlow] at h
      cases h
      exact Nat.le_trans (length_readLowSurrogate_le hlow) shorter
  · cases h
    exact shorter

/-- An escape is read from the front of what follows its backslash. -/
theorem length_readEscape_le {t rest : Text} {d : CodePoint} (h : readEscape t = some (d, rest)) :
    rest.length ≤ t.length := by
  unfold readEscape at h
  split at h
  case h_9 more => exact Nat.le_trans (length_readUnitEscape_le h) (Nat.le_succ _)
  case h_10 => cases h
  all_goals
    cases h
    exact Nat.le_succ _

/-- **The text of a string is shorter than the string**, by its closing quote at least. -/
theorem length_readText_lt {fuel : Nat} {t text rest : Text} (h : readText fuel t = some (text, rest)) :
    text.length < t.length := by
  induction fuel generalizing t text rest with
  | zero => cases h
  | succ fuel ih =>
    cases t with
    | nil => cases h
    | cons c t =>
      rw [readText] at h
      split at h
      · cases h
        exact Nat.succ_pos _
      split at h
      · obtain ⟨⟨d, after⟩, hescape, h⟩ := Option.bind_eq_some_iff.mp h
        obtain ⟨⟨text', rest'⟩, hmore, h⟩ := Option.bind_eq_some_iff.mp h
        cases h
        have short := ih hmore
        have escape := length_readEscape_le hescape
        simp only [List.length_cons]
        omega
      split at h
      · cases h
      · obtain ⟨⟨text', rest'⟩, hmore, h⟩ := Option.bind_eq_some_iff.mp h
        cases h
        have short := ih hmore
        simp only [List.length_cons]
        omega

theorem length_readString_lt {t text rest : Text} (h : readString t = .ok (text, rest)) : text.length < t.length := by
  unfold readString at h
  split at h
  next found hread =>
    cases h
    exact length_readText_lt hread
  next => cases h

/-! ## Where a string begins -/

theorem finishNumber_ne_str (l : Limits) (negative : Bool) (whole t text rest : Text) :
    finishNumber l negative whole t ≠ .ok (.str text, rest) := by
  intro h
  unfold finishNumber integer at h
  dsimp only at h
  split at h
  · split at h
    next limit _ =>
      split at h <;> cases h
    next => cases h
  · cases h
  · cases h

/-- No constant and no number is a text. -/
theorem readScalar_ne_str (l : Limits) (t text rest : Text) : readScalar l t ≠ .ok (.str text, rest) := by
  intro h
  unfold readScalar at h
  split at h
  next word v found =>
    have known : (word, v) ∈ constants := List.mem_of_find?_eq_some found
    cases h
    simp [constants] at known
  next =>
    have unsigned (negative : Bool) (t : Text) : readUnsigned l negative t ≠ .ok (.str text, rest) := by
      intro h
      unfold readUnsigned at h
      split at h
      · cases h
      · split at h
        · exact finishNumber_ne_str _ _ _ _ _ _ h
        · split at h
          · exact finishNumber_ne_str _ _ _ _ _ _ h
          · cases h
    unfold readNumber at h
    split at h
    · exact unsigned _ _ h
    · exact unsigned _ _ h

/-- A value that is a text begins with the quote of a string. -/
theorem readValue_eq_str {fuel : Nat} {l : Limits} {t text rest : Text} (h : readValue fuel l t = .ok (.str text, rest)) :
    ∃ body, t = .char '"' :: body ∧ readString body = .ok (text, rest) := by
  cases fuel with
  | zero =>
    rw [readValue] at h
    cases h
  | succ fuel =>
    cases t with
    | nil =>
      rw [readValue] at h
      cases h
    | cons c t =>
      rw [readValue] at h
      split at h
      next quote =>
        subst quote
        refine ⟨t, rfl, ?_⟩
        obtain ⟨⟨text', rest'⟩, hstring, h⟩ := exists_of_bind_eq_ok h
        cases h
        exact hstring
      split at h
      · split at h
        · cases h
        · split at h
          · cases h
          · obtain ⟨_, -, h⟩ := exists_of_bind_eq_ok h
            cases h
      split at h
      · split at h
        · cases h
        · split at h
          · cases h
          · obtain ⟨_, -, h⟩ := exists_of_bind_eq_ok h
            cases h
      · exact absurd h (readScalar_ne_str _ _ _ _)

/-- **The text of a JSON string is shorter than the JSON text.** -/
theorem length_lt_of_read_eq_str {l : Limits} {t text : Text} (h : read l t = .ok (.str text)) :
    text.length < t.length := by
  obtain ⟨⟨v, rest⟩, hvalue, h⟩ := exists_of_bind_eq_ok h
  dsimp only at h
  split at h
  · cases h
    obtain ⟨body, begins, hstring⟩ := readValue_eq_str hvalue
    have inside := length_readString_lt hstring
    have within : (skipSpace t).length ≤ t.length := (List.dropWhile_sublist isSpace).length_le
    rw [begins, List.length_cons] at within
    omega
  · cases h

end Colloquy.Json
