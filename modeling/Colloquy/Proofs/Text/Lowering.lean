import Colloquy.Text.Case

/-!
# Small letters in context

What the small form of a part of a text is depends on the text around it through capital sigmas alone: a sigma that ends a
word has a form of its own (`lowerWithin_congr`). A text keeps its form wherever it stands if it has no sigma at one of its
ends whose form is decided by what follows or goes before (`Exposed`). If it has one, there is a text that contains it, and
whose small form does not contain its small form (`lower_infix_iff`).
-/

namespace Colloquy.Text

/-! ## Small forms between other texts -/

/-- Whether a capital sigma between two texts ends a word. As with `lowerFrom`, what is before it has the nearest first. -/
def endsWord (before after : Text) : Bool := nextIsCased before && !nextIsCased after

/-- The small form of a character between two texts. -/
def lowerAt (before : Text) (c : CodePoint) (after : Text) : Text :=
  if c = .char 'Σ' then [.char (if endsWord before after then 'ς' else 'σ')]
  else if c = .char 'İ' then [.char 'i', .ofNat 0x307]
  else [lowerChar c]

/-- The small form of a text between two others. -/
def lowerWithin (after before : Text) : Text → Text
  | [] => []
  | c :: rest => lowerAt before c (rest ++ after) ++ lowerWithin after (c :: before) rest

theorem lowerFrom_eq (before t : Text) : lowerFrom before t = lowerWithin [] before t := by
  induction t generalizing before with
  | nil => rfl
  | cons c rest ih =>
    show lowerAt before c rest ++ lowerFrom (c :: before) rest = _
    rw [ih, lowerWithin, List.append_nil]

theorem lower_eq (t : Text) : lower t = lowerWithin [] [] t := lowerFrom_eq [] t

theorem lowerAt_ne_nil (before : Text) (c : CodePoint) (after : Text) : lowerAt before c after ≠ [] := by
  unfold lowerAt
  split
  · exact List.cons_ne_nil _ _
  · split <;> exact List.cons_ne_nil _ _

/-- No character vanishes. -/
theorem lower_eq_nil_iff {t : Text} : lower t = [] ↔ t = [] := by
  cases t with
  | nil => exact iff_of_true rfl rfl
  | cons c rest =>
    rw [lower_eq, lowerWithin]
    exact iff_of_false (List.append_ne_nil_of_left_ne_nil (lowerAt_ne_nil [] c _) _) (List.cons_ne_nil c rest)

theorem lowerWithin_append (after before u v : Text) : lowerWithin after before (u ++ v) =
    lowerWithin (v ++ after) before u ++ lowerWithin after (u.reverse ++ before) v := by
  induction u generalizing before with
  | nil => rfl
  | cons c rest ih => simp [lowerWithin, ih]

theorem lowerWithin_concat (after before u : Text) (c : CodePoint) : lowerWithin after before (u ++ [c]) =
    lowerWithin (c :: after) before u ++ lowerAt (u.reverse ++ before) c after := by
  simp [lowerWithin_append, lowerWithin]

/-- **Only the sigmas look around.** -/
theorem lowerWithin_congr {after after' before before' t : Text}
    (h : ∀ x y, t = x ++ .char 'Σ' :: y →
      endsWord (x.reverse ++ before) (y ++ after) = endsWord (x.reverse ++ before') (y ++ after')) :
    lowerWithin after before t = lowerWithin after' before' t := by
  induction t generalizing before before' with
  | nil => rfl
  | cons c rest ih =>
    have first : lowerAt before c (rest ++ after) = lowerAt before' c (rest ++ after') := by
      unfold lowerAt
      by_cases hc : c = .char 'Σ'
      · subst hc
        have same : endsWord before (rest ++ after) = endsWord before' (rest ++ after') := h [] rest rfl
        rw [same]
      · rw [if_neg hc, if_neg hc]
    have others : lowerWithin after (c :: before) rest = lowerWithin after' (c :: before') rest := by
      refine ih fun x y hxy => ?_
      have same := h (c :: x) y (congrArg (c :: ·) hxy)
      rw [List.reverse_cons, List.append_assoc, List.append_assoc] at same
      exact same
    rw [lowerWithin, lowerWithin, first, others]

/-! ## The nearest letter -/

theorem isCased_sigma : isCased (.char 'Σ') = true ∧ isCaseIgnorable (.char 'Σ') = false := by decide +kernel

/-- What is skipped over hides nothing behind it. -/
theorem nextIsCased_append_of_skipped {t : Text} (h : ∀ c ∈ t, isCaseIgnorable c = true) (s : Text) :
    nextIsCased (t ++ s) = nextIsCased s := by
  unfold nextIsCased
  rw [List.dropWhile_append_of_pos h]

/-- What is not skipped over hides all that is behind it. -/
theorem nextIsCased_append_of_not_skipped {t : Text} (h : ¬∀ c ∈ t, isCaseIgnorable c = true) (s : Text) :
    nextIsCased (t ++ s) = nextIsCased t := by
  induction t with
  | nil => exact absurd (List.forall_mem_nil _) h
  | cons c rest ih =>
    unfold nextIsCased
    by_cases hc : isCaseIgnorable c = true
    · rw [List.cons_append, List.dropWhile_cons_of_pos hc, List.dropWhile_cons_of_pos hc]
      exact ih fun skipped => h (List.forall_mem_cons.mpr ⟨hc, skipped⟩)
    · rw [List.cons_append, List.dropWhile_cons_of_neg hc, List.dropWhile_cons_of_neg hc]

theorem nextIsCased_of_skipped {t : Text} (h : ∀ c ∈ t, isCaseIgnorable c = true) : nextIsCased t = false := by
  rw [← List.append_nil t, nextIsCased_append_of_skipped h]
  rfl

theorem not_skipped_sigma {t : Text} (h : .char 'Σ' ∈ t) : ¬∀ c ∈ t, isCaseIgnorable c = true := by
  intro skipped
  exact Bool.false_ne_true (isCased_sigma.2.symm.trans (skipped _ h))

/-- Nothing is seen beyond a sigma. -/
theorem nextIsCased_sigma (t s s' : Text) :
    nextIsCased (t ++ .char 'Σ' :: s) = nextIsCased (t ++ .char 'Σ' :: s') := by
  have hidden : ∀ s, nextIsCased (t ++ .char 'Σ' :: s) = nextIsCased (t ++ [.char 'Σ']) := by
    intro s
    have behind := nextIsCased_append_of_not_skipped (t := t ++ [.char 'Σ']) (not_skipped_sigma (by simp)) s
    rw [List.append_assoc] at behind
    exact behind
  rw [hidden s, hidden s']

/-! ## Texts with a sigma -/

theorem lowerWithin_sigma (after before x y : Text) : lowerWithin after before (x ++ .char 'Σ' :: y) =
    lowerWithin (.char 'Σ' :: (y ++ after)) before x ++
      .char (if endsWord (x.reverse ++ before) (y ++ after) then 'ς' else 'σ') ::
        lowerWithin after (.char 'Σ' :: (x.reverse ++ before)) y := by
  rw [lowerWithin_append, lowerWithin, lowerAt, if_pos rfl]
  rfl

/-- What is before a sigma is not changed by what is behind it. -/
theorem lowerWithin_before_sigma (s s' before x : Text) :
    lowerWithin (.char 'Σ' :: s) before x = lowerWithin (.char 'Σ' :: s') before x := by
  refine lowerWithin_congr fun _ y _ => ?_
  unfold endsWord
  rw [nextIsCased_sigma y s s']

/-- What is behind a sigma is not changed by what is before it. -/
theorem lowerWithin_behind_sigma (after s s' y : Text) :
    lowerWithin after (.char 'Σ' :: s) y = lowerWithin after (.char 'Σ' :: s') y := by
  refine lowerWithin_congr fun x _ _ => ?_
  unfold endsWord
  rw [nextIsCased_sigma x.reverse s s']

/-- What is skipped over is not changed by what is around it. -/
theorem lowerWithin_of_skipped {t : Text} (h : ∀ c ∈ t, isCaseIgnorable c = true) (after after' before before' : Text) :
    lowerWithin after before t = lowerWithin after' before' t := by
  refine lowerWithin_congr fun x y hxy => absurd h (not_skipped_sigma ?_)
  rw [hxy]
  exact List.mem_append_right x List.mem_cons_self

/-! ## Texts that stand in other texts -/

/-- Between these two texts the sigmas of a text have the forms that they have in the text alone. -/
def KeepsForm (t before after : Text) : Prop :=
  ∀ x y, t = x ++ .char 'Σ' :: y → endsWord (x.reverse ++ before.reverse) (y ++ after) = endsWord x.reverse y

/-- **A text with a sigma at an open end**: nothing but what is skipped over stands before it, and no letter that would keep it
from ending a word comes after it; or it ends a word, and nothing but what is skipped over comes after it. -/
inductive Exposed : Text → Prop
  | start {x y : Text} : (∀ c ∈ x, isCaseIgnorable c = true) → nextIsCased y = false → Exposed (x ++ .char 'Σ' :: y)
  | stop {x y : Text} : nextIsCased x.reverse = true → (∀ c ∈ y, isCaseIgnorable c = true) →
      Exposed (x ++ .char 'Σ' :: y)

theorem Exposed.mem {t : Text} (h : Exposed t) : .char 'Σ' ∈ t := by
  cases h <;> exact List.mem_append_right _ List.mem_cons_self

theorem keepsForm_of_not_exposed {t : Text} (h : ¬Exposed t) (before after : Text) : KeepsForm t before after := by
  rintro x y rfl
  unfold endsWord
  by_cases hx : ∀ c ∈ x, isCaseIgnorable c = true
  · cases letter : nextIsCased y with
    | false => exact absurd (.start hx letter) h
    | true =>
      have inside : ¬∀ c ∈ y, isCaseIgnorable c = true := fun hy => by
        rw [nextIsCased_of_skipped hy] at letter
        cases letter
      rw [nextIsCased_append_of_not_skipped inside, letter, Bool.not_true, Bool.and_false, Bool.and_false]
  · have hx' : ¬∀ c ∈ x.reverse, isCaseIgnorable c = true := by simpa using hx
    rw [nextIsCased_append_of_not_skipped hx']
    by_cases hy : ∀ c ∈ y, isCaseIgnorable c = true
    · cases letter : nextIsCased x.reverse with
      | false => rfl
      | true => exact absurd (.stop letter hy) h
    · rw [nextIsCased_append_of_not_skipped hy]

theorem lower_append_append (u t v : Text) : lower (u ++ t ++ v) =
    lowerWithin (t ++ v) [] u ++ lowerWithin v u.reverse t ++ lowerWithin [] (t.reverse ++ u.reverse) v := by
  simp [lower_eq, lowerWithin_append]

/-- Where a text keeps its form, the small form of the whole contains its small form. -/
theorem KeepsForm.lower_occurs {t u v : Text} (h : KeepsForm t u v) : lower t <:+: lower (u ++ t ++ v) := by
  have same : lowerWithin v u.reverse t = lower t := by
    rw [lower_eq]
    refine lowerWithin_congr fun x y hxy => ?_
    rw [List.append_nil, List.append_nil]
    exact h x y hxy
  rw [lower_append_append, same]
  exact ⟨_, _, rfl⟩

/-- A text in which one character is exchanged for another no longer occurs, whatever is put around it without this
character. -/
theorem not_infix_of_ne {d e : CodePoint} (hne : e ≠ d) (x y : Text) {l r : Text} (hl : d ∉ l) (hr : d ∉ r) :
    ¬x ++ d :: y <:+: l ++ (x ++ e :: y) ++ r := by
  intro h
  have count := h.sublist.count_le d
  simp only [List.count_append, List.count_cons_self, List.count_cons_of_ne hne, List.count_eq_zero.mpr hl,
    List.count_eq_zero.mpr hr] at count
  omega

theorem isCased_letter : nextIsCased [.char 'A'] = true ∧ lowerChar (.char 'A') = .char 'a' := by decide +kernel

theorem lowerWithin_letter (after before : Text) : lowerWithin after before [.char 'A'] = [.char 'a'] := by
  rw [lowerWithin, lowerAt, if_neg (by decide), if_neg (by decide), isCased_letter.2]
  rfl

/-- **A text with a sigma at an open end is hidden by some letter next to it.** -/
theorem Exposed.exists_hidden {t : Text} (h : Exposed t) : ∃ u v, ¬lower t <:+: lower (u ++ t ++ v) := by
  have letter := isCased_letter.1
  cases h with
  | @start x y hx hy =>
    refine ⟨[.char 'A'], [], ?_⟩
    have hx' : ∀ c ∈ x.reverse, isCaseIgnorable c = true := by simpa using hx
    have alone : endsWord x.reverse y = false := by rw [endsWord, nextIsCased_of_skipped hx', Bool.false_and]
    have behind : endsWord (x.reverse ++ [.char 'A']) y = true := by
      rw [endsWord, nextIsCased_append_of_skipped hx', letter, hy]
      rfl
    have small := lowerWithin_sigma [] [] x y
    have within := lowerWithin_sigma [] [.char 'A'] x y
    rw [List.append_nil, List.append_nil, alone] at small
    rw [List.append_nil, behind, lowerWithin_of_skipped hx _ (.char 'Σ' :: y) _ [],
      lowerWithin_behind_sigma [] _ x.reverse y] at within
    rw [lower_append_append, lower_eq, small, List.append_nil, List.reverse_singleton, within, lowerWithin_letter]
    have exchanged : CodePoint.char 'ς' ≠ .char 'σ' := by decide
    have absent : CodePoint.char 'σ' ∉ [.char 'a'] := by decide
    exact not_infix_of_ne exchanged _ _ absent List.not_mem_nil
  | @stop x y hx hy =>
    refine ⟨[], [.char 'A'], ?_⟩
    have alone : endsWord x.reverse y = true := by
      rw [endsWord, hx, nextIsCased_of_skipped hy]
      rfl
    have before : endsWord x.reverse (y ++ [.char 'A']) = false := by
      rw [endsWord, nextIsCased_append_of_skipped hy, letter, Bool.not_true, Bool.and_false]
    have small := lowerWithin_sigma [] [] x y
    have within := lowerWithin_sigma [.char 'A'] [] x y
    rw [List.append_nil, List.append_nil, alone] at small
    rw [List.append_nil, before, lowerWithin_of_skipped hy [.char 'A'] [] _ (.char 'Σ' :: x.reverse),
      lowerWithin_before_sigma _ y [] x] at within
    rw [lower_append_append, lower_eq, small, List.reverse_nil, within, lowerWithin_letter]
    have exchanged : CodePoint.char 'σ' ≠ .char 'ς' := by decide
    have absent : CodePoint.char 'ς' ∉ [.char 'a'] := by decide
    exact not_infix_of_ne exchanged _ _ List.not_mem_nil absent

/-- **When the small form of a text is found in that of every text around it**: exactly when it has no sigma at an open end. -/
theorem lower_infix_iff {t : Text} : (∀ u v, lower t <:+: lower (u ++ t ++ v)) ↔ ¬Exposed t := by
  constructor
  · intro h exposed
    obtain ⟨u, v, hidden⟩ := exposed.exists_hidden
    exact hidden (h u v)
  · exact fun h u v => (keepsForm_of_not_exposed h u v).lower_occurs

end Colloquy.Text
