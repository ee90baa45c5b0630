import Colloquy.Proofs.Text.Lowering

/-!
# Folded labels

Labels are compared in folded form, and a label may be folded on its way more than once. That makes no difference: a folded
label is its own folded form (`fold_fold`), and so is that of the trimmed label the label's (`fold_trim`).

Small letters are their own small forms, and no character that is not blank becomes blank. Both are read off the table of small
letters, run by run: no run leads into a run (`CaseRun.settles`).
-/

namespace Colloquy

theorem CodePoint.toNat_ofNat {n : Nat} (h : n.isValidChar) : (ofNat n).toNat = n := by
  have outside : ¬(0xD800 ≤ n ∧ n < 0xE000) := by
    unfold Nat.isValidChar at h
    omega
  rw [ofNat, dif_neg outside]
  show (Char.ofNat n).toNat = n
  rw [Char.ofNat, dif_pos h]
  rfl

namespace Text

/-! ## The table of small letters -/

namespace CaseRun

/-- Whether no run of an ascending table holds one of the codes `first, first + step, …, last`. -/
def misses (step first last : Nat) : List CaseRun → Bool
  | [] => true
  | run :: rest =>
    Nat.blt last run.first ||
      (Nat.blt run.last first ||
        Nat.beq run.step 2 && (Nat.beq step 2 || Nat.beq first last) && !Nat.beq (first % 2) (run.first % 2)) &&
      misses step first last rest

theorem map_of_misses {step first last : Nat} {runs : List CaseRun} (h : misses step first last runs = true) {o : Nat}
    (ho : first + o ≤ last) (hs : o % step = 0) : map runs (first + o) = first + o := by
  induction runs with
  | nil => rfl
  | cons run rest ih =>
    unfold map
    split
    · rfl
    next start =>
      simp only [misses, Bool.or_eq_true, Bool.and_eq_true, Nat.blt_eq, Nat.beq_eq, Bool.not_eq_true'] at h
      have onward := h.resolve_left (by omega)
      rw [if_neg, ih onward.2]
      simp only [Bool.and_eq_true, decide_eq_true_eq, beq_iff_eq, not_and]
      intro stop
      rcases onward.1 with before | ⟨⟨two, steps⟩, odd⟩
      · omega
      · have parity : first % 2 ≠ run.first % 2 := Nat.ne_of_beq_eq_false odd
        have even : o % 2 = 0 := by
          rcases steps with rfl | one
          · exact hs
          · omega
        rw [two]
        omega

/-- A table leaves a code alone, or maps it into the target of a run. -/
theorem map_cases (runs : List CaseRun) (n : Nat) : map runs n = n ∨
    ∃ run ∈ runs, ∃ o, run.first + o ≤ run.last ∧ o % run.step = 0 ∧ map runs n = run.target + o := by
  induction runs with
  | nil => exact .inl rfl
  | cons run rest ih =>
    unfold map
    split
    · exact .inl rfl
    · split
      next inside =>
        simp only [Bool.and_eq_true, decide_eq_true_eq, beq_iff_eq] at inside
        exact .inr ⟨run, List.mem_cons_self, n - run.first, by omega, inside.2, rfl⟩
      · rcases ih with same | ⟨found, hm, o, ho⟩
        · exact .inl same
        · exact .inr ⟨found, List.mem_cons_of_mem _ hm, o, ho⟩

/-- Codes that no small letter has: those of the dotted capital I, of surrogate halves, and of blanks. -/
def avoided : List (Nat × Nat) := (0x130, 0x130) :: (0xD800, 0xDFFF) :: ClassTable.blank

/-- Whether a run maps to codes of small letters, which no run maps any further. -/
def settles (run : CaseRun) : Bool :=
  let last := run.target + (run.last - run.first)
  misses run.step run.target last CaseTable.lower && Nat.blt last 0x110000 &&
    avoided.all fun r => Nat.blt last r.1 || Nat.blt r.2 run.target

theorem lower_settles : CaseTable.lower.all settles = true := by decide +kernel

end CaseRun

theorem Ranges.mem_eq_false {table : List (Nat × Nat)} {n : Nat} (h : ∀ r ∈ table, n < r.1 ∨ r.2 < n) :
    Ranges.mem table n = false := by
  induction table with
  | nil => rfl
  | cons r rest ih =>
    obtain ⟨outside, others⟩ := List.forall_mem_cons.mp h
    unfold Ranges.mem
    split
    · rfl
    · rw [ih others, Bool.or_false, decide_eq_false_iff_not]
      omega

/-- The code of a small letter. -/
structure SmallCode (n : Nat) : Prop where
  fixed : CaseRun.map CaseTable.lower n = n
  valid : n.isValidChar
  ne_dotted : n ≠ 0x130
  not_blank : Ranges.mem ClassTable.blank n = false

theorem map_lower_cases (n : Nat) :
    CaseRun.map CaseTable.lower n = n ∨ SmallCode (CaseRun.map CaseTable.lower n) := by
  rcases CaseRun.map_cases CaseTable.lower n with same | ⟨run, hm, o, ho, hs, mapped⟩
  · exact .inl same
  · right
    have settled := List.all_eq_true.mp CaseRun.lower_settles run hm
    simp only [CaseRun.settles, Bool.and_eq_true, Nat.blt_eq, List.all_eq_true, Bool.or_eq_true] at settled
    obtain ⟨⟨missed, bounded⟩, apart⟩ := settled
    rw [mapped]
    have outside : ∀ r ∈ CaseRun.avoided, run.target + o < r.1 ∨ r.2 < run.target + o := fun r hr =>
      (apart r hr).imp (by omega) (by omega)
    obtain ⟨dotted, halves, blank⟩ : (_ ∧ _ ∧ _) := by
      simpa only [CaseRun.avoided, List.forall_mem_cons] using outside
    exact {
      fixed := CaseRun.map_of_misses missed (by omega) hs
      valid := by unfold Nat.isValidChar; omega
      ne_dotted := by omega
      not_blank := Ranges.mem_eq_false blank }

/-! ## Small letters -/

/-- A character that is its own small form. -/
structure Small (c : CodePoint) : Prop where
  fixed : lowerChar c = c
  ne_dotted : c ≠ .char 'İ'

theorem Small.ne_sigma {c : CodePoint} (h : Small c) : c ≠ .char 'Σ' := by
  rintro rfl
  exact absurd h.fixed (by decide +kernel)

/-- The table leaves a character alone, or makes it a small letter, which is not blank. -/
theorem lowerChar_cases (c : CodePoint) :
    lowerChar c = c ∨ Small (lowerChar c) ∧ isBlank (lowerChar c) = false := by
  unfold lowerChar
  rcases map_lower_cases c.toNat with same | small
  · exact .inl (by rw [same, CodePoint.ofNat_toNat])
  · have code := CodePoint.toNat_ofNat small.valid
    refine .inr ⟨⟨by rw [lowerChar, code, small.fixed], fun dotted => ?_⟩, ?_⟩
    · exact small.ne_dotted (code.symm.trans (congrArg CodePoint.toNat dotted))
    · rw [isBlank, code, small.not_blank]

/-- The small letters that do not come from the table. -/
def specials : Text := [.char 'ς', .char 'σ', .char 'i', .ofNat 0x307]

theorem specials_small : ∀ d ∈ specials, (lowerChar d = d ∧ d ≠ .char 'İ') ∧ isBlank d = false := by
  decide +kernel

theorem mem_lowerAt {before after : Text} {c d : CodePoint} (h : d ∈ lowerAt before c after) :
    d ∈ specials ∨ c ≠ .char 'İ' ∧ d = lowerChar c := by
  unfold lowerAt at h
  split at h
  · left
    rw [List.mem_singleton.mp h]
    split
    · exact List.mem_cons_self
    · exact List.mem_cons_of_mem _ List.mem_cons_self
  · split at h
    · exact .inl (List.mem_cons_of_mem _ (List.mem_cons_of_mem _ h))
    next dotted => exact .inr ⟨dotted, List.mem_singleton.mp h⟩

theorem small_of_mem_lowerAt {before after : Text} {c d : CodePoint} (h : d ∈ lowerAt before c after) : Small d := by
  rcases mem_lowerAt h with special | ⟨dotted, rfl⟩
  · obtain ⟨⟨fixed, ne_dotted⟩, -⟩ := specials_small d special
    exact ⟨fixed, ne_dotted⟩
  · rcases lowerChar_cases c with same | ⟨small, -⟩
    · rw [same]
      exact ⟨same, dotted⟩
    · exact small

/-- What is not blank does not become blank. -/
theorem not_blank_of_mem_lowerAt {before after : Text} {c d : CodePoint} (hc : isBlank c = false)
    (h : d ∈ lowerAt before c after) : isBlank d = false := by
  rcases mem_lowerAt h with special | ⟨-, rfl⟩
  · exact (specials_small d special).2
  · rcases lowerChar_cases c with same | ⟨-, not_blank⟩
    · rw [same, hc]
    · exact not_blank

theorem lowerAt_of_small {c : CodePoint} (h : Small c) (before after : Text) : lowerAt before c after = [c] := by
  rw [lowerAt, if_neg h.ne_sigma, if_neg h.ne_dotted, h.fixed]

theorem small_of_mem_lowerWithin {after before t : Text} {d : CodePoint} (h : d ∈ lowerWithin after before t) :
    Small d := by
  induction t generalizing before with
  | nil => cases h
  | cons c rest ih => exact (List.mem_append.mp h).elim small_of_mem_lowerAt ih

theorem lowerWithin_of_small {t : Text} (h : ∀ c ∈ t, Small c) (after before : Text) :
    lowerWithin after before t = t := by
  induction t generalizing before with
  | nil => rfl
  | cons c rest ih =>
    obtain ⟨first, others⟩ := List.forall_mem_cons.mp h
    rw [lowerWithin, lowerAt_of_small first, ih others, List.singleton_append]

/-- **The small form of a small form is the same.** -/
theorem lower_lower (t : Text) : lower (lower t) = lower t := by
  rw [lower_eq, lower_eq]
  exact lowerWithin_of_small (fun _ => small_of_mem_lowerWithin) [] []

/-! ## Trimming -/

/-- A text without blanks at its ends. -/
structure Trimmed (t : Text) : Prop where
  head : ∀ c ∈ t.head?, isBlank c = false
  last : ∀ c ∈ t.getLast?, isBlank c = false

theorem dropWhile_of_head {t : Text} (h : ∀ c ∈ t.head?, isBlank c = false) : t.dropWhile isBlank = t := by
  cases t with
  | nil => rfl
  | cons c rest => exact List.dropWhile_cons_of_neg (by rw [h c rfl]; exact Bool.false_ne_true)

theorem not_blank_of_head?_dropWhile {t : Text} {c : CodePoint} (h : (t.dropWhile isBlank).head? = some c) :
    isBlank c = false := by
  have stops := List.head?_dropWhile_not isBlank t
  rw [h] at stops
  exact stops

theorem trimmed_trim (t : Text) : Trimmed (trim t) := by
  constructor
  · intro c hc
    -- the trimmed text starts as the text does once the blanks at its start are gone
    have start : trim t <+: t.dropWhile isBlank := by
      rw [← List.reverse_suffix, trim, trimBy, List.reverse_reverse]
      exact List.dropWhile_suffix _
    obtain ⟨rest, split⟩ := List.head?_eq_some_iff.mp hc
    obtain ⟨dropped, whole⟩ := start
    refine not_blank_of_head?_dropWhile (t := t) ?_
    rw [← whole, split]
    rfl
  · intro c hc
    rw [trim, trimBy, List.getLast?_reverse] at hc
    exact not_blank_of_head?_dropWhile hc

theorem Trimmed.trim_eq {t : Text} (h : Trimmed t) : trim t = t := by
  have last : ∀ c ∈ t.reverse.head?, isBlank c = false := by
    rw [List.head?_reverse]
    exact h.last
  rw [trim, trimBy, dropWhile_of_head h.head, dropWhile_of_head last, List.reverse_reverse]

/-- The small form of a text has no blanks at its ends if the text has none. -/
theorem Trimmed.lower {t : Text} (h : Trimmed t) : Trimmed (lower t) := by
  rw [lower_eq]
  constructor
  · intro d hd
    cases t with
    | nil => cases hd
    | cons c rest =>
      obtain ⟨first, others, small⟩ := List.exists_cons_of_ne_nil (lowerAt_ne_nil [] c (rest ++ []))
      rw [lowerWithin, small] at hd
      obtain rfl : first = d := Option.some.inj hd
      exact not_blank_of_mem_lowerAt (h.head c rfl) (small ▸ List.mem_cons_self)
  · intro d hd
    rcases List.eq_nil_or_concat t with rfl | ⟨front, c, rfl⟩
    · cases hd
    · rw [List.concat_eq_append] at h hd
      have hne := lowerAt_ne_nil (front.reverse ++ []) c []
      rw [lowerWithin_concat, List.getLast?_append, List.getLast?_eq_some_getLast hne] at hd
      obtain rfl := Option.some.inj hd
      exact not_blank_of_mem_lowerAt (h.last c List.getLast?_concat) (List.getLast_mem hne)

/-! ## Folding -/

/-- **A folded label is its own folded form.** -/
theorem fold_fold (t : Text) : fold (fold t) = fold t := by
  unfold fold
  rw [(trimmed_trim t).lower.trim_eq, lower_lower]

/-- **A label may be trimmed before it is folded.** -/
theorem fold_trim (t : Text) : fold (trim t) = fold t := by
  unfold fold
  rw [(trimmed_trim t).trim_eq]

end Text

end Colloquy
