import Colloquy.Template

/-!
# What rendering makes of a template

Rendering is substitution of placeholders, and nothing else: wherever a placeholder stands, and whatever stands around it,
it becomes the value that goes by its name, and what is before it and after it is rendered apart from it. A text without
placeholders stays as it is. These two laws leave no choice for any template (`substitutes_iff`), so the text of a value is
never looked at again.

The reason is that no placeholder straddles the beginning of another (`placeholder?_append_written`): its name has no
brace, so the second brace of the other could only stand where its name has to begin.
-/

namespace Colloquy.Template

/-- What may stand between the braces of a placeholder. -/
structure IsName (name : Text) : Prop where
  ne_nil : name ≠ []
  word : ∀ x ∈ name, Text.isWordChar x = true

/-- A text without placeholders. -/
def Bare (t : Text) : Prop := ∀ name, IsName name → ¬written name <:+: t

variable {name other after t a b : Text} {c : Context}

/-! ## Placeholders -/

namespace IsName

/-- The only opening braces of a placeholder are the two that it begins with. -/
theorem open_notMem (h : IsName name) : .char '\x7b' ∉ name ++ [.char '\x7d', .char '\x7d'] := by
  intro hm
  rcases List.mem_append.mp hm with hm | hm
  · exact Bool.false_ne_true (Text.not_isWordChar_brace.1.symm.trans (h.word _ hm))
  · revert hm
    decide

theorem takeWhile_append (h : IsName name) :
    (name ++ .char '\x7d' :: after).takeWhile Text.isWordChar = name := by
  rw [List.takeWhile_append_of_pos h.word,
    List.takeWhile_cons_of_neg (by rw [Text.not_isWordChar_brace.2]; exact Bool.false_ne_true), List.append_nil]

theorem dropWhile_append (h : IsName name) :
    (name ++ .char '\x7d' :: after).dropWhile Text.isWordChar = .char '\x7d' :: after := by
  rw [List.dropWhile_append_of_pos h.word,
    List.dropWhile_cons_of_neg (by rw [Text.not_isWordChar_brace.2]; exact Bool.false_ne_true)]

end IsName

theorem written_append (name after : Text) : written name ++ after =
    .char '\x7b' :: .char '\x7b' :: (name ++ .char '\x7d' :: .char '\x7d' :: after) := by
  simp [written]

theorem placeholder?_written (h : IsName name) (after : Text) :
    placeholder? (written name ++ after) = some (name, after) := by
  obtain ⟨x, rest, rfl⟩ := List.exists_cons_of_ne_nil h.ne_nil
  rw [written_append, placeholder?, h.takeWhile_append, h.dropWhile_append]
  rfl

theorem isName_of_placeholder? (h : placeholder? t = some (name, after)) : IsName name := by
  unfold placeholder? at h
  split at h
  next rest =>
    have word := List.all_eq_true.mp (List.all_takeWhile (p := Text.isWordChar) (l := rest))
    split at h
    · cases h
    next hne =>
      obtain ⟨rfl, rfl⟩ := Prod.mk.inj (Option.some.inj h)
      exact ⟨hne, word⟩
    · cases h
  · cases h

/-- **A text starts with a placeholder** exactly when it starts with the written form of a name. -/
theorem placeholder?_eq_some_iff : placeholder? t = some (name, after) ↔ IsName name ∧ t = written name ++ after :=
  ⟨fun h => ⟨isName_of_placeholder? h, placeholder?_eq_some h⟩, fun ⟨hn, ht⟩ => ht ▸ placeholder?_written hn after⟩

/-- A part of a placeholder that is not its beginning starts with an opening brace only if it is all but the first brace. -/
theorem eq_of_append_eq_written (hm : IsName other) {x : CodePoint} {rest : Text}
    (h : x :: rest ++ .char '\x7b' :: after = written other) : rest = [] := by
  obtain ⟨-, h⟩ := List.cons.inj h
  cases rest with
  | nil => rfl
  | cons y rest =>
    obtain ⟨-, h⟩ := List.cons.inj h
    have inside : .char '\x7b' ∈ other ++ [.char '\x7d', .char '\x7d'] :=
      h ▸ List.mem_append_right rest List.mem_cons_self
    exact absurd inside hm.open_notMem

/-- **No placeholder straddles the beginning of another**: one that starts before it ends before it. -/
theorem exists_of_append_written (hm : IsName other) (ha : a ≠ [])
    (h : a ++ (written name ++ b) = written other ++ after) :
    ∃ rest, a = written other ++ rest ∧ after = rest ++ (written name ++ b) := by
  rcases List.append_eq_append_iff.mp h with ⟨tail, split, beyond⟩ | found
  · cases tail with
    | nil => exact ⟨[], by rw [split, List.append_nil, List.append_nil], beyond.symm⟩
    | cons z tail =>
      obtain ⟨x, rest, rfl⟩ := List.exists_cons_of_ne_nil ha
      rw [written_append, List.cons_append] at beyond
      obtain ⟨rfl, second⟩ := List.cons.inj beyond
      obtain rfl := eq_of_append_eq_written hm split.symm
      -- one brace stands before the placeholder, so its second brace is the first character of the other name
      obtain ⟨-, inner⟩ := List.cons.inj split
      obtain ⟨-, inner⟩ := List.cons.inj inner
      obtain ⟨y, word, rfl⟩ := List.exists_cons_of_ne_nil hm.ne_nil
      obtain rfl : y :: word ++ [.char '\x7d', .char '\x7d'] = tail := inner
      obtain ⟨rfl, -⟩ := List.cons.inj second
      exact absurd (List.mem_append_left _ List.mem_cons_self) hm.open_notMem
  · exact found

/-- What a text starts with is not changed by a placeholder further on. -/
theorem placeholder?_append_written (ha : a ≠ []) (name b : Text) :
    placeholder? (a ++ (written name ++ b)) =
      (placeholder? a).map fun found => (found.1, found.2 ++ (written name ++ b)) := by
  cases h : placeholder? (a ++ (written name ++ b)) with
  | some found =>
    obtain ⟨other, after⟩ := found
    obtain ⟨hm, whole⟩ := placeholder?_eq_some_iff.mp h
    obtain ⟨rest, rfl, rfl⟩ := exists_of_append_written hm ha whole
    rw [placeholder?_written hm]
    rfl
  | none =>
    cases ha' : placeholder? a with
    | none => rfl
    | some found =>
      obtain ⟨other, rest⟩ := found
      obtain ⟨hm, rfl⟩ := placeholder?_eq_some_iff.mp ha'
      rw [List.append_assoc, placeholder?_written hm] at h
      cases h

/-! ## Rendering -/

theorem render_nil (c : Context) : render c [] = [] := by
  rw [render]
  rfl

theorem render_of_some (h : placeholder? t = some (name, after)) :
    render c t = substitute c name ++ render c after := by
  rw [render]
  split
  next found =>
    cases h.symm.trans found
    rfl
  next missing => cases h.symm.trans missing

theorem render_of_none {x : CodePoint} {rest : Text} (h : placeholder? (x :: rest) = none) :
    render c (x :: rest) = x :: render c rest := by
  rw [render]
  split
  next found => cases h.symm.trans found
  next => rfl

/-- **A placeholder is replaced wherever it stands**, and what is before it and after it is rendered apart from it. -/
theorem render_append_written (hn : IsName name) (c : Context) (a b : Text) :
    render c (a ++ (written name ++ b)) = render c a ++ (substitute c name ++ render c b) := by
  induction a using render.induct with
  | case1 a other after found ih =>
    have onward : placeholder? (a ++ (written name ++ b)) = some (other, after ++ (written name ++ b)) := by
      have ha : a ≠ [] := by
        rintro rfl
        cases found
      rw [placeholder?_append_written ha, found]
      rfl
    rw [render_of_some onward, ih, render_of_some found, List.append_assoc]
  | case2 _ => rw [List.nil_append, render_nil, List.nil_append, render_of_some (placeholder?_written hn b)]
  | case3 x rest missing ih =>
    have onward : placeholder? (x :: (rest ++ (written name ++ b))) = none := by
      rw [← List.cons_append, placeholder?_append_written (List.cons_ne_nil x rest), missing]
      rfl
    rw [List.cons_append, render_of_none onward, ih, render_of_none missing, List.cons_append]

/-- A text without placeholders is rendered as it is. -/
theorem Bare.render (h : Bare t) (c : Context) : render c t = t := by
  induction t with
  | nil => exact render_nil c
  | cons x rest ih =>
    have missing : placeholder? (x :: rest) = none := by
      refine Option.eq_none_iff_forall_ne_some.mpr ?_
      rintro ⟨name, after⟩ found
      obtain ⟨hn, whole⟩ := placeholder?_eq_some_iff.mp found
      exact h name hn ⟨[], after, whole.symm⟩
    rw [render_of_none missing, ih fun name hn hi => h name hn (hi.trans (List.suffix_cons x rest).isInfix)]

/-! ## The laws -/

/-- **Substitution of placeholders in a context**: the author's form of the value that goes by a name stands in the place of
every placeholder of this name, a placeholder whose name stands for nothing stays, and so does a text without
placeholders. -/
structure Substitutes (c : Context) (f : Text → Text) : Prop where
  known : ∀ a b name v, IsName name → c.get? name = some v → f (a ++ written name ++ b) = f a ++ v.shown ++ f b
  unknown : ∀ a b name, IsName name → c.get? name = none → f (a ++ written name ++ b) = f a ++ written name ++ f b
  bare : ∀ t, Bare t → f t = t

theorem substitutes_render (c : Context) : Substitutes c (render c) where
  known a b name v hn hv := by
    have value : substitute c name = v.shown := by rw [substitute, hv]
    rw [List.append_assoc, render_append_written hn, value, List.append_assoc]
  unknown a b name hn hv := by
    have value : substitute c name = written name := by rw [substitute, hv]
    rw [List.append_assoc, render_append_written hn, value, List.append_assoc]
  bare _ ht := ht.render c

/-- Two substitutions agree on every text: a text is without placeholders, or one of them splits it into two shorter texts. -/
theorem Substitutes.agree {f g : Text → Text} (hf : Substitutes c f) (hg : Substitutes c g) (t : Text) : f t = g t := by
  by_cases ht : ∃ name, IsName name ∧ written name <:+: t
  · obtain ⟨name, hn, a, b, whole⟩ := ht
    have shorter : a.length < t.length ∧ b.length < t.length := by
      have length := congrArg List.length whole
      simp only [written, List.length_append, List.length_cons] at length
      omega
    have before : f a = g a := hf.agree hg a
    have behind : f b = g b := hf.agree hg b
    rw [← whole]
    cases hv : c.get? name with
    | none => rw [hf.unknown a b name hn hv, hg.unknown a b name hn hv, before, behind]
    | some v => rw [hf.known a b name v hn hv, hg.known a b name v hn hv, before, behind]
  · have bare : Bare t := fun name hn inside => ht ⟨name, hn, inside⟩
    rw [hf.bare t bare, hg.bare t bare]
termination_by t.length
decreasing_by
  · exact shorter.1
  · exact shorter.2

/-- **Rendering is the substitution of placeholders**, and the only one. -/
theorem substitutes_iff {f : Text → Text} : Substitutes c f ↔ f = render c :=
  ⟨fun h => funext (h.agree (substitutes_render c)), fun h => h ▸ substitutes_render c⟩

end Colloquy.Template
