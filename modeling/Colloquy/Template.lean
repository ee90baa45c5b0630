import Colloquy.Context.Basic

/-!
# Message templates

A template is a text with placeholders `{{name}}`. Rendering puts the author's form of the named value in the place of
each placeholder; a placeholder whose name stands for nothing stays as it is written. Rendered values are not looked at
again.
-/

namespace Colloquy.Template

/-- The name of the placeholder that a text starts with, and the text after it. -/
def placeholder? (t : Text) : Option (Text × Text) :=
  match t with
  | .char '\x7b' :: .char '\x7b' :: rest =>
    match rest.takeWhile Text.isWordChar, rest.dropWhile Text.isWordChar with
    | [], _ => none
    | name, .char '\x7d' :: .char '\x7d' :: after => some (name, after)
    | _, _ => none
  | _ => none

/-- The written form of a placeholder. -/
def written (name : Text) : Text := .char '\x7b' :: .char '\x7b' :: (name ++ [.char '\x7d', .char '\x7d'])

theorem placeholder?_eq_some {t name after : Text} (h : placeholder? t = some (name, after)) :
    t = written name ++ after := by
  unfold placeholder? at h
  split at h
  · rename_i rest
    have whole : rest.takeWhile Text.isWordChar ++ rest.dropWhile Text.isWordChar = rest :=
      List.takeWhile_append_dropWhile
    split at h
    · simp at h
    · rename_i heq _
      simp only [Option.some.injEq, Prod.mk.injEq] at h
      obtain ⟨rfl, rfl⟩ := h
      rw [heq] at whole
      simp [written, whole]
    · simp at h
  · simp at h

/-- What a placeholder becomes in a context. -/
def substitute (c : Context) (name : Text) : Text :=
  match c.get? name with
  | some v => v.shown
  | none => written name

/-- A template rendered in a context. -/
def render (c : Context) (template : Text) : Text :=
  match _h : placeholder? template with
  | some (name, after) => substitute c name ++ render c after
  | none =>
    match template with
    | [] => []
    | x :: rest => x :: render c rest
termination_by template.length
decreasing_by
  · have := congrArg List.length (placeholder?_eq_some _h)
    simp [written] at this
    omega
  · simp

end Colloquy.Template
