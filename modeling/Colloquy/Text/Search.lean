import Colloquy.Text.Basic

/-!
# Searching, joining and splitting texts
-/

namespace Colloquy.Text

/-- Whether `needle` occurs in the text as a run of consecutive characters. -/
def occursIn (needle : Text) : Text → Bool
  | [] => needle.isEmpty
  | c :: rest => needle.isPrefixOf (c :: rest) || occursIn needle rest

theorem occursIn_iff {needle text : Text} : occursIn needle text = true ↔ needle <:+: text := by
  induction text with
  | nil => simp [occursIn]
  | cons c rest ih =>
    simp only [occursIn, Bool.or_eq_true, List.isPrefixOf_iff_prefix, ih]
    exact List.infix_cons_iff.symm

/-- Texts one after another with `separator` between neighbours. -/
def joinWith (separator : Text) (parts : List Text) : Text := List.intercalate separator parts

/-- The parts of a text between separators: one more than there are separators. -/
def splitOn (separator : CodePoint) : Text → List Text
  | [] => [[]]
  | c :: rest =>
    if c = separator then [] :: splitOn separator rest
    else
      match splitOn separator rest with
      | [] => [[c]]
      | part :: parts => (c :: part) :: parts

end Colloquy.Text
