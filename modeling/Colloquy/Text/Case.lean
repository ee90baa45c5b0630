import Colloquy.Text.CaseTable
import Colloquy.Text.Class

/-!
# Case mapping

Full lower-case and upper-case forms of a text. Every character is mapped by its table, with two exceptions on the way
down: the dotted capital I becomes an i and a combining dot, and a capital sigma at the end of a word becomes a final
sigma. A sigma ends a word when the nearest character before it that is not skipped over is a cased letter and the
nearest one after it is not.
-/

namespace Colloquy.Text

/-- The code point that an ascending table of runs maps `n` to, and `n` itself when no run holds it. -/
def CaseRun.map : List CaseRun → Nat → Nat
  | [], n => n
  | run :: rest, n =>
    if n < run.first then n
    else if n ≤ run.last && (n - run.first) % run.step == 0 then run.target + (n - run.first)
    else CaseRun.map rest n

/-- The lower-case form of a character that has one of a single character. -/
def lowerChar (c : CodePoint) : CodePoint := .ofNat (CaseRun.map CaseTable.lower c.toNat)

/-- Whether the nearest character that case mapping does not skip over is a cased letter. -/
def nextIsCased (t : Text) : Bool :=
  match t.dropWhile isCaseIgnorable with
  | [] => false
  | c :: _ => isCased c

/-- Lower-case form of the rest of a text; `before` holds the characters already passed, the nearest first. -/
def lowerFrom (before : Text) : Text → Text
  | [] => []
  | c :: rest =>
    let mapped :=
      if c = .char 'Σ' then [.char (if nextIsCased before && !nextIsCased rest then 'ς' else 'σ')]
      else if c = .char 'İ' then [.char 'i', .ofNat 0x307]
      else [lowerChar c]
    mapped ++ lowerFrom (c :: before) rest

/-- The lower-case form of a text. -/
def lower (t : Text) : Text := lowerFrom [] t

/-- The upper-case form of a character, which may have up to three characters. -/
def upperChar (c : CodePoint) : Text :=
  match CaseTable.upperExpanding.lookup c.toNat with
  | some codes => codes.map .ofNat
  | none => [.ofNat (CaseRun.map CaseTable.upper c.toNat)]

/-- The upper-case form of a text. -/
def upper (t : Text) : Text := t.flatMap upperChar

/-- A label in the form in which labels are compared: trimmed, then lower-cased. -/
def fold (t : Text) : Text := lower (trim t)

end Colloquy.Text
