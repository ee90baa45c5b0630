import Colloquy.Decimal.Binary
import Colloquy.Value.Text

/-!
# Keys

What a variable goes by. Authors name variables by texts, but a context that comes back as a list of pairs may use any
value that is neither a list nor an object. Numbers and truth values of one amount are one key, however they are
written; a text is no other key than itself.
-/

namespace Colloquy

inductive Key where
  | null
  | bool (b : Bool)
  | int (n : Int)
  | float (x : Float)
  | text (s : Text)
  deriving Inhabited

namespace Key

instance : Coe Text Key := ⟨text⟩

/-- What the spellings of one key have in common. -/
inductive Essence where
  | null
  | whole (n : Int)
  | real (parts : Decimal.Parts)
  | text (s : Text)
  deriving DecidableEq

def essence : Key → Essence
  | null => .null
  | bool b => .whole (if b then 1 else 0)
  | int n => .whole n
  | float x =>
    let parts := Decimal.Parts.ofFloat x
    match parts.whole? with
    | some n => .whole n
    | none => .real parts
  | text s => .text s

instance : BEq Key := ⟨fun a b => a.essence == b.essence⟩

theorem beq_eq (a b : Key) : (a == b) = (a.essence == b.essence) := rfl

instance : EquivBEq Key where
  rfl := by
    intro a
    rw [beq_eq, beq_iff_eq]
  symm := by
    intro a b h
    rw [beq_eq, beq_iff_eq] at h ⊢
    exact h.symm
  trans := by
    intro a b c hab hbc
    rw [beq_eq, beq_iff_eq] at hab hbc ⊢
    exact hab.trans hbc

theorem text_beq_text (s t : Text) : (text s == text t) = (s == t) := by
  rw [beq_eq, Bool.eq_iff_iff, beq_iff_eq, beq_iff_eq]
  exact ⟨fun h => Essence.text.inj h, fun h => congrArg Essence.text h⟩

/-- The key as a value. -/
def toValue : Key → Value
  | null => .null
  | bool b => .bool b
  | int n => .int n
  | float x => .float x
  | text s => .str s

/-- The text of a key. -/
def plain (k : Key) : Text := k.toValue.plain

/-- The key as it stands inside other values. -/
def quoted (k : Key) : Text := k.toValue.quoted

end Key

namespace Value

/-- The key that a value can stand as. -/
def key? : Value → Option Key
  | null => some .null
  | bool b => some (.bool b)
  | int n => some (.int n)
  | float x => some (.float x)
  | str s => some (.text s)
  | list _ | object _ => none

end Value

namespace Entries

/-- The entries of an object as entries of a mapping with keys of any sort. -/
def toKeyed {α : Type} (es : Entries Text α) : Entries Key α := es.map fun e => (.text e.1, e.2)

/-- The object that a mapping makes when every key is replaced by its text; of keys with one text the first gives the
place and the last the value. -/
def toObject {α : Type} (es : Entries Key α) : Entries Text α := ofPairs (es.map fun e => (e.1.plain, e.2))

end Entries

end Colloquy
