import Colloquy.Json.Reader
import Mathlib.Data.List.TakeWhile

/-!
# Digits as JSON text

A text of digits that does not begin with a zero is the JSON text of an integer: reading it gives that integer, or the
error that it has too many digits (`read_digits`, `read_digits_of_limit_lt`). Inside a longer text the same holds of digits
before a sign that ends a value (`readScalar_numeral`), and of digits after a minus sign (`readScalar_minus`).
-/

namespace Colloquy.Json

variable {c : CodePoint} {ds rest : Text}

theorem ne_of_isDigit (hc : c.isDigit = true) (other : Char) (ho : other.isDigit = false) : c ≠ .char other := by
  rintro rfl
  simp [CodePoint.isDigit, ho] at hc

theorem isSpace_of_isDigit (hc : c.isDigit = true) : isSpace c = false := by
  simp [isSpace, ne_of_isDigit hc ' ' (by decide), ne_of_isDigit hc '\t' (by decide),
    ne_of_isDigit hc '\n' (by decide), ne_of_isDigit hc '\r' (by decide)]

theorem skipSpace_cons (hc : isSpace c = false) (rest : Text) : skipSpace (c :: rest) = c :: rest :=
  List.dropWhile_cons_of_neg (by rw [hc]; decide)

/-! ## Constants -/

/-- The first two code points of a constant are no digits. -/
theorem exists_of_mem_constants {word : Text} {v : Value} (h : (word, v) ∈ constants) : ∃ first second more,
    word = .char first :: .char second :: more ∧ first.isDigit = false ∧ second.isDigit = false := by
  simp only [constants, List.mem_cons, Prod.mk.injEq, List.not_mem_nil, or_false] at h
  rcases h with ⟨rfl, -⟩ | ⟨rfl, -⟩ | ⟨rfl, -⟩ | ⟨rfl, -⟩ | ⟨rfl, -⟩ | ⟨rfl, -⟩
  · exact ⟨'n', 'u', _, rfl, by decide, by decide⟩
  · exact ⟨'t', 'r', _, rfl, by decide, by decide⟩
  · exact ⟨'f', 'a', _, rfl, by decide, by decide⟩
  · exact ⟨'N', 'a', _, rfl, by decide, by decide⟩
  · exact ⟨'I', 'n', _, rfl, by decide, by decide⟩
  · exact ⟨'-', 'I', _, rfl, by decide, by decide⟩

/-- No constant begins with a digit. -/
theorem find?_constants_of_isDigit (hc : c.isDigit = true) :
    constants.find? (·.1.isPrefixOf (c :: rest)) = none := by
  rw [List.find?_eq_none]
  rintro ⟨word, v⟩ hm hword
  obtain ⟨first, second, more, rfl, hfirst, -⟩ := exists_of_mem_constants hm
  obtain ⟨hhead, -⟩ := List.cons_prefix_cons.mp (List.isPrefixOf_iff_prefix.mp hword)
  exact ne_of_isDigit hc _ hfirst hhead.symm

/-- No constant begins with any code point and a digit. -/
theorem find?_constants_of_isDigit_second (hc : c.isDigit = true) (before : CodePoint) :
    constants.find? (·.1.isPrefixOf (before :: c :: rest)) = none := by
  rw [List.find?_eq_none]
  rintro ⟨word, v⟩ hm hword
  obtain ⟨first, second, more, rfl, -, hsecond⟩ := exists_of_mem_constants hm
  obtain ⟨-, htail⟩ := List.cons_prefix_cons.mp (List.isPrefixOf_iff_prefix.mp hword)
  obtain ⟨hhead, -⟩ := List.cons_prefix_cons.mp htail
  exact ne_of_isDigit hc _ hsecond hhead.symm

/-! ## Numerals -/

/-- The digits of a number: a zero alone, or digits that do not begin with a zero. -/
inductive Numeral : Text → Prop
  | zero : Numeral [.char '0']
  | digits {c : CodePoint} {ds : Text} : c.isDigit = true → c ≠ .char '0' → (∀ d ∈ ds, d.isDigit = true) →
      Numeral (c :: ds)

theorem Numeral.exists_cons (h : Numeral ds) : ∃ c more, ds = c :: more ∧ c.isDigit = true := by
  cases h with
  | zero => exact ⟨_, _, rfl, rfl⟩
  | digits hc => exact ⟨_, _, rfl, hc⟩

/-- What may follow a value in a text: nothing, or a sign that ends it. -/
def Delimits (rest : Text) : Prop := ∀ c, rest.head? = some c → c = .char ',' ∨ c = .char ']' ∨ c = .char '\x7d'

theorem delimits_nil : Delimits [] := nofun

theorem delimits_cons (h : c = .char ',' ∨ c = .char ']' ∨ c = .char '\x7d') (rest : Text) : Delimits (c :: rest) := by
  intro d hd
  cases hd
  exact h

/-- No digit, point or exponent delimits a value. -/
theorem Delimits.stops (h : Delimits rest) : rest.takeWhile CodePoint.isDigit = [] ∧
    rest.dropWhile CodePoint.isDigit = rest ∧ readFraction rest = ([], rest) ∧ readExponent rest = none := by
  cases rest with
  | nil => exact ⟨rfl, rfl, rfl, rfl⟩
  | cons c rest => rcases h c rfl with rfl | rfl | rfl <;> exact ⟨rfl, rfl, rfl, rfl⟩

/-- A number without a fraction and an exponent is the integer of its digits. -/
theorem finishNumber_of_delimits (h : Delimits rest) (l : Limits) (negative : Bool) (digits : Text) :
    finishNumber l negative digits rest = (integer l negative digits).map fun v => (v, rest) := by
  obtain ⟨-, -, fraction, exponent⟩ := h.stops
  unfold finishNumber
  rw [fraction]
  dsimp only
  rw [exponent]
  cases integer l negative digits <;> rfl

theorem readUnsigned_numeral (hds : Numeral ds) (h : Delimits rest) (l : Limits) (negative : Bool) :
    readUnsigned l negative (ds ++ rest) = (integer l negative ds).map fun v => (v, rest) := by
  cases hds with
  | zero => rw [List.singleton_append, readUnsigned, if_pos rfl, finishNumber_of_delimits h]
  | @digits c ds hc h0 hds =>
    obtain ⟨taken, dropped, -⟩ := h.stops
    rw [List.cons_append, readUnsigned, if_neg h0, if_pos hc, List.takeWhile_append_of_pos hds,
      List.dropWhile_append_of_pos hds, taken, dropped, List.append_nil, finishNumber_of_delimits h]

/-- **Digits are read as their integer**, if there are not too many of them. -/
theorem readScalar_numeral (hds : Numeral ds) (h : Delimits rest) (l : Limits) :
    readScalar l (ds ++ rest) = (integer l false ds).map fun v => (v, rest) := by
  have unsigned := readUnsigned_numeral hds h l false
  obtain ⟨c, more, rfl, hc⟩ := hds.exists_cons
  rw [List.cons_append] at unsigned ⊢
  have number : readNumber l (c :: (more ++ rest)) = readUnsigned l false (c :: (more ++ rest)) := by
    unfold readNumber
    split
    next h => exact absurd (List.cons.inj h).1 (ne_of_isDigit hc _ (by decide))
    next => rfl
  unfold readScalar
  rw [find?_constants_of_isDigit hc]
  dsimp only
  rw [number, unsigned]

/-- Digits after a minus sign are read as the negative integer. -/
theorem readScalar_minus (hds : Numeral ds) (h : Delimits rest) (l : Limits) :
    readScalar l (.char '-' :: (ds ++ rest)) = (integer l true ds).map fun v => (v, rest) := by
  have unsigned := readUnsigned_numeral hds h l true
  obtain ⟨c, more, rfl, hc⟩ := hds.exists_cons
  rw [List.cons_append] at unsigned ⊢
  unfold readScalar
  rw [find?_constants_of_isDigit_second hc]
  exact unsigned

/-! ## Digits alone -/

/-- **Reading digits gives their integer**, if there are not too many of them. -/
theorem read_digits (l : Limits) (hc : c.isDigit = true) (h0 : c ≠ .char '0') (hrest : ∀ d ∈ rest, d.isDigit = true) :
    read l (c :: rest) = integer l false (c :: rest) := by
  have scalar := readScalar_numeral (.digits hc h0 hrest) delimits_nil l
  rw [List.append_nil] at scalar
  unfold read
  rw [skipSpace_cons (isSpace_of_isDigit hc), readValue, if_neg (ne_of_isDigit hc _ (by decide)),
    if_neg (ne_of_isDigit hc _ (by decide)), if_neg (ne_of_isDigit hc _ (by decide)), scalar]
  cases integer l false (c :: rest) <;> rfl

/-- More digits than a limit allows are an error. -/
theorem read_digits_of_limit_lt (l : Limits) {limit : Nat} (hl : l.digits = some limit) (hc : c.isDigit = true)
    (h0 : c ≠ .char '0') (hrest : ∀ d ∈ rest, d.isDigit = true) (hlimit : limit < (c :: rest).length) :
    read l (c :: rest) = .error (.tooManyDigits limit (c :: rest).length) := by
  rw [read_digits l hc h0 hrest, integer, hl]
  exact if_pos hlimit

end Colloquy.Json
