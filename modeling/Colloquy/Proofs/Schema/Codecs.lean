import Colloquy.Schema

/-!
# Codecs give back what they write

A codec is lawful when what it writes is read back (`Codec.Lawful`). Lists and tables of lawful codecs are lawful, and so are
choices among values with different names; a field comes back from its written value, or from its absence if that value is
null and so was left out (`FieldSpec.Returns`).
-/

namespace Colloquy.Schema

variable {α β : Type}

/-! ## Readings of several values -/

namespace Reading

/-- A function and an argument are both read when they are read together. -/
theorem seq_eq_value {f : Reading (α → β)} {x : Reading α} {b : β} (h : f <*> x = .value b) :
    ∃ g a, f = .value g ∧ x = .value a ∧ g a = b := by
  cases f with
  | issues => cases x <;> cases h
  | value g =>
    cases x with
    | issues => cases h
    | value a =>
      cases h
      exact ⟨g, a, rfl, rfl, rfl⟩

theorem map_eq_value {f : α → β} {x : Reading α} {b : β} (h : f <$> x = .value b) : ∃ a, x = .value a ∧ f a = b := by
  cases x with
  | issues => cases h
  | value a =>
    cases h
    exact ⟨a, rfl, rfl⟩

/-- Whatever is read satisfies a predicate. -/
def All (P : α → Prop) : Reading α → Prop
  | value a => P a
  | issues _ => True

theorem All.of_eq_value {P : α → Prop} {x : Reading α} {a : α} (h : x.All P) (ha : x = .value a) : P a := by
  subst ha
  exact h

theorem all_seq {P : β → Prop} {f : Reading (α → β)} {x : Reading α} (h : f.All fun g => ∀ a, x = .value a → P (g a)) :
    (f <*> x).All P := by
  cases f with
  | issues => cases x <;> trivial
  | value g =>
    cases x with
    | issues => trivial
    | value a => exact h a rfl

theorem all_seq_value {P : β → Prop} {f : Reading (α → β)} {a : α} (h : f.All fun g => P (g a)) :
    (f <*> .value a).All P := by
  cases f with
  | issues => trivial
  | value g => exact h

theorem all_map {P : β → Prop} {f : α → β} (h : ∀ a, P (f a)) (x : Reading α) : (f <$> x).All P := by
  cases x with
  | issues => trivial
  | value a => exact h a

theorem under_eq_value {key : Text} {x : Reading α} {a : α} : x.under key = .value a ↔ x = .value a := by
  cases x <;> simp [under]

/-- Elements that are read back one by one are read back as a list. -/
theorem sequence_map {read : Value → Reading β} {write : α → Value} {back : α → β} {as : List α}
    (h : ∀ a ∈ as, read (write a) = .value (back a)) (i : Nat) : sequence read i (as.map write) = .value (as.map back) := by
  induction as generalizing i with
  | nil => rfl
  | cons a as ih =>
    rw [List.map_cons, sequence, h a List.mem_cons_self, ih (fun a hm => h a (List.mem_cons_of_mem _ hm))]
    rfl

/-- What is read from a list is read from its elements. -/
theorem exists_of_sequence {read : Value → Reading α} {i : Nat} {items : List Value} {as : List α}
    (h : sequence read i items = .value as) : ∀ a ∈ as, ∃ v ∈ items, read v = .value a := by
  induction items generalizing i as with
  | nil =>
    cases h
    exact fun a hm => nomatch hm
  | cons v items ih =>
    obtain ⟨f, tail, hf, ht, rfl⟩ := seq_eq_value h
    obtain ⟨first, hv, rfl⟩ := map_eq_value hf
    intro a hm
    rcases List.mem_cons.mp hm with rfl | hm
    · exact ⟨v, List.mem_cons_self, under_eq_value.mp hv⟩
    · obtain ⟨w, hw, hread⟩ := ih ht a hm
      exact ⟨w, List.mem_cons_of_mem v hw, hread⟩

/-- Entries that are read back one by one are read back as a table. -/
theorem entries_mapValues {read : Value → Reading α} {write : α → Value} (h : ∀ a, read (write a) = .value a)
    (es : Entries Text α) : entries read (es.mapValues write) = .value es := by
  induction es with
  | nil => rfl
  | cons e es ih =>
    have rest : entries read (es.map fun e => (e.1, write e.2)) = .value es := ih
    rw [Entries.mapValues, List.map_cons, entries, h, rest]
    rfl

end Reading

/-! ## Lawful codecs -/

namespace Codec

/-- What is written is read back, and nothing is written as null. -/
structure Lawful (c : Codec α) : Prop where
  read_write : ∀ a, c.read (c.write a) = .value a
  isNull_write : ∀ a, (c.write a).isNull = false

theorem lawful_text : text.Lawful := ⟨fun _ => rfl, fun _ => rfl⟩

theorem lawful_flag : flag.Lawful := ⟨fun _ => rfl, fun _ => rfl⟩

theorem lawful_whole : whole.Lawful := ⟨fun _ => rfl, fun _ => rfl⟩

theorem lawful_real : real.Lawful := ⟨fun _ => rfl, fun _ => rfl⟩

/-- A choice is lawful when each value is the first one under its name. -/
theorem lawful_choice {all : List α} {name : α → Text} (unicode : ∀ a, (name a).isUnicode = true)
    (first : ∀ a, (all.find? fun b => name b == name a) = some a) : (choice all name).Lawful := by
  refine ⟨fun a => ?_, fun _ => rfl⟩
  show Reading.ofCharacters (choice.named all name) (name a) = _
  rw [Reading.ofCharacters, if_pos (unicode a), choice.named, first a]

theorem Lawful.list {c : Codec α} (h : c.Lawful) : c.list.Lawful := by
  refine ⟨fun as => ?_, fun _ => rfl⟩
  have back := Reading.sequence_map (fun a (_ : a ∈ as) => h.read_write a) 0
  rwa [List.map_id'] at back

theorem Lawful.table {c : Codec α} (h : c.Lawful) : c.table.Lawful :=
  ⟨fun es => Reading.entries_mapValues h.read_write es, fun _ => rfl⟩

end Codec

/-! ## Fields that come back -/

namespace FieldSpec

/-- What was written of a value comes back as another: it is read so, or it is null and the field is so when absent. -/
def Returns (f : FieldSpec α) (a b : α) : Prop :=
  if (f.codec.write a).isNull then f.absent = some b else f.codec.read (f.codec.write a) = .value b

theorem returns_of_lawful {f : FieldSpec α} (h : f.codec.Lawful) (a : α) : f.Returns a a := by
  rw [Returns, if_neg (by rw [h.isNull_write]; decide)]
  exact h.read_write a

theorem returns_optional {c : Codec α} (h : c.Lawful) (key plainKey : Text) (a : Option α) :
    (optional key plainKey c).Returns a a := by
  cases a with
  | none => rfl
  | some a =>
    have present : ((optional key plainKey c).codec.write (some a)).isNull = false := h.isNull_write a
    have read : c.optional.read (c.write a) = (c.read (c.write a)).map some := by
      have value := h.isNull_write a
      cases hw : c.write a with
      | null =>
        rw [hw] at value
        cases value
      | _ => rfl
    rw [Returns, if_neg (by rw [present]; decide)]
    show c.optional.read (c.write a) = _
    rw [read, h.read_write]
    rfl

end FieldSpec

end Colloquy.Schema
