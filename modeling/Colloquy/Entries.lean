/-!
# Ordered entries

A mapping from names to values that remembers the order in which names were first stored: storing under a name that is
there replaces the value in place and keeps the name as it is written, storing under a new name appends. Names need only
an equality test that is an equivalence, so two spellings may count as one name. Distinct names are not part of the
type; `set`, `erase` and `ofPairs` keep or establish them.
-/

namespace Colloquy

/-- Named values in insertion order. -/
abbrev Entries (κ α : Type) := List (κ × α)

namespace Entries

variable {κ α β : Type}

/-- The names, in order. -/
def keys (es : Entries κ α) : List κ := es.map Prod.fst

/-- The same names with other values. -/
def mapValues (f : α → β) (es : Entries κ α) : Entries κ β := es.map fun e => (e.1, f e.2)

theorem keys_mapValues (f : α → β) (es : Entries κ α) : (es.mapValues f).keys = es.keys := List.map_map ..

theorem mapValues_mapValues {γ : Type} (g : β → γ) (f : α → β) (es : Entries κ α) :
    (es.mapValues f).mapValues g = es.mapValues (g ∘ f) := List.map_map ..

variable [BEq κ]

/-- The value stored under a name. -/
def get? : Entries κ α → κ → Option α
  | [], _ => none
  | (k, v) :: es, name => if k == name then some v else get? es name

/-- Stores a value, in place when the name is there and at the end otherwise. -/
def set : Entries κ α → κ → α → Entries κ α
  | [], name, v => [(name, v)]
  | (k, w) :: es, name, v => if k == name then (k, v) :: es else (k, w) :: set es name v

/-- Removes a name. -/
def erase (es : Entries κ α) (name : κ) : Entries κ α := es.filter fun e => !(e.1 == name)

/-- Entries from pairs in order; of pairs with one name the first gives the place and the last the value. -/
def ofPairs (ps : List (κ × α)) : Entries κ α := ps.foldl (fun es p => es.set p.1 p.2) []

section

variable (es : Entries κ α) (name : κ) (v : α)

@[simp] theorem get?_nil : get? ([] : Entries κ α) name = none := rfl

theorem get?_eq_none_iff : es.get? name = none ↔ es.keys.any (· == name) = false := by
  induction es with
  | nil => simp [keys]
  | cons e es ih =>
    obtain ⟨k, w⟩ := e
    simp only [keys] at ih
    by_cases hk : k == name <;> simp [get?, keys, hk, ih]

theorem keys_set :
    (es.set name v).keys = if es.keys.any (· == name) then es.keys else es.keys ++ [name] := by
  induction es with
  | nil => rfl
  | cons e es ih =>
    obtain ⟨k, w⟩ := e
    simp only [keys] at ih
    by_cases hk : k == name
    · simp [set, keys, hk]
    · have ih' := congrArg (k :: ·) ih
      simp only [set, keys, hk, List.map_cons, List.any_cons, Bool.false_or, Bool.false_eq_true, if_false]
      split at ih' <;> rename_i hm <;> simp [hm, ih']

variable [EquivBEq κ] (other : κ)

theorem get?_set : (es.set name v).get? other = if name == other then some v else es.get? other := by
  induction es with
  | nil => rfl
  | cons e es ih =>
    obtain ⟨k, w⟩ := e
    by_cases hk : k == name
    · have hko : (k == other) = (name == other) := BEq.congr_left hk
      simp only [set, hk, if_true, get?, hko]
      by_cases hn : name == other <;> simp [hn]
    · simp only [set, hk, Bool.false_eq_true, if_false, get?, ih]
      by_cases hn : name == other
      · have hko : (k == name) = (k == other) := BEq.congr_right hn
        simp [hn, ← hko, hk]
      · simp [hn]

theorem get?_erase : (es.erase name).get? other = if name == other then none else es.get? other := by
  induction es with
  | nil => simp [erase]
  | cons e es ih =>
    obtain ⟨k, w⟩ := e
    simp only [erase] at ih
    by_cases hk : k == name
    · have hko : (k == other) = (name == other) := BEq.congr_left hk
      by_cases hn : name == other <;> simp_all [erase, get?]
    · by_cases hn : name == other
      · have hko : (k == name) = (k == other) := BEq.congr_right hn
        simp_all [erase, get?]
      · simp_all [erase, get?]

end

end Entries

end Colloquy
