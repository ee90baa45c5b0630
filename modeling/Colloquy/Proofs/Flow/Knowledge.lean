import Colloquy.Flow.Knowledge
import Colloquy.Proofs.Text.Lowering

/-!
# The look-up finds what contains the query

Query and texts are put into small letters separately, and each as a whole. So an item that contains the query is found, it
or one before it, wherever the query keeps its form; and this can be relied on for exactly the queries without a capital sigma
at an open end (`lookup_found`).
-/

namespace Colloquy

namespace KnowledgeItem

/-- The texts of an item in which a query is looked for. -/
def texts (item : KnowledgeItem) : List Text := item.summary.toList ++ item.keywords

/-- The item contains the query as it is written. -/
def Holds (item : KnowledgeItem) (query : Text) : Prop := ∃ t ∈ item.texts, query <:+: t

/-- The item contains the query, at a place where its sigmas have the forms that they have in the query alone. -/
def HoldsInForm (item : KnowledgeItem) (query : Text) : Prop :=
  ∃ before after, before ++ query ++ after ∈ item.texts ∧ Text.KeepsForm query before after

/-- An item with nothing but a summary. -/
def ofSummary (summary : Text) : KnowledgeItem := ⟨"", "", none, some summary, [], []⟩

theorem Holds.inForm {item : KnowledgeItem} {query : Text} (h : item.Holds query) (closed : ¬Text.Exposed query) :
    item.HoldsInForm query := by
  obtain ⟨_, mem, before, after, rfl⟩ := h
  exact ⟨before, after, mem, Text.keepsForm_of_not_exposed closed before after⟩

end KnowledgeItem

namespace Knowledge

/-- The look-up gives an item of the list, from this place or one before it. -/
def FoundUpTo (items : List KnowledgeItem) (query : Text) (k : Nat) : Prop :=
  ∃ j found, j ≤ k ∧ items[j]? = some found ∧ lookup items query = some found

theorem answers_iff {needle : Text} (hn : needle ≠ []) (item : KnowledgeItem) :
    answers needle item = true ↔ ∃ t ∈ item.texts, needle <:+: Text.lower t := by
  have empty : ¬needle <:+: Text.lower "" := fun h => hn (List.infix_nil.mp h)
  unfold answers KnowledgeItem.texts
  cases item.summary with
  | none => simp [Text.occursIn_iff, empty]
  | some summary => simp [Text.occursIn_iff]

theorem answers_of_holdsInForm {item : KnowledgeItem} {query : Text} (hq : Text.lower query ≠ [])
    (h : item.HoldsInForm query) : answers (Text.lower query) item = true := by
  obtain ⟨before, after, mem, keeps⟩ := h
  exact (answers_iff hq item).mpr ⟨_, mem, keeps.lower_occurs⟩

theorem lookup_of_ne_nil {query : Text} (hq : Text.lower query ≠ []) (items : List KnowledgeItem) :
    lookup items query = items.find? (answers (Text.lower query)) :=
  if_neg fun h => hq (List.isEmpty_iff.mp h)

/-- What the look-up gives is the first item of the list that answers. -/
theorem foundUpTo_iff {query : Text} (hq : Text.lower query ≠ []) {items : List KnowledgeItem} {k : Nat} :
    FoundUpTo items query k ↔ ∃ j item, j ≤ k ∧ items[j]? = some item ∧ answers (Text.lower query) item = true := by
  unfold FoundUpTo
  rw [lookup_of_ne_nil hq]
  constructor
  · rintro ⟨j, found, le, here, first⟩
    exact ⟨j, found, le, here, List.find?_some first⟩
  · rintro ⟨j, item, le, here, answer⟩
    obtain ⟨found, first⟩ := Option.isSome_iff_exists.mp
      (List.find?_isSome.mpr ⟨item, List.mem_of_getElem? here, answer⟩)
    obtain ⟨-, i, inside, there, earlier⟩ := List.find?_eq_some_iff_getElem.mp first
    have reached : i ≤ j := by
      refine Nat.le_of_not_lt fun before => ?_
      obtain ⟨_, same⟩ := List.getElem?_eq_some_iff.mp here
      have silent := earlier j before
      rw [same, answer] at silent
      cases silent
    exact ⟨i, found, Nat.le_trans reached le, there ▸ List.getElem?_eq_getElem inside, first⟩

/-- **A query that is written in an item is found.** If an item contains the query where it keeps its form, the look-up gives
this item or one before it. That every item that contains the query counts so holds for exactly the queries without a sigma
at an open end. -/
theorem lookup_found {query : Text} (hq : query ≠ []) :
    (∀ items k item, items[k]? = some item → item.HoldsInForm query → FoundUpTo items query k) ∧
      ((∀ items k item, items[k]? = some item → item.Holds query → FoundUpTo items query k) ↔ ¬Text.Exposed query) := by
  have hq' : Text.lower query ≠ [] := fun h => hq (Text.lower_eq_nil_iff.mp h)
  have inForm : ∀ items k (item : KnowledgeItem), items[k]? = some item → item.HoldsInForm query →
      FoundUpTo items query k := by
    intro items k item here holds
    exact (foundUpTo_iff hq').mpr ⟨k, item, Nat.le_refl k, here, answers_of_holdsInForm hq' holds⟩
  refine ⟨inForm, ?_, fun closed items k item here holds => inForm items k item here (holds.inForm closed)⟩
  intro all
  refine Text.lower_infix_iff.mp fun before after => ?_
  have found := all [.ofSummary (before ++ query ++ after)] 0 _ rfl ⟨_, List.mem_singleton_self _, before, after, rfl⟩
  obtain ⟨j, item, le, here, answer⟩ := (foundUpTo_iff hq').mp found
  obtain rfl := Nat.le_zero.mp le
  obtain rfl := Option.some.inj here
  obtain ⟨t, mem, occurs⟩ := (answers_iff hq' _).mp answer
  rwa [List.mem_singleton.mp mem] at occurs

/-- The price list is found under the word that it begins with. -/
theorem lookup_found_prices : FoundUpTo [.ofSummary "Opening hours", .ofSummary "Prices of 2024"] "Prices" 1 := by
  have closed : ¬Text.Exposed "Prices" := fun exposed => absurd exposed.mem (by decide)
  have holds : (KnowledgeItem.ofSummary "Prices of 2024").Holds "Prices" :=
    ⟨_, List.mem_singleton_self _, "", " of 2024", by decide +kernel⟩
  exact (lookup_found (by decide)).2.mpr closed _ 1 _ rfl holds

/-- **A query that is written in an item may be missed.** The sigma ends the query, but not the word of the item. -/
theorem lookup_misses : (KnowledgeItem.ofSummary "ΟΔΟΣΗΜΑΝΣΗ").Holds "ΟΔΟΣ" ∧
    (lookup [.ofSummary "ΟΔΟΣΗΜΑΝΣΗ"] "ΟΔΟΣ").isNone = true :=
  ⟨⟨_, List.mem_singleton_self _, "", "ΗΜΑΝΣΗ", by decide +kernel⟩, by decide +kernel⟩

end Knowledge

end Colloquy
