import Colloquy.Flow.Routing

/-!
# The rule of routing

The rule, said of the edges that leave a node and without a search (`Routing.Ruled`): the first edge of the type that is
preferred; if there is none, the first default edge; if there is none either, the first edge. Routing finds what the rule says
and nothing else (`Routing.resolve_eq_iff`), so what follows from its choice is read off the rule and not off the searches.
-/

namespace Colloquy

/-! ## Types of edges -/

namespace Edge

/-- The edge is typed for the outcome of this name. -/
def HasType (e : Edge) (name : Text) : Prop := ∃ type, e.edgeType = some type ∧ type.name = name

/-- The edge is typed, and for another outcome than the default one. -/
def TypedOtherwise (e : Edge) : Prop := ∃ type, e.edgeType = some type ∧ type ≠ .default

variable {e : Edge}

theorem typedOtherwise_iff : e.TypedOtherwise ↔ e.isDefault = false := by
  rw [isDefault_eq_false_iff, TypedOtherwise]
  cases e.edgeType <;> simp

theorem not_typedOtherwise_iff : ¬e.TypedOtherwise ↔ e.edgeType = none ∨ e.edgeType = some .default := by
  rw [typedOtherwise_iff, Bool.not_eq_false, isDefault_eq_true_iff]

/-- No outcome has the empty name. -/
theorem not_hasType_nil : ¬e.HasType [] := fun ⟨type, _, h⟩ => type.name_ne_nil h

end Edge

namespace Routing

variable {edges leaving : List Edge} {source : Text} {preferred : Option Text} {e : Edge} {way : Option Edge}

/-! ## The rule -/

/-- The first of some edges with a property. -/
def FirstWith (P : Edge → Prop) (leaving : List Edge) (e : Edge) : Prop :=
  ∃ before behind, leaving = before ++ e :: behind ∧ P e ∧ ∀ earlier ∈ before, ¬P earlier

/-- None of some edges has the type that is preferred, if one is. -/
def Lacks (leaving : List Edge) (preferred : Option Text) : Prop :=
  ∀ name, preferred = some name → ∀ e ∈ leaving, ¬e.HasType name

/-- **The rule of routing** among the edges that leave a node. -/
inductive Ruled (leaving : List Edge) (preferred : Option Text) : Option Edge → Prop
  | preferred {name : Text} {e : Edge} : preferred = some name → FirstWith (·.HasType name) leaving e →
      Ruled leaving preferred (some e)
  | default {e : Edge} : Lacks leaving preferred →
      FirstWith (fun e => e.edgeType = none ∨ e.edgeType = some .default) leaving e → Ruled leaving preferred (some e)
  | first {e : Edge} {rest : List Edge} : Lacks leaving preferred → (∀ other ∈ leaving, other.TypedOtherwise) →
      leaving = e :: rest → Ruled leaving preferred (some e)
  | nothing : leaving = [] → Ruled leaving preferred none

section

variable {P : Edge → Prop}

theorem FirstWith.mem (h : FirstWith P leaving e) : e ∈ leaving := by
  obtain ⟨before, behind, rfl, -⟩ := h
  exact List.mem_append_right _ List.mem_cons_self

theorem FirstWith.holds (h : FirstWith P leaving e) : P e := by
  obtain ⟨_, _, -, holds, -⟩ := h
  exact holds

/-- What comes behind does not matter to the first. -/
theorem FirstWith.append (h : FirstWith P leaving e) (more : List Edge) : FirstWith P (leaving ++ more) e := by
  obtain ⟨before, behind, rfl, holds, earlier⟩ := h
  exact ⟨before, behind ++ more, by simp, holds, earlier⟩

/-- An edge is the first with a property that no edge before it has. -/
theorem firstWith_concat (holds : P e) (earlier : ∀ other ∈ leaving, ¬P other) : FirstWith P (leaving ++ [e]) e :=
  ⟨leaving, [], rfl, holds, earlier⟩

/-- A search finds the first edge with what it looks for. -/
theorem find?_eq_some_iff_firstWith {p : Edge → Bool} (h : ∀ e, p e = true ↔ P e) :
    leaving.find? p = some e ↔ FirstWith P leaving e := by
  rw [List.find?_eq_some_iff_append, FirstWith]
  simp only [← h, Bool.not_eq_true, Bool.not_eq_true']
  constructor
  · rintro ⟨holds, before, behind, split, earlier⟩
    exact ⟨before, behind, split, holds, earlier⟩
  · rintro ⟨before, behind, split, holds, earlier⟩
    exact ⟨holds, before, behind, split, earlier⟩

end

theorem Ruled.mem (h : Ruled leaving preferred (some e)) : e ∈ leaving := by
  cases h with
  | preferred _ first | default _ first => exact first.mem
  | first _ _ leads => exact leads ▸ List.mem_cons_self

/-! ## Routing finds what the rule says -/

theorem hasType_iff (name : Text) (e : Edge) :
    (e.edgeType.any fun type => type.name == name) = true ↔ e.HasType name := by
  unfold Edge.HasType
  cases e.edgeType <;> simp

theorem findByType_eq_some_iff {name : Text} :
    findByType edges source name = some e ↔ FirstWith (·.HasType name) (outgoing edges source) e :=
  find?_eq_some_iff_firstWith (hasType_iff name)

theorem findByType_eq_none_iff {name : Text} :
    findByType edges source name = none ↔ ∀ e ∈ outgoing edges source, ¬e.HasType name := by
  simp only [findByType, List.find?_eq_none, hasType_iff]

theorem bind_findByType_eq_none_iff :
    preferred.bind (findByType edges source) = none ↔ Lacks (outgoing edges source) preferred := by
  simp only [Option.bind_eq_none_iff, findByType_eq_none_iff, Lacks]

theorem findDefault_eq_some_iff : findDefault edges source = some e ↔
    FirstWith (fun e => e.edgeType = none ∨ e.edgeType = some .default) (outgoing edges source) e :=
  find?_eq_some_iff_firstWith fun _ => Edge.isDefault_eq_true_iff

theorem findDefault_eq_none_iff :
    findDefault edges source = none ↔ ∀ e ∈ outgoing edges source, e.isDefault = false := by
  simp only [findDefault, List.find?_eq_none, Bool.not_eq_true]

/-- The empty name prefers nothing, as no edge has it. -/
theorem resolve_eq : resolve edges source preferred =
    ((preferred.bind (findByType edges source)).or (findDefault edges source)).or (outgoing edges source).head? := by
  have typed : (preferred.bind fun name => if name.isEmpty then none else findByType edges source name) =
      preferred.bind (findByType edges source) := by
    congr 1
    funext name
    split
    next empty =>
      rw [List.isEmpty_iff.mp empty]
      exact (findByType_eq_none_iff.mpr fun _ _ => Edge.not_hasType_nil).symm
    next => rfl
  rw [resolve, typed]

theorem ruled_resolve (edges : List Edge) (source : Text) (preferred : Option Text) :
    Ruled (outgoing edges source) preferred (resolve edges source preferred) := by
  rw [resolve_eq]
  cases typed : preferred.bind (findByType edges source) with
  | some e =>
    obtain ⟨name, given, found⟩ := Option.bind_eq_some_iff.mp typed
    exact .preferred given (findByType_eq_some_iff.mp found)
  | none =>
    have lacks := bind_findByType_eq_none_iff.mp typed
    cases default : findDefault edges source with
    | some e => exact .default lacks (findDefault_eq_some_iff.mp default)
    | none =>
      have otherwise : ∀ e ∈ outgoing edges source, e.TypedOtherwise :=
        fun e he => Edge.typedOtherwise_iff.mpr (findDefault_eq_none_iff.mp default e he)
      cases leaving : outgoing edges source with
      | nil => exact .nothing rfl
      | cons e rest => exact .first (leaving ▸ lacks) (leaving ▸ otherwise) rfl

/-- **Routing finds what the rule says** among the edges that leave the node, and nothing else. -/
theorem resolve_eq_iff : resolve edges source preferred = way ↔ Ruled (outgoing edges source) preferred way := by
  refine ⟨fun h => h ▸ ruled_resolve edges source preferred, fun h => ?_⟩
  rw [resolve_eq]
  cases h with
  | preferred given first =>
    rw [given, Option.bind_some, findByType_eq_some_iff.mpr first]
    rfl
  | default lacks first =>
    rw [bind_findByType_eq_none_iff.mpr lacks, findDefault_eq_some_iff.mpr first]
    rfl
  | first lacks otherwise leads =>
    have default : findDefault edges source = none :=
      findDefault_eq_none_iff.mpr fun e he => Edge.typedOtherwise_iff.mp (otherwise e he)
    rw [bind_findByType_eq_none_iff.mpr lacks, default, leads]
    rfl
  | nothing empty =>
    rw [← resolve_eq]
    exact (resolve_eq_none_iff edges source preferred).mpr empty

end Routing

end Colloquy
