import Colloquy.Flow.Routing
import Colloquy.Proofs.Text.Folding

/-!
# The way of a label

An exact decision goes along the first edge whose folded condition is the folded label, else along a default edge
(`exactWay`). Routing finds this edge whether the label is folded already or not (`findByCondition_eq`), and it finds one for
every label that the edges offer (`exists_firstLabelled`).
-/

namespace Colloquy

/-- A condition that is not blank is not blank once it is folded. -/
theorem Edge.hasCondition_eq_true_iff {e : Edge} : e.hasCondition = true ↔ e.foldedCondition ≠ [] := by
  simp [hasCondition, foldedCondition, Text.fold, Text.lower_eq_nil_iff]

namespace Routing

variable (edges : List Edge) (source : Text)

/-- The first of the edges that leave a node without a type, or typed as default. -/
def firstDefault : Option Edge :=
  (outgoing edges source).find? fun e => e.edgeType = none ∨ e.edgeType = some .default

/-- The first of the edges that leave a node with a condition that is not blank, and folded is this one. -/
def firstLabelled (folded : Text) : Option Edge :=
  (outgoing edges source).find? fun e => e.foldedCondition ≠ [] ∧ e.foldedCondition = folded

/-- The edge for a label; without one, and for a label that no edge has, a default edge. -/
def exactWay : Option Text → Option Edge
  | none => firstDefault edges source
  | some label => (firstLabelled edges source (Text.fold label)).or (firstDefault edges source)

/-- The edge for what a model replies: for its answer as for a label, and for a failed call a default edge. -/
def replyWay : Except Text Text → Option Edge
  | .error _ => firstDefault edges source
  | .ok answer => exactWay edges source (some answer)

theorem findDefault_eq : findDefault edges source = firstDefault edges source := by
  unfold findDefault firstDefault
  congr 1
  funext e
  rw [Bool.eq_iff_iff, Edge.isDefault_eq_true_iff, decide_eq_true_iff]

theorem firstLabelled_nil : firstLabelled edges source [] = none := by
  simp +contextual [firstLabelled]

theorem findByCondition_eq (label : Text) :
    findByCondition edges source label = firstLabelled edges source (Text.fold label) := by
  unfold findByCondition
  dsimp only
  split
  next blank => rw [List.isEmpty_iff.mp blank, firstLabelled_nil]
  next =>
    unfold firstLabelled
    congr 1
    funext e
    rw [Bool.eq_iff_iff]
    simp [Edge.hasCondition_eq_true_iff]

variable {edges source}

/-- A label that no edge has goes along a default edge. -/
theorem exactWay_of_firstLabelled_eq_none {label : Text} (h : firstLabelled edges source (Text.fold label) = none) :
    exactWay edges source (some label) = firstDefault edges source := by
  rw [exactWay, h, Option.none_or]

theorem exactWay_of_firstLabelled {label : Text} {e : Edge} (h : firstLabelled edges source (Text.fold label) = some e) :
    exactWay edges source (some label) = some e := by
  rw [exactWay, h, Option.some_or]

/-- **For every label that is offered there is an edge.** -/
theorem exists_firstLabelled {label : Text} (h : label ∈ conditionLabels edges source) :
    ∃ e, firstLabelled edges source (Text.fold label) = some e := by
  obtain ⟨e, he, rfl⟩ := List.mem_map.mp h
  obtain ⟨leaves, labelled⟩ := List.mem_filter.mp he
  have same : e.foldedCondition = Text.fold (Text.trim (e.condition.getD "")) := (Text.fold_trim _).symm
  exact Option.isSome_iff_exists.mp
    (List.find?_isSome.mpr ⟨e, leaves, decide_eq_true ⟨Edge.hasCondition_eq_true_iff.mp labelled, same⟩⟩)

end Routing

end Colloquy
