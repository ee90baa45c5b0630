import Colloquy.Proofs.Inspection.Parts
import Mathlib.Tactic.ByContra

/-!
# Ways on that are missed

An inspection looks at the way on from every node. It reports a dead end for exactly the ids of nodes, other than end
nodes, that no edge leaves (`deadEnd_mem_findings_iff`). A node of which nothing is reported has an edge for each outcome
that needs one of its own (`exists_edge_of_unwarned`).
-/

namespace Colloquy.Inspection

variable {d : Definition} {n : Node} {id : Text}

theorem deadEnd_mem_wayOn_iff :
    .deadEnd id ∈ wayOn d n ↔ n.id = id ∧ n.kind? ≠ some .finish ∧ Routing.outgoing d.edges n.id = [] := by
  unfold wayOn
  by_cases hf : n.kind? = some .finish
  · simp [hf]
  · by_cases ho : Routing.outgoing d.edges n.id = []
    · simp [hf, ho, eq_comm]
    · -- what is reported for a node with edges is at most a missing branch
      have edges : (Routing.outgoing d.edges n.id).isEmpty = false := by simpa using ho
      rw [if_neg hf]
      dsimp only
      rw [edges, if_neg Bool.false_ne_true]
      split <;> simp [ho]

/-- **A dead end is reported for exactly those ids** of nodes, other than end nodes, that no edge leaves. -/
theorem deadEnd_mem_findings_iff : .deadEnd id ∈ d.findings ↔
    ∃ n ∈ d.nodes, n.id = id ∧ n.kind? ≠ some .finish ∧ Routing.outgoing d.edges n.id = [] := by
  have ways : .deadEnd id ∈ d.findings ↔ .deadEnd id ∈ d.nodes.flatMap (wayOn d) := mem_findings_iff_mem_part
  rw [ways, List.mem_flatMap]
  simp only [deadEnd_mem_wayOn_iff]

/-- Nothing is reported about the way on from the nodes with the id. -/
structure Unwarned (d : Definition) (id : Text) : Prop where
  way : .deadEnd id ∉ d.findings
  branches : ∀ outcomes, .missingBranch id outcomes ∉ d.findings

section

variable {kind : NodeKind} {outcome : EdgeType}

theorem ne_finish_of_needs (hk : n.kind? = some kind) (ho : outcome ∈ neededOutcomes kind) : n.kind? ≠ some .finish := by
  intro hf
  cases hk.symm.trans hf
  cases ho

/-- A missing branch is reported for a node with edges, none of which is for an outcome that needs one. -/
theorem exists_missingBranch_mem_wayOn (hk : n.kind? = some kind) (ho : outcome ∈ neededOutcomes kind)
    (edges : Routing.outgoing d.edges n.id ≠ [])
    (missed : ∀ e ∈ Routing.outgoing d.edges n.id, e.edgeType ≠ some outcome) :
    ∃ outcomes, .missingBranch n.id outcomes ∈ wayOn d n := by
  have missing : outcome ∈ (neededOutcomes kind).filter fun t =>
      !(Routing.outgoing d.edges n.id).any fun e => e.edgeType == some t :=
    List.mem_filter.mpr ⟨ho, by simpa using missed⟩
  have nonempty := List.ne_nil_of_mem missing
  unfold wayOn
  rw [if_neg (ne_finish_of_needs hk ho), hk]
  dsimp only [Option.map_some, Option.getD_some]
  rw [if_neg (by simpa using edges), if_neg (by simpa using nonempty)]
  exact ⟨_, List.mem_singleton_self _⟩

/-- **A node without warnings has an edge for each outcome** that needs one of its own. -/
theorem exists_edge_of_unwarned (h : Unwarned d n.id) (hn : n ∈ d.nodes) (hk : n.kind? = some kind)
    (ho : outcome ∈ neededOutcomes kind) : ∃ e ∈ Routing.outgoing d.edges n.id, e.edgeType = some outcome := by
  by_contra! missed
  by_cases edges : Routing.outgoing d.edges n.id = []
  · exact h.way (deadEnd_mem_findings_iff.mpr ⟨n, hn, rfl, ne_finish_of_needs hk ho, edges⟩)
  · obtain ⟨outcomes, reported⟩ := exists_missingBranch_mem_wayOn hk ho edges missed
    refine h.branches outcomes (mem_findings_iff_mem_part.mpr ?_)
    exact List.mem_flatMap.mpr ⟨n, hn, reported⟩

end

end Colloquy.Inspection
