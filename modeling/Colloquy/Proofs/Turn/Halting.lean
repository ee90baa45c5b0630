import Colloquy.Proofs.Flow.Bare
import Colloquy.Proofs.Inspection.Ways
import Colloquy.Proofs.Turn.Walk
import Colloquy.Proofs.Turn.Way

/-!
# Where a turn halts

A turn halts at a node that has nowhere to send it (`Node.Stuck`): no edge leaves the node, or it is a condition node whose
edges are all typed for some other outcome than the default one. An inspection of the definition reports the former as
dead ends, so a turn halts only where it was warned of or at such a condition (`Interpreter.halts_where_stuck`).
-/

namespace Colloquy

/-! ## Nodes that send a turn nowhere -/

namespace Node

/-- A node that no edge leaves, or a condition node none of whose edges is a default edge; and no end node. -/
structure Stuck (n : Node) (edges : List Edge) : Prop where
  not_finish : n.kind? ≠ some .finish
  no_way : Routing.outgoing edges n.id = [] ∨
    n.kind? = some .condition ∧ ∀ e ∈ Routing.outgoing edges n.id, e.isDefault = false

variable {n : Node} {edges : List Edge}

/-- Nodes that ask routing for an edge are no end nodes. -/
theorem kind_ne_finish {preferred : Option EdgeType} (h : preferred ∈ n.preferences) : n.kind? ≠ some .finish := by
  intro hk
  simp [preferences, hk] at h

/-- A node that sends a turn nowhere is stuck. -/
theorem Sends.stuck {move : Move} (h : n.Sends edges move) (hm : move = .halt) : n.Stuck edges := by
  cases h with
  | resolve hp =>
    have none_left := (Routing.resolve_eq_none_iff edges n.id _).mp (Move.along_eq_halt.mp hm)
    exact ⟨kind_ne_finish hp, .inl none_left⟩
  | default hk =>
    have no_default := Routing.findDefault_eq_none_iff.mp (Move.along_eq_halt.mp hm)
    exact ⟨by simp [hk], .inr ⟨hk, no_default⟩⟩
  | condition | finish | await => cases hm

end Node

/-! ## Walks and turns -/

/-- A walk halts at a node of the definition that is stuck. -/
theorem Walk.tracks_stuck (d : Definition) (input : TurnInput) (hedges : input.edges = d.edges) :
    Walk.Tracks d input (fun _ _ => True) (fun ending w => ending = .halted →
      ∃ v, w.visits.getLast? = some v ∧ d.node? v.node.id = some v.node ∧ v.node.Stuck d.edges) where
  idle _ := nofun
  outOfSteps _ _ := nofun
  unknownNode _ _ _ := nofun
  unusableId _ _ := nofun
  failed _ _ _ _ := nofun
  follows _ _ _ _ _ := trivial
  waits _ _ _ _ _ := nofun
  finishes _ _ _ _ _ := nofun
  halts {n w step s} hn _ _ hr hm := by
    intro _
    have stuck : n.Stuck input.edges := (Node.sends_run hr).stuck hm
    refine ⟨⟨n, some step.move⟩, ?_, hn, hedges ▸ stuck⟩
    show (w.record n s step).visits.getLast? = _
    rw [Walk.visits_record, List.getLast?_concat]

namespace Interpreter

variable {it : Interpreter} {call : TurnCall} {w : World} {t : Turn}

theorem settle_status_eq_halted {ending : Ending} {done : Walk} :
    (settle ending done).status = .halted ↔ ending = .halted := by
  cases ending <;> simp [settle]

/-- **A turn halts only where the inspection warned of it, or where a condition has no way out**: at a node for whose id a
dead end is reported, or at a condition node that has edges, all of which are typed and none as default. -/
theorem halts_where_stuck (ht : it.executeTurn call w = .ok t) (halted : t.result.status = .halted) :
    ∃ v, t.visits.getLast? = some v ∧ it.definition.node? v.node.id = some v.node ∧
      (.deadEnd v.node.id ∈ it.definition.findings ∨
        v.node.kind? = some .condition ∧ Routing.outgoing it.definition.edges v.node.id ≠ [] ∧
          ∀ e ∈ Routing.outgoing it.definition.edges v.node.id, e.edgeType ≠ none ∧ e.edgeType ≠ some .default) := by
  obtain ⟨c, items, -, -, rfl⟩ := executeTurn_eq_ok_iff.mp ht
  have ends := (Walk.tracks_stuck it.definition (it.input items call) rfl).outcome c w (fun _ _ => trivial)
    (fun _ => nofun)
  obtain ⟨v, last, hn, stuck⟩ := ends (settle_status_eq_halted.mp halted)
  refine ⟨v, last, hn, ?_⟩
  by_cases edges : Routing.outgoing it.definition.edges v.node.id = []
  · have declared : v.node ∈ it.definition.nodes := List.mem_of_find?_eq_some hn
    exact .inl (Inspection.deadEnd_mem_findings_iff.mpr ⟨v.node, declared, rfl, stuck.not_finish, edges⟩)
  · obtain ⟨condition, typed⟩ := stuck.no_way.resolve_left edges
    exact .inr ⟨condition, edges, fun e he => Edge.isDefault_eq_false_iff.mp (typed e he)⟩

/-- Nothing is answered yet, and the condition of the impasse has no edge for that; no dead end was reported there. -/
theorem halts_impasse :
    let call : TurnCall := ⟨.fresh, none, none, [], none⟩
    ∃ t, (make .impasse .default).executeTurn call ⟨[], [], .empty⟩ = .ok t ∧ t.result.status = .halted ∧
      ∃ v, t.visits.getLast? = some v ∧ v.node.kind? = some .condition ∧
        .deadEnd v.node.id ∉ Definition.impasse.findings := by
  intro call
  obtain ⟨t, ht, halted⟩ : ∃ t, (make .impasse .default).executeTurn call ⟨[], [], .empty⟩ = .ok t ∧
      t.result.status = .halted := ⟨_, rfl, by decide +kernel⟩
  have none_warned : ∀ n ∈ Definition.impasse.nodes, .deadEnd n.id ∉ Definition.impasse.findings := by decide +kernel
  obtain ⟨v, last, hn, ways⟩ := halts_where_stuck ht halted
  have unwarned : .deadEnd v.node.id ∉ Definition.impasse.findings :=
    none_warned v.node (List.mem_of_find?_eq_some hn)
  obtain ⟨condition, -, -⟩ := ways.resolve_left unwarned
  exact ⟨t, ht, halted, v, last, condition, unwarned⟩

end Interpreter

end Colloquy
