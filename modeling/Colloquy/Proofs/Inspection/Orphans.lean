import Colloquy.Proofs.Flow.Bare
import Colloquy.Proofs.Inspection.Parts
import Colloquy.Proofs.Inspection.Reachability

/-!
# Orphans that are found

The orphans of a definition with a start node are the nodes, in their order, that the start node does not reach
(`orphans_eq`); a definition without one has none. An inspection reports exactly these (`orphans_reported`).
-/

namespace Colloquy

theorem Finding.code_eq_orphan_iff {f : Finding} : f.code = "ORPHAN_NODE" ↔ f.check = .orphans := by
  constructor
  · intro h
    cases f with
    | orphan => rfl
    | _ => exact absurd (Text.ofString_inj.mp h) (by decide)
  · intro h
    cases f with
    | orphan => rfl
    | _ => cases h

namespace Inspection

variable {d : Definition} {start : Node} {id : Text}

theorem orphans_eq (hs : d.start? = some start) :
    orphans d = (d.nodes.filter fun n => ¬d.Reaches start.id n.id).map fun n => .orphan n.id := by
  unfold orphans
  rw [hs]
  simp only [mem_reachable_iff]

/-- An orphan is reported for exactly those ids of nodes that the start node does not reach. -/
theorem orphan_mem_findings_iff (hs : d.start? = some start) :
    .orphan id ∈ d.findings ↔ d.Declares id ∧ ¬d.Reaches start.id id := by
  have part : .orphan id ∈ d.findings ↔ .orphan id ∈ orphans d := mem_findings_iff_mem_part
  rw [part, orphans_eq hs]
  simp only [List.mem_map, List.mem_filter, decide_eq_true_eq, Finding.orphan.injEq]
  constructor
  · rintro ⟨n, ⟨hn, apart⟩, rfl⟩
    exact ⟨⟨n, hn, rfl⟩, apart⟩
  · rintro ⟨⟨n, hn, rfl⟩, apart⟩
    exact ⟨n, ⟨hn, apart⟩, rfl⟩

theorem notMem_reachable_of_orphan (hs : d.start? = some start) (h : .orphan id ∈ d.findings) :
    id ∉ reachable d start.id := by
  obtain ⟨-, apart⟩ := (orphan_mem_findings_iff hs).mp h
  exact fun hid => apart (mem_reachable_iff.mp hid)

/-- Without a start node no orphan is reported. -/
theorem orphan_notMem_findings (hs : d.start? = none) : .orphan id ∉ d.findings := by
  intro h
  have found : .orphan id ∈ orphans d := mem_findings_iff_mem_part.mp h
  unfold orphans at found
  rw [hs] at found
  cases found

end Inspection

open Inspection

variable {d : Definition} {start : Node}

/-- **Orphan detection is exact** in a definition with a start node, whatever its edges and ids. The queue is worked off; an
orphan is reported for a node exactly when edges of declared nodes do not reach its id from the start node; and there is one
finding for each such node, in the order of the nodes. -/
theorem orphans_reported (hs : d.start? = some start) :
    Drains d [start.id] [] (reachable d start.id) ∧
    (∀ n ∈ d.nodes, .orphan n.id ∈ d.findings ↔ ¬d.Reaches start.id n.id) ∧
    (d.findings.filter fun f : Finding => f.code = "ORPHAN_NODE") =
      (d.nodes.filter fun n => ¬d.Reaches start.id n.id).map fun n => .orphan n.id := by
  refine ⟨drains_reachable d start.id, fun n hn => ?_, ?_⟩
  · rw [orphan_mem_findings_iff hs]
    exact and_iff_right ⟨n, hn, rfl⟩
  · simp only [Finding.code_eq_orphan_iff]
    rw [filter_check_findings, ← orphans_eq hs]
    rfl

/-- The castaway is reported as an orphan, and nothing else is: an edge leads to it, but from an id that no node has. -/
theorem orphans_castaway : ∃ start, Definition.castaway.start? = some start ∧
    Drains .castaway [start.id] [] (reachable .castaway start.id) ∧
    Definition.castaway.Leads "ghost" "far" ∧ ¬Definition.castaway.Reaches start.id "far" ∧
    ((Definition.castaway.nodes.filter fun n => ¬Definition.castaway.Reaches start.id n.id).map fun n =>
      Finding.orphan n.id) = [.orphan "far"] := by
  obtain ⟨start, hs⟩ : ∃ start, Definition.castaway.start? = some start := ⟨_, rfl⟩
  obtain ⟨worked_off, exact_at, listed⟩ := orphans_reported hs
  have found : (Definition.castaway.findings.filter fun f : Finding => f.code = "ORPHAN_NODE") = [.orphan "far"] := by
    decide +kernel
  obtain ⟨n, hn, far, reported⟩ : ∃ n ∈ Definition.castaway.nodes, n.id = "far" ∧
      .orphan n.id ∈ Definition.castaway.findings := by decide +kernel
  have apart : ¬Definition.castaway.Reaches start.id n.id := (exact_at n hn).mp reported
  exact ⟨start, hs, worked_off, by decide +kernel, far ▸ apart, listed.symm.trans found⟩

end Colloquy
