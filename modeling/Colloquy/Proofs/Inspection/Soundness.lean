import Colloquy.Proofs.Flow.Bare
import Colloquy.Proofs.Inspection.Discovery
import Colloquy.Proofs.Inspection.Parts

/-!
# The loops that are found are real

The search notes a cycle where an edge leads back to the trail that it is on. A trail holds declared ids, each once and each
led to by the next, so what is noted is a loop of the definition (`Definition.SilentLoop`), if ids are distinct also one
without a node that asks the user. No two cycles noted have the same ids (`Follows.apart`), and the search enters every
declared id (`entered_perm`). The findings about loops say as much (`loops_reported_are_real`).
-/

namespace Colloquy

/-! ## Findings about loops -/

theorem Finding.code_eq_loop_iff {f : Finding} :
    f.code = "LOOP_WITHOUT_INPUT" ↔ ∃ first rest, f = .loop first rest := by
  refine ⟨fun h => ?_, fun ⟨_, _, he⟩ => he ▸ rfl⟩
  cases f with
  | loop first rest => exact ⟨first, rest, rfl⟩
  | _ => exact absurd (Text.ofString_inj.mp h) (by decide)

/-- The ids on the loop that a finding is about. -/
def Finding.loopIds : Finding → List Text
  | loop first rest => first :: rest
  | _ => []

/-- Declared ids, each once, that lead from one to the next and from the last to the first, and none of which is that of a
node that asks the user. -/
structure Definition.SilentLoop (d : Definition) (ids : List Text) : Prop where
  nodup : ids.Nodup
  closed : d.ClosedWalk ids
  input_free : d.InputFree ids

namespace Inspection

variable {d : Definition} {first : Text} {rest path nexts : List Text} {t t' : Tour}

theorem mem_loops_iff : .loop first rest ∈ loops d ↔ first :: rest ∈ (searchLoops d).cycles := by
  unfold loops
  rw [List.mem_filterMap]
  constructor
  · rintro ⟨cycle, hc, he⟩
    cases cycle with
    | nil => cases he
    | cons a ids =>
      cases he
      exact hc
  · exact fun h => ⟨_, h, rfl⟩

/-- A loop is found exactly when the search has noted it. -/
theorem mem_findings_iff : .loop first rest ∈ d.findings ↔ first :: rest ∈ (searchLoops d).cycles :=
  mem_findings_iff_mem_part.trans mem_loops_iff

/-- The findings with the code of a loop are those of the search for loops. -/
theorem filter_loop_findings : (d.findings.filter fun f : Finding => f.code = "LOOP_WITHOUT_INPUT") = loops d := by
  have same : ∀ f : Finding, f.code = "LOOP_WITHOUT_INPUT" ↔ f.check = .loops := by
    intro f
    rw [Finding.code_eq_loop_iff]
    cases f <;> simp [Finding.check]
  simp only [same]
  exact filter_check_findings .loops

/-! ## Nodes that ask -/

/-- The user is asked by the node of an id, when ids are distinct. -/
theorem asksUser_eq_true_iff (distinct : d.Distinct) {n : Node} (hn : n ∈ d.nodes) :
    asksUser d n.id = true ↔ n.kind? = some .getUserInput := by
  have reversed : (d.nodes.reverse.map Node.id).Nodup := by
    rw [List.map_reverse]
    exact List.nodup_reverse.mpr distinct
  unfold asksUser
  rw [(Definition.find?_id_eq_some_iff reversed).mpr ⟨List.mem_reverse.mpr hn, rfl⟩]
  simp

/-- A cycle never asks exactly when it is free of input. -/
theorem any_asksUser_eq_false_iff (distinct : d.Distinct) {cycle : List Text} (declared : ∀ id ∈ cycle, d.Declares id) :
    cycle.any (asksUser d) = false ↔ d.InputFree cycle := by
  rw [List.any_eq_false]
  constructor
  · exact fun h n hn hm hk => h n.id hm ((asksUser_eq_true_iff distinct hn).mpr hk)
  · intro h id hm ha
    obtain ⟨n, hn, rfl⟩ := declared id hm
    exact h n hn hm ((asksUser_eq_true_iff distinct hn).mp ha)

/-! ## Cycles that are noted -/

/-- A trail holds every id once: those on the path were entered before the id itself. -/
theorem Grown.nodup_trail {found : List Discovery} {x : Discovery} (h : Grown d found) (hx : x ∈ found) :
    x.trail.Nodup := by
  obtain ⟨id, path⟩ := x
  induction path generalizing id with
  | nil => exact List.nodup_singleton id
  | cons top path ih =>
    obtain ⟨newer, older, hf⟩ := List.append_of_mem hx
    have upto : Grown d (⟨id, top :: path⟩ :: older) := (hf ▸ h).of_append
    have above : (⟨top, path⟩ : Discovery) ∈ found := ((h.hangs_of_mem hx).2 top path rfl).1
    refine List.nodup_cons.mpr ⟨fun again => ?_, ih top above⟩
    obtain ⟨y, hy, he⟩ := upto.mem_older again
    cases upto with
    | cons _ _ fresh _ => exact fresh (he ▸ List.mem_map_of_mem hy)

/-- A cycle that the search notes is a loop of the definition. -/
theorem Grown.silentLoop_of_closes {found : List Discovery} (h : Grown d found) (distinct : d.Distinct)
    {cycle : List Text} (hc : Closes d found cycle) : d.SilentLoop cycle := by
  obtain ⟨x, hx, next, hm, hl, rfl, quiet⟩ := hc
  have closed : d.ClosedWalk (closing x.trail next) :=
    Definition.closedWalk_closing (h.trail_chain hx) (fun _ => h.declares_of_mem_trail hx) rfl hl hm
  have nodup : (closing x.trail next).Nodup := by
    obtain ⟨seg, hpre, he⟩ := closing_eq_reverse hm
    rw [he, List.nodup_reverse]
    exact (h.nodup_trail hx).sublist hpre.sublist
  exact ⟨nodup, closed, (any_asksUser_eq_false_iff distinct closed.declared).mp quiet⟩

theorem sameIds_iff {ids ids' : List Text} : sameIds ids ids' = true ↔ ∀ id, id ∈ ids ↔ id ∈ ids' := by
  simp only [sameIds, Bool.and_eq_true, List.all_eq_true, decide_eq_true_eq]
  constructor
  · rintro ⟨sub, sup⟩ id
    exact ⟨sub id, sup id⟩
  · intro same
    exact ⟨fun id => (same id).mp, fun id => (same id).mpr⟩

/-- No two of the lists have the same elements. -/
def Apart (cycles : List (List Text)) : Prop := cycles.Pairwise fun c c' => ¬∀ id, id ∈ c ↔ id ∈ c'

theorem Tour.apart_note (h : Apart t.cycles) (cycle : List Text) : Apart (t.note d cycle).cycles := by
  unfold note Search.note
  split
  · exact h
  next hn =>
    simp only [Bool.or_eq_true, not_or, List.any_eq_true, not_exists, not_and] at hn
    refine List.pairwise_append.mpr ⟨h, List.pairwise_singleton _ _, fun c hc c' hc' same => ?_⟩
    rw [List.mem_singleton.mp hc'] at same
    exact hn.2 c hc (sameIds_iff.mpr fun id => (same id).symm)

/-- The search keeps the cycles that it notes apart. -/
theorem Follows.apart (h : Follows d path nexts t t') (ht : Apart t.cycles) : Apart t'.cycles := by
  induction h with
  | done => exact ht
  | undeclared _ _ ih | known _ _ _ ih => exact ih ht
  | back _ _ _ ih => exact ih (Tour.apart_note ht _)
  | enter _ _ _ _ _ deep rest => exact rest (deep ht)

theorem apart_cycles (d : Definition) : Apart (searchLoops d).cycles := by
  obtain ⟨t, hs, h⟩ := follows_searchLoops d
  have apart : Apart t.cycles := h.apart .nil
  rw [← hs]
  exact apart

/-- **The search enters every declared id**, and each once. -/
theorem entered_perm (distinct : d.Distinct) : (searchLoops d).entered.Perm (d.nodes.map Node.id) := by
  obtain ⟨found, h⟩ := exists_explored d
  rw [h.entered, List.perm_ext_iff_of_nodup h.grown.nodup distinct]
  intro id
  simp only [List.mem_map]
  constructor
  · rintro ⟨x, hx, rfl⟩
    exact (h.grown.hangs_of_mem hx).1
  · exact fun declared => h.complete id declared

end Inspection

open Inspection

variable {d : Definition}

/-- **The loops that are reported are real**, in a definition with distinct ids. Every finding about a loop names, in its
message and from the id that it is about, declared ids, each once, of which each leads to the next and none asks the user; no
two findings name the same ids; and the search comes to its end, having entered every declared id once. -/
theorem loops_reported_are_real (distinct : d.Distinct) :
    (∀ f ∈ d.findings, f.code = "LOOP_WITHOUT_INPUT" → ∃ first rest, f.loopIds = first :: rest ∧
      f.node? = some first ∧
      f.message = "Cycle " ++ Text.joinWith " -> " (first :: rest ++ [first]) ++ " never waits for input" ∧
      d.SilentLoop (first :: rest)) ∧
    ((d.findings.filter fun f : Finding => f.code = "LOOP_WITHOUT_INPUT").Pairwise fun f g =>
      ¬∀ id, id ∈ f.loopIds ↔ id ∈ g.loopIds) ∧
    (∃ t : Tour, Follows d [] (d.nodes.map Node.id) ⟨[], []⟩ t ∧ t.search = searchLoops d) ∧
    (searchLoops d).entered.Perm (d.nodes.map Node.id) := by
  refine ⟨fun f hf hcode => ?_, ?_, ?_, entered_perm distinct⟩
  · obtain ⟨first, rest, rfl⟩ := Finding.code_eq_loop_iff.mp hcode
    obtain ⟨found, h⟩ := exists_explored d
    have noted : first :: rest ∈ (searchLoops d).cycles := mem_findings_iff.mp hf
    exact ⟨first, rest, rfl, rfl, rfl, h.grown.silentLoop_of_closes distinct (h.origin _ noted)⟩
  · rw [filter_loop_findings]
    unfold loops
    rw [List.pairwise_filterMap]
    refine (apart_cycles d).imp fun {c c'} apart f hf g hg => ?_
    cases c with
    | nil => cases hf
    | cons first rest =>
      cases c' with
      | nil => cases hg
      | cons first' rest' =>
        cases hf
        cases hg
        exact apart
  · obtain ⟨t, hs, h⟩ := follows_searchLoops d
    exact ⟨t, h, hs⟩

/-- The spinner's two messages are a loop that is reported, once. -/
theorem real_spinner : Definition.spinner.Distinct ∧ .loop "tick" ["tock"] ∈ Definition.spinner.findings ∧
    Definition.spinner.SilentLoop ["tick", "tock"] ∧
    (searchLoops .spinner).entered.Perm (Definition.spinner.nodes.map Node.id) := by
  have distinct : Definition.spinner.Distinct := by decide
  have reported : .loop "tick" ["tock"] ∈ Definition.spinner.findings := by decide +kernel
  obtain ⟨real, -, -, entered⟩ := loops_reported_are_real distinct
  obtain ⟨first, rest, ids, -, -, loop⟩ := real _ reported rfl
  cases ids
  exact ⟨distinct, reported, loop, entered⟩

end Colloquy
