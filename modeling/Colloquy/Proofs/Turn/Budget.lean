import Colloquy.Proofs.Flow.Bare
import Colloquy.Proofs.Flow.Cycle
import Colloquy.Proofs.Turn.Walk
import Mathlib.Data.List.Perm.Subperm

/-!
# A turn through asking loops never runs out of steps

When every closed walk of a definition asks the user, the nodes that a turn passes without asking never repeat, so there
are at most as many of them in a row as the definition has (`SilentTrail.length_le`). A turn passes through an asking
node at most once, since it then has used up the user's message; any other asking node makes it wait. So a turn visits
at most two such rows and the asking node between them, and twice as many steps as there are nodes are enough
(`walk_ne_outOfSteps`).
-/

namespace Colloquy

/-! ## Rows of nodes that do not ask -/

namespace Definition

variable {d : Definition}

/-- The nodes that do not ask the user. -/
def silent (d : Definition) : List Node := d.nodes.filter fun n => n.kind? ≠ some .getUserInput

theorem mem_silent {n : Node} : n ∈ d.silent ↔ n ∈ d.nodes ∧ n.kind? ≠ some .getUserInput := by
  simp [silent]

theorem length_silent_le (d : Definition) : d.silent.length ≤ d.nodes.length := List.length_filter_le _ _

theorem length_silent_lt {n : Node} (hn : n ∈ d.nodes) (hk : n.kind? = some .getUserInput) :
    d.silent.length < d.nodes.length :=
  List.length_filter_lt_length_iff_exists.mpr ⟨n, hn, by simp [hk]⟩

/-- Every closed walk of the definition asks the user. -/
def LoopsAsk (d : Definition) : Prop := ∀ ids, d.ClosedWalk ids → ¬d.InputFree ids

end Definition

/-- The ids of nodes that do not ask, passed in a row on the way to an id, the last one first. -/
structure SilentTrail (d : Definition) (trail : List Text) (id : Text) : Prop where
  nodup : trail.Nodup
  silent : ∀ a ∈ trail, ∃ n ∈ d.silent, n.id = a
  chain : d.Trail trail
  leads : ∀ top, trail.head? = some top → d.Leads top id

namespace SilentTrail

variable {d : Definition} {trail : List Text} {id : Text}

theorem nil (d : Definition) (id : Text) : SilentTrail d [] id where
  nodup := List.nodup_nil
  silent _ h := by cases h
  chain := .nil
  leads _ h := by cases h

/-- There are no more ids on the trail than nodes that do not ask. -/
theorem length_le (h : SilentTrail d trail id) : trail.length ≤ d.silent.length := by
  have sub : trail ⊆ d.silent.map Node.id := fun a ha => List.mem_map.mpr (h.silent a ha)
  simpa using (h.nodup.subperm sub).length_le

/-- When every loop asks, a trail does not come back to itself. -/
theorem not_mem (h : SilentTrail d trail id) (distinct : d.Distinct) (asks : d.LoopsAsk) : id ∉ trail := by
  intro hm
  obtain ⟨top, htop⟩ : ∃ top, trail.head? = some top := by
    cases trail with
    | nil => cases hm
    | cons top _ => exact ⟨top, rfl⟩
  have declared : ∀ a ∈ trail, d.Declares a := fun a ha => by
    obtain ⟨n, hn, hid⟩ := h.silent a ha
    exact ⟨n, (Definition.mem_silent.mp hn).1, hid⟩
  refine asks _ (Definition.closedWalk_closing h.chain declared htop (h.leads top htop) hm) fun n hn hin => ?_
  -- the ids of the closed walk are on the trail, and there they belong to silent nodes
  obtain ⟨m, hs, hid⟩ := h.silent n.id (closing_subset hm hin)
  obtain ⟨hmem, hk⟩ := Definition.mem_silent.mp hs
  rw [← List.inj_on_of_nodup_map distinct hmem hn hid]
  exact hk

/-- Passing one more node that does not ask makes the trail longer. -/
theorem push (h : SilentTrail d trail id) (distinct : d.Distinct) (asks : d.LoopsAsk) {n : Node} (hn : n ∈ d.silent)
    (hid : n.id = id) {target : Text} (hl : d.Leads id target) : SilentTrail d (id :: trail) target where
  nodup := List.nodup_cons.mpr ⟨h.not_mem distinct asks, h.nodup⟩
  silent a ha := by
    rcases List.mem_cons.mp ha with rfl | ha
    · exact ⟨n, hn, hid⟩
    · exact h.silent a ha
  chain := List.isChain_cons.mpr ⟨h.leads, h.chain⟩
  leads top htop := by
    cases htop
    exact hl

end SilentTrail

/-! ## The walk -/

/-- A walk that runs out of steps goes on from a node that it can afford, along an edge, and runs out there. -/
theorem walk_outOfSteps {d : Definition} {input : TurnInput} {left : Nat} {id : Text} {w : Walk}
    (h : (walk d input (left + 1) id w).1 = .outOfSteps) : ∃ n step s e, d.node? id = some n ∧
      n.Does input (w.arrive n) ⟨.ok step, s⟩ ∧ step.move = .follow e ∧
      (walk d input left e.target (w.record n s step)).1 = .outOfSteps := by
  unfold walk at h
  split at h
  · cases h
  · dsimp only at h
    cases hn : d.node? id with
    | none => rw [hn] at h; cases h
    | some n =>
      rw [hn] at h
      have hd := n.does_run input (w.arrive n)
      dsimp only at h
      split at h
      · cases h
      next step s hr =>
        rw [hr] at hd
        split at h
        · cases h
        · cases h
        · cases h
        next e hm => exact ⟨n, step, s, e, rfl, hd, hm, h⟩

section

variable {d : Definition} {input : TurnInput}

/-- The steps that a walk needs: for one row of silent nodes when no asking node can take the message any more, else for
two rows and the asking node between them. -/
def stepsNeeded (d : Definition) (s : Scene) : Nat :=
  if s.consumed ∨ d.silent.length = d.nodes.length then d.silent.length + 1 else 2 * d.silent.length + 2

theorem walk_ne_outOfSteps (distinct : d.Distinct) (asks : d.LoopsAsk) (hedges : input.edges = d.edges) {left : Nat}
    {trail : List Text} {id : Text} {w : Walk} (ht : SilentTrail d trail id)
    (enough : stepsNeeded d w.scene ≤ left + trail.length) : (walk d input left id w).1 ≠ .outOfSteps := by
  have few := ht.length_le
  induction left generalizing trail id w with
  | zero =>
    unfold stepsNeeded at enough
    split at enough <;> omega
  | succ left ih =>
    intro h
    obtain ⟨n, step, s, e, hn, hd, hm, h⟩ := walk_outOfSteps h
    obtain ⟨hmem, hid⟩ := (Definition.node?_eq_some_iff distinct).mp hn
    obtain ⟨hout, hkind⟩ := hd.of_follow hm
    obtain ⟨hedge, hsource⟩ := Routing.mem_outgoing.mp hout
    have leads : d.Leads id e.target := ⟨e, hedges ▸ hedge, hsource.trans hid, rfl⟩
    rcases hkind with ⟨hk, hsame⟩ | ⟨hk, hfresh, htaken⟩
    · -- one more silent node: the trail grows by the step that is spent
      have longer := ht.push distinct asks (Definition.mem_silent.mpr ⟨hmem, hk⟩) hid leads
      have need : stepsNeeded d (w.record n s step).scene = stepsNeeded d w.scene := by
        unfold stepsNeeded
        rw [Walk.record_consumed, hsame]
        rfl
      refine ih longer ?_ longer.length_le h
      rw [need, List.length_cons]
      omega
    · -- the node that takes the message: a second row begins, and it is the last
      have fewer := Definition.length_silent_lt hmem hk
      have need : stepsNeeded d (w.record n s step).scene = d.silent.length + 1 := by
        unfold stepsNeeded
        rw [Walk.record_consumed, htaken, if_pos (Or.inl rfl)]
      have before : stepsNeeded d w.scene = 2 * d.silent.length + 2 := by
        have hw : w.scene.consumed = false := hfresh
        unfold stepsNeeded
        rw [hw, if_neg (by simp; omega)]
      refine ih (.nil d e.target) ?_ (Nat.zero_le _) h
      rw [need, List.length_nil]
      omega

end

namespace Interpreter

variable {it : Interpreter}

/-- The walk of a turn has the steps that it needs. -/
theorem stepsNeeded_opening_le (some_step : 1 ≤ it.settings.maxSteps)
    (enough : 2 * it.definition.nodes.length ≤ it.settings.maxSteps) (c : Context) (w : World) :
    stepsNeeded it.definition (it.opening c w).scene ≤ it.settings.maxSteps.toNat := by
  have few := it.definition.length_silent_le
  unfold stepsNeeded
  split
  · -- all nodes are silent, or the definition has a node more than they are
    next h =>
    rcases h with hc | he
    · cases hc
    · omega
  · next h =>
    have fewer : it.definition.silent.length ≠ it.definition.nodes.length := fun he => h (Or.inr he)
    omega

/-- A walk with enough steps does not run out of them, wherever it enters the flow. -/
theorem outcome_ne_outOfSteps (distinct : it.definition.Distinct) (asks : it.definition.LoopsAsk)
    (some_step : 1 ≤ it.settings.maxSteps) (enough : 2 * it.definition.nodes.length ≤ it.settings.maxSteps)
    (c : Context) (items : List KnowledgeItem) (call : TurnCall) (w : World) :
    (it.outcome c items call w).1 ≠ .outOfSteps := by
  unfold outcome
  cases it.entry c call.startNode with
  | none => nofun
  | some entry =>
    have budget := stepsNeeded_opening_le some_step enough c w
    have positive : ¬it.settings.maxSteps ≤ 0 := by omega
    show (walkFrom it.definition (it.input items call) entry (it.opening c w)).1 ≠ .outOfSteps
    unfold walkFrom
    split
    · next id => exact walk_ne_outOfSteps distinct asks rfl (.nil _ id) (by simpa [input] using budget)
    · rw [if_neg (show ¬(it.input items call).settings.maxSteps ≤ 0 from positive)]
      split <;> nofun

/-- **No runaway turn when every loop asks the user.** With distinct ids, and with at least one step and at least twice
as many steps as nodes, no turn ends because its steps are used up: on any context, message, start node and knowledge,
and in any world. -/
theorem executeTurn_ending_ne_outOfSteps (distinct : it.definition.Distinct) (asks : it.definition.LoopsAsk)
    (some_step : 1 ≤ it.settings.maxSteps) (enough : 2 * it.definition.nodes.length ≤ it.settings.maxSteps)
    {call : TurnCall} {w : World} {t : Turn} (ht : it.executeTurn call w = .ok t) : t.ending ≠ .outOfSteps := by
  obtain ⟨c, items, -, -, rfl⟩ := executeTurn_eq_ok_iff.mp ht
  exact outcome_ne_outOfSteps distinct asks some_step enough c items call w

/-- Every closed walk through the parrot's nodes passes the one that asks. -/
theorem loopsAsk_parrot : Definition.parrot.LoopsAsk := by
  intro ids closed quiet
  obtain ⟨first, last, hfirst, hlast, e, he, rfl, rfl⟩ := closed.closes
  have edges : ∀ e ∈ Definition.parrot.edges, e.source = "ask" ∨ e.target = "ask" := by decide
  have asking : ∃ n ∈ Definition.parrot.nodes, n.id = "ask" ∧ n.kind? = some .getUserInput := by decide
  obtain ⟨n, hn, hid, hk⟩ := asking
  have never : ("ask" : Text) ∉ ids := fun h => quiet n hn (hid ▸ h) hk
  rcases edges e he with hs | ht
  · exact never (hs ▸ List.mem_of_getLast? hlast)
  · exact never (ht ▸ List.mem_of_head? hfirst)

/-- The parrot's first turn has steps to spare. -/
theorem parrot_has_steps : Definition.parrot.Distinct ∧ Definition.parrot.LoopsAsk ∧
    ∃ t, (make .parrot .default).executeTurn ⟨.fresh, none, none, [], none⟩ ⟨[], [], .empty⟩ = .ok t ∧
      t.ending ≠ .outOfSteps := by
  obtain ⟨t, ht⟩ : ∃ t, (make .parrot .default).executeTurn ⟨.fresh, none, none, [], none⟩ ⟨[], [], .empty⟩ = .ok t :=
    ⟨_, rfl⟩
  exact ⟨by decide, loopsAsk_parrot, t, ht,
    executeTurn_ending_ne_outOfSteps (by decide) loopsAsk_parrot (by decide) (by decide) ht⟩

end Interpreter

end Colloquy
