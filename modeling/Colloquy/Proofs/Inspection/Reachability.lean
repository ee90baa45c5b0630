import Colloquy.Proofs.Inspection.Search
import Mathlib.Logic.Relation

/-!
# What the queue comes to

`Inspection.reachFrom` takes ids from a queue under fuel. Here the queue is worked off without fuel, with one rule for each
thing that can be done with the next id (`Drains`), and the fuel outlasts it: what is queued and the edges still to be used
are together no more than the fuel (`drains_reachFrom`). At any time every edge of an id that has been entered leads to an
id that is entered or queued (`Frontier`), and nothing is entered or queued that edges of declared nodes do not lead to. So
in the end the entered ids are exactly those that such edges reach from the first one (`mem_reachable_iff`).
-/

namespace Colloquy

/-- Edges that leave declared nodes lead, one after another, from one id to the other. -/
def Definition.Reaches (d : Definition) : Text → Text → Prop :=
  Relation.ReflTransGen fun a b => d.Declares a ∧ d.Leads a b

namespace Inspection

variable {d : Definition} {id next root : Text} {queue reached final : List Text}

/-! ## The loop -/

/-- Working off a queue leads from some entered ids to others. -/
inductive Drains (d : Definition) : List Text → List Text → List Text → Prop
  | empty (reached : List Text) : Drains d [] reached reached
  | known {id : Text} {queue reached final : List Text} : id ∈ reached → Drains d queue reached final →
      Drains d (id :: queue) reached final
  | enter {id : Text} {queue reached final : List Text} : id ∉ reached →
      Drains d (queue ++ (successors d id).filter fun next => next ∉ id :: reached) (id :: reached) final →
      Drains d (id :: queue) reached final

/-! ## The fuel -/

/-- The edges that have not been used: those of ids that are not entered. -/
def unused (d : Definition) (reached : List Text) : List Edge := d.edges.filter fun e => e.source ∉ reached

theorem length_successors_le (d : Definition) (id : Text) :
    (successors d id).length ≤ (Routing.outgoing d.edges id).length := by
  unfold successors
  split <;> simp

/-- Entering an id uses its edges up. -/
theorem length_unused_cons (d : Definition) (fresh : id ∉ reached) :
    (Routing.outgoing d.edges id).length + (unused d (id :: reached)).length = (unused d reached).length := by
  rw [Routing.outgoing_eq_filter]
  unfold unused
  induction d.edges with
  | nil => rfl
  | cons e edges ih =>
    by_cases hs : e.source = id
    · simp [hs, fresh] at ih ⊢
      omega
    · by_cases hr : e.source ∈ reached <;> simp [hs, hr] at ih ⊢ <;> omega

/-- What an id newly entered adds to the queue are edges that were unused before. -/
theorem length_queue_enter (d : Definition) (queue : List Text) (fresh : id ∉ reached) :
    (queue ++ (successors d id).filter fun next => next ∉ id :: reached).length + (unused d (id :: reached)).length ≤
      queue.length + (unused d reached).length := by
  have used := length_unused_cons d fresh
  have few := length_successors_le d id
  have fewer := List.length_filter_le (fun next => decide (next ∉ id :: reached)) (successors d id)
  rw [List.length_append]
  omega

/-- **The queue runs empty before the fuel does.** -/
theorem drains_reachFrom {fuel : Nat} (enough : queue.length + (unused d reached).length ≤ fuel) :
    Drains d queue reached (reachFrom d fuel queue reached) := by
  induction fuel generalizing queue reached with
  | zero =>
    obtain rfl : queue = [] := List.eq_nil_of_length_eq_zero (by omega)
    exact .empty reached
  | succ fuel ih =>
    cases queue with
    | nil => exact .empty reached
    | cons id queue =>
      rw [List.length_cons] at enough
      unfold reachFrom
      by_cases hid : id ∈ reached
      · rw [if_pos hid]
        exact .known hid (ih (by omega))
      · rw [if_neg hid]
        have shorter := length_queue_enter d queue hid
        exact .enter hid (ih (by omega))

/-- The loop that starts with one id in the queue comes to its end, with the reachable ids. -/
theorem drains_reachable (d : Definition) (root : Text) : Drains d [root] [] (reachable d root) := by
  have none_used : (unused d []).length ≤ d.edges.length := List.length_filter_le _ _
  apply drains_reachFrom
  rw [List.length_singleton]
  omega

/-! ## The frontier -/

/-- Every edge of an entered id leads to an id that is entered or queued. -/
def Frontier (d : Definition) (queue reached : List Text) : Prop :=
  ∀ id ∈ reached, ∀ next ∈ successors d id, next ∈ reached ∨ next ∈ queue

/-- Dropping an id that is entered already. -/
theorem Frontier.known (h : Frontier d (id :: queue) reached) (hid : id ∈ reached) : Frontier d queue reached := by
  intro a ha next hn
  rcases h a ha next hn with hr | hq
  · exact .inl hr
  · rcases List.mem_cons.mp hq with rfl | hq
    · exact .inl hid
    · exact .inr hq

/-- Entering an id queues what its edges lead to, as far as it is not entered. -/
theorem Frontier.enter (h : Frontier d (id :: queue) reached) :
    Frontier d (queue ++ (successors d id).filter fun next => next ∉ id :: reached) (id :: reached) := by
  intro a ha next hn
  by_cases known : next ∈ id :: reached
  · exact .inl known
  · right
    rw [List.mem_append]
    rcases List.mem_cons.mp ha with rfl | ha
    · exact .inr (List.mem_filter.mpr ⟨hn, by simpa using known⟩)
    · rcases h a ha next hn with hr | hq
      · exact absurd (List.mem_cons_of_mem id hr) known
      · rcases List.mem_cons.mp hq with rfl | hq
        · exact absurd List.mem_cons_self known
        · exact .inl hq

namespace Drains

/-- When the queue is empty, the frontier is gone: the entered ids are closed. -/
theorem frontier (h : Drains d queue reached final) (hf : Frontier d queue reached) : Frontier d [] final := by
  induction h with
  | empty => exact hf
  | known hid _ ih => exact ih (hf.known hid)
  | enter _ _ ih => exact ih hf.enter

/-- What is entered stays so, and what is queued is entered. -/
theorem enters (h : Drains d queue reached final) : ∀ id, id ∈ reached ∨ id ∈ queue → id ∈ final := by
  induction h with
  | empty => simp
  | known hid _ ih =>
    intro a ha
    apply ih a
    rcases ha with ha | ha
    · exact .inl ha
    · rcases List.mem_cons.mp ha with rfl | ha
      · exact .inl hid
      · exact .inr ha
  | enter _ _ ih =>
    intro a ha
    apply ih a
    rcases ha with ha | ha
    · exact .inl (List.mem_cons_of_mem _ ha)
    · rcases List.mem_cons.mp ha with rfl | ha
      · exact .inl List.mem_cons_self
      · exact .inr (List.mem_append_left _ ha)

/-- Nothing is entered but what is entered or queued already, and what edges of declared nodes reach from there. -/
theorem sound (h : Drains d queue reached final) (hr : ∀ id ∈ reached, d.Reaches root id)
    (hq : ∀ id ∈ queue, d.Reaches root id) : ∀ id ∈ final, d.Reaches root id := by
  induction h with
  | empty => exact hr
  | known _ _ ih => exact ih hr (List.forall_mem_cons.mp hq).2
  | @enter id queue reached _ _ _ ih =>
    obtain ⟨here, others⟩ := List.forall_mem_cons.mp hq
    refine ih (List.forall_mem_cons.mpr ⟨here, hr⟩) fun next hn => ?_
    rcases List.mem_append.mp hn with hn | hn
    · exact others next hn
    · exact here.tail (mem_successors_iff.mp (List.mem_filter.mp hn).1)

end Drains

/-! ## Reachable ids -/

theorem mem_reachable_self : root ∈ reachable d root :=
  (drains_reachable d root).enters root (.inr List.mem_cons_self)

/-- **The reachable ids are closed** under the edges of declared nodes. -/
theorem mem_reachable_of_leads (hid : id ∈ reachable d root) (declared : d.Declares id) (hl : d.Leads id next) :
    next ∈ reachable d root := by
  have closed : Frontier d [] (reachable d root) := (drains_reachable d root).frontier nofun
  rcases closed id hid next (mem_successors_iff.mpr ⟨declared, hl⟩) with hr | hq
  · exact hr
  · cases hq

/-- **The queue comes to exactly the ids** that edges of declared nodes reach from the one that it started with. -/
theorem mem_reachable_iff : id ∈ reachable d root ↔ d.Reaches root id := by
  constructor
  · refine (drains_reachable d root).sound nofun ?_ id
    intro a ha
    rw [List.mem_singleton.mp ha]
    exact .refl
  · intro h
    induction h with
    | refl => exact mem_reachable_self
    | tail _ step ih => exact mem_reachable_of_leads ih step.1 step.2

instance (a b : Text) : Decidable (d.Reaches a b) := decidable_of_iff (b ∈ reachable d a) mem_reachable_iff

end Inspection

end Colloquy
