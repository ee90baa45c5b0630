import Colloquy.Proofs.Conversation.Waiting
import Colloquy.Proofs.Inspection.Orphans
import Colloquy.Proofs.Inspection.Validity
import Colloquy.Proofs.Turn.Route

/-!
# Where a conversation goes

What an inspection of the definition says about the turns of a conversation. Turns that start in a closed set of ids, or
where the one before them left off, do not leave it (`Interpreter.Takes.within`). The declared ids of a valid definition
are such a set, so that none of its turns looks for a node in vain (`Interpreter.found_of_isValid`); and so are the ids
that can be reached from the start node, so that no turn visits an orphan (`Interpreter.not_visits_orphan`).
-/

namespace Colloquy

/-- A turn starts at an id of the set when it is told to start at one at all. -/
def StartingWithin (P : Text → Prop) (_next start : Option Text) : Prop := ∀ id, nonEmpty? start = some id → P id

/-- A turn that resumes starts in every set in which the one before it left off. -/
theorem Resuming.startingWithin {next start : Option Text} (h : Resuming next start) {P : Text → Prop}
    (hnext : ∀ id, next = some id → P id) : StartingWithin P next start := by
  intro id hid
  obtain ⟨hs, -⟩ := nonEmpty?_eq_some hid
  rcases h with rfl | rfl
  · cases hs
  · exact hnext id hs

namespace Interpreter

variable {it : Interpreter} {c : Context} {turns : List Turn} {P : Text → Prop}

/-- **Turns that start in a closed set do not leave it**, when it holds the start node and the node at which the first
context waits. -/
theorem Takes.within {starts : Option Text → Option Text → Prop} (h : it.Takes c starts turns)
    (closed : it.definition.Closed P) (root : ∀ n, it.definition.start? = some n → P n.id) (hc : c.WaitsWithin P)
    (begins : ∀ next start, (∀ id, next = some id → P id) → starts next start → StartingWithin P next start) :
    ∀ t ∈ turns, t.Within it.definition P := by
  refine h.forall_turns (P := fun next ctx => (∀ id, next = some id → P id) ∧ ctx.WaitsWithin P) ⟨nofun, hc⟩
    (fun t within => ⟨within.next, within.waits⟩) fun hd before hread hs ht => ?_
  rw [← hd] at closed root ⊢
  exact within_executeTurn closed root before.2 (begins _ _ before.1 hs) hread ht

/-- Every turn of a run goes along the edges of the definition. -/
theorem Takes.route {starts : Option Text → Option Text → Prop} (h : it.Takes c starts turns) :
    ∀ t ∈ turns, it.definition.Route t.visits :=
  h.forall_turns (P := fun _ _ => True) trivial (fun _ _ => trivial)
    fun hd _ _ _ ht => hd ▸ route_executeTurn ht

/-! ## Valid definitions -/

/-- **A valid definition sends no turn to a missing node.** Turns that start at declared nodes, on a context that waits at
none but a declared one, never look for a node in vain; each goes along edges of the definition from one node that it finds
to the next. -/
theorem found_of_isValid (valid : it.definition.isValid = true) (hc : c.WaitsWithin it.definition.Declares)
    (h : it.Takes c (StartingWithin it.definition.Declares) turns) :
    ∀ t ∈ turns, (∀ v, t.ending ≠ .unknownNode v) ∧ it.definition.Route t.visits := by
  have closed : it.definition.Closed it.definition.Declares := by
    rintro a b - - ⟨e, he, -, rfl⟩
    exact (Inspection.declares_ends_of_isValid valid he).2
  have root : ∀ n, it.definition.start? = some n → it.definition.Declares n.id := fun n hn =>
    ⟨n, List.mem_of_find?_eq_some hn, rfl⟩
  have within := h.within closed root hc fun _ _ _ hs => hs
  refine fun t ht => ⟨fun v hv => ?_, h.route t ht⟩
  obtain ⟨id, -, declared, missing⟩ := (within t ht).missing v hv
  exact missing declared

/-- The parrot is valid, and its first turn finds its way. -/
theorem found_parrot : ∃ t, (make .parrot .default).definition.isValid = true ∧
    Context.empty.WaitsWithin Definition.parrot.Declares ∧
    (make .parrot .default).Takes .empty (StartingWithin Definition.parrot.Declares) [t] ∧
    (∀ v, t.ending ≠ .unknownNode v) ∧ Definition.parrot.Route t.visits ∧ t.visits.length = 2 := by
  have valid : (make .parrot .default).definition.isValid = true := by decide +kernel
  have nowhere : Context.empty.WaitsWithin Definition.parrot.Declares := .inl rfl
  obtain ⟨t, ht, two⟩ : ∃ t, (make .parrot .default).executeTurn ⟨.fresh, none, none, [], none⟩ ⟨[], [], .empty⟩ = .ok t ∧
      t.visits.length = 2 := ⟨_, rfl, by decide +kernel⟩
  have takes : (make .parrot .default).Takes .empty (StartingWithin Definition.parrot.Declares) [t] :=
    .cons .nil rfl (fun _ h => by cases h) ht
  obtain ⟨found, route⟩ := found_of_isValid valid nowhere takes t List.mem_cons_self
  exact ⟨t, valid, nowhere, takes, found, route, two⟩

/-! ## Orphans -/

/-- **No turn visits an orphan**, when the first context is fresh and every turn starts where the one before it left off. The
definition may hold edges from or to ids that no node has, and ids that several nodes have. -/
theorem not_visits_orphan {initial : Entries Text Value} (hc : Context.create initial = .ok c)
    (h : it.Takes c Resuming turns) : ∀ t ∈ turns, ∀ v ∈ t.visits, .orphan v.node.id ∉ it.definition.findings := by
  cases hs : it.definition.start? with
  | none => exact fun t _ v _ => Inspection.orphan_notMem_findings hs
  | some start =>
    have closed : it.definition.Closed (· ∈ Inspection.reachable it.definition start.id) := fun a b ha declared hl =>
      Inspection.mem_reachable_of_leads ha declared hl
    have root : ∀ n, it.definition.start? = some n → n.id ∈ Inspection.reachable it.definition start.id := by
      intro n hn
      cases hs.symm.trans hn
      exact Inspection.mem_reachable_self
    have nowhere : c.WaitsWithin (· ∈ Inspection.reachable it.definition start.id) :=
      .inl (by rw [Context.waiting_create hc]; rfl)
    have within := h.within closed root nowhere fun _ _ hnext hres => hres.startingWithin hnext
    intro t ht v hv orphan
    exact Inspection.notMem_reachable_of_orphan hs orphan ((within t ht).visits v hv)

/-- The castaway is an orphan, and the turn that greets does not visit it. -/
theorem not_visits_castaway : ∃ t, Context.create [] = .ok .empty ∧
    (make .castaway .default).Takes .empty Resuming [t] ∧ .orphan "far" ∈ Definition.castaway.findings ∧
    t.visits.length = 2 ∧ ∀ v ∈ t.visits, v.node.id ≠ "far" := by
  have fresh : Context.create [] = .ok .empty := rfl
  have orphan : .orphan "far" ∈ Definition.castaway.findings := by decide +kernel
  obtain ⟨t, ht, two⟩ : ∃ t, (make .castaway .default).executeTurn ⟨.fresh, none, none, [], none⟩ ⟨[], [], .empty⟩ = .ok t ∧
      t.visits.length = 2 := ⟨_, rfl, by decide +kernel⟩
  have takes : (make .castaway .default).Takes .empty Resuming [t] := .cons .nil rfl (.inl rfl) ht
  refine ⟨t, fresh, takes, orphan, two, fun v hv far => ?_⟩
  have known := not_visits_orphan fresh takes t List.mem_cons_self v hv
  rw [far] at known
  exact known orphan

end Interpreter

end Colloquy
