import Colloquy.Proofs.Flow.Cycle
import Colloquy.Proofs.Turn.Outcome

/-!
# The way of a turn

The nodes that a turn visits are those that the definition finds under their ids, and each visit goes on to the next along
an edge between the two (`Definition.Route`, `Interpreter.route_executeTurn`). So a turn does not leave a set of ids that
the edges of declared nodes do not leave (`Definition.Closed`), provided that it enters the flow there: the nodes it visits
are of the set, and so are the node to resume at and the one that the conversation waits at afterwards
(`Interpreter.within_executeTurn`).
-/

namespace Colloquy

/-! ## Routes -/

namespace Definition

/-- An edge between the two nodes is the one that the walk followed from the first. -/
def Continues (d : Definition) (a b : Visit) : Prop :=
  ∃ e ∈ d.edges, a.move = some (.follow e) ∧ e.source = a.node.id ∧ e.target = b.node.id

/-- Visits of nodes that the definition finds under their ids, each going on to the next. -/
structure Route (d : Definition) (visits : List Visit) : Prop where
  nodes : ∀ v ∈ visits, d.node? v.node.id = some v.node
  chain : visits.IsChain d.Continues

variable {d : Definition} {n : Node} {w : Walk}

theorem route_nil (d : Definition) : d.Route [] := ⟨List.forall_mem_nil _, .nil⟩

/-- A route goes on to the node that the walk has come to. -/
theorem Route.visit (h : d.Route w.visits) (came : w.CameTo d (.str n.id)) (hn : d.node? n.id = some n)
    (move : Option Move) : d.Route (w.visit n move).visits := by
  show d.Route (w.visits ++ [⟨n, move⟩])
  refine ⟨?_, List.isChain_append.mpr ⟨h.chain, .singleton _, ?_⟩⟩
  · intro v hv
    rcases List.mem_append.mp hv with hv | hv
    · exact h.nodes v hv
    · rw [List.mem_singleton.mp hv]
      exact hn
  · intro last hlast next hnext
    cases hnext
    unfold Walk.CameTo at came
    rw [Option.mem_def.mp hlast] at came
    obtain ⟨e, he, hm, hs, ht⟩ := came
    exact ⟨e, he, hm, hs, (Value.str.inj ht).symm⟩

theorem Route.record (h : d.Route w.visits) (came : w.CameTo d (.str n.id)) (hn : d.node? n.id = some n) (s : Scene)
    (step : Step) : d.Route (w.record n s step).visits := by
  rw [Walk.visits_record]
  exact h.visit came hn (some step.move)

end Definition

/-- The visits of a walk are a route. -/
theorem Walk.tracks_route (d : Definition) (input : TurnInput) (hedges : input.edges = d.edges) :
    Walk.Tracks d input (fun v w => w.CameTo d v ∧ d.Route w.visits) (fun _ w => d.Route w.visits) where
  idle hw := hw.2
  outOfSteps _ hw := hw.2
  unknownNode _ _ hw := hw.2
  unusableId _ hw := hw.2
  failed hn _ hw _ := hw.2.visit hw.1 hn none
  follows hn hid hw hr hm := ⟨(Walk.tracks_cameTo d input hedges).follows hn hid hw.1 hr hm, hw.2.record hw.1 hn _ _⟩
  waits hn _ hw _ _ := hw.2.record hw.1 hn _ _
  finishes hn _ hw _ _ := hw.2.record hw.1 hn _ _
  halts hn _ hw _ _ := hw.2.record hw.1 hn _ _

namespace Interpreter

variable {it : Interpreter} {call : TurnCall} {w : World} {t : Turn}

theorem route_take (it : Interpreter) (c : Context) (items : List KnowledgeItem) (call : TurnCall) (w : World) :
    it.definition.Route (it.take c items call w).visits :=
  (Walk.tracks_route it.definition (it.input items call) rfl).outcome c w
    (fun _ he => ⟨entry_ne_empty he, Definition.route_nil _⟩) (fun _ => Definition.route_nil _)

/-- **Every turn goes along the edges of the definition**, from one node that the definition finds under its id to the
next. -/
theorem route_executeTurn (ht : it.executeTurn call w = .ok t) : it.definition.Route t.visits := by
  obtain ⟨c, items, -, -, rfl⟩ := executeTurn_eq_ok_iff.mp ht
  exact it.route_take c items call w

end Interpreter

/-! ## How a turn ends after its last node -/

/-- How a turn ends that has followed an edge to the target and comes to no node there: the target is the empty id, or the id
of no node, or no steps are left. -/
def Ending.BreaksOff (d : Definition) (target : Text) : Ending → Prop
  | idle => target = []
  | unknownNode v => v = .str target ∧ d.node? target = none
  | outOfSteps => True
  | _ => False

/-- How a turn ends whose last node has made a move. -/
def Ending.After (d : Definition) (ending : Ending) : Move → Prop
  | .follow e => ending.BreaksOff d e.target
  | .halt => ending = .halted
  | .await => ∃ id, ending = .waiting id
  | .finish => ending = .finished

namespace Walk

variable {d : Definition} {v : Value} {w : Walk} {last : Visit} {move : Move}

/-- A walk that has visited a node stands at the target of the edge that it followed from there. -/
theorem CameTo.exists_followed (h : w.CameTo d v) (hlast : w.visits.getLast? = some last) (hm : last.move = some move) :
    ∃ e, move = .follow e ∧ v = .str e.target := by
  unfold CameTo at h
  rw [hlast] at h
  obtain ⟨e, -, followed, -, here⟩ := h
  exact ⟨e, Option.some.inj (hm.symm.trans followed), here⟩

theorem move_of_getLast?_record {n : Node} {s : Scene} {step : Step}
    (hlast : (w.record n s step).visits.getLast? = some last) (hm : last.move = some move) : step.move = move := by
  rw [visits_record, List.getLast?_concat] at hlast
  cases hlast
  exact Option.some.inj hm

/-- A walk ends as the move of its last node says. -/
theorem tracks_after (d : Definition) (input : TurnInput) (hedges : input.edges = d.edges) :
    Walk.Tracks d input (Walk.CameTo d) (fun ending w => ∀ last move, w.visits.getLast? = some last →
      last.move = some move → ending.After d move) where
  idle hw last move hlast hm := by
    obtain ⟨e, rfl, target⟩ := hw.exists_followed hlast hm
    exact (Value.str.inj target).symm
  outOfSteps _ hw last move hlast hm := by
    obtain ⟨e, rfl, -⟩ := hw.exists_followed hlast hm
    trivial
  unknownNode _ none hw last move hlast hm := by
    obtain ⟨e, rfl, target⟩ := hw.exists_followed hlast hm
    exact ⟨target, none _ target⟩
  unusableId hk hw last move hlast hm := by
    obtain ⟨e, rfl, target⟩ := hw.exists_followed hlast hm
    rw [target] at hk
    cases hk
  failed _ _ _ _ last move hlast hm := by
    replace hlast : (_ ++ [_]).getLast? = some last := hlast
    rw [List.getLast?_concat] at hlast
    cases hlast
    cases hm
  follows hn hid hw hr hm := (tracks_cameTo d input hedges).follows hn hid hw hr hm
  waits _ _ _ _ hmove last move hlast hm := by
    obtain rfl := hmove.symm.trans (move_of_getLast?_record hlast hm)
    exact ⟨_, rfl⟩
  finishes _ _ _ _ hmove last move hlast hm := by
    obtain rfl := hmove.symm.trans (move_of_getLast?_record hlast hm)
    rfl
  halts _ _ _ _ hmove last move hlast hm := by
    obtain rfl := hmove.symm.trans (move_of_getLast?_record hlast hm)
    rfl

end Walk

/-- **A turn ends as the move of its last node says**; one that followed an edge breaks off at its target. -/
theorem Interpreter.after_take (it : Interpreter) (c : Context) (items : List KnowledgeItem) (call : TurnCall) (w : World)
    {last : Visit} {move : Move} (hlast : (it.take c items call w).visits.getLast? = some last)
    (hm : last.move = some move) : (it.take c items call w).ending.After it.definition move :=
  (Walk.tracks_after it.definition (it.input items call) rfl).outcome c w (fun _ he => entry_ne_empty he)
    (fun _ _ _ hlast => by cases hlast) last move hlast hm

/-! ## Sets of ids that a turn does not leave -/

/-- No edge of a declared node leads out of the set. -/
def Definition.Closed (d : Definition) (P : Text → Prop) : Prop := ∀ a b, P a → d.Declares a → d.Leads a b → P b

/-- A context that waits nowhere, or at an id of the set. -/
def Context.WaitsWithin (P : Text → Prop) (c : Context) : Prop :=
  c.waiting.isFalsy = true ∨ ∃ id, c.waiting = .str id ∧ P id

variable {P : Text → Prop} {d : Definition} {n : Node}

theorem Definition.declares_of_node? (h : d.node? n.id = some n) : d.Declares n.id :=
  ⟨n, List.mem_of_find?_eq_some h, rfl⟩

theorem Definition.not_declares_of_node? {id : Text} (h : d.node? id = none) : ¬d.Declares id := by
  rintro ⟨n, hn, hid⟩
  exact absurd (by simpa using hid) (List.find?_eq_none.mp h n hn)

theorem Context.WaitsWithin.does {input : TurnInput} {s : Scene} {act : Act} (h : s.context.WaitsWithin P)
    (here : P n.id) (hd : n.Does input s act) : act.scene.context.WaitsWithin P := by
  rcases hd.waiting_cases with same | null | ⟨-, at_node⟩
  · unfold WaitsWithin
    rw [same]
    exact h
  · exact .inl (by rw [null]; rfl)
  · exact .inr ⟨n.id, at_node, here⟩

/-- A walk that stands at an id of the set and has been nowhere else. -/
structure Walk.Within (P : Text → Prop) (v : Value) (w : Walk) : Prop where
  here : ∃ id, v = .str id ∧ P id
  visits : ∀ v ∈ w.visits, P v.node.id
  waits : w.scene.context.WaitsWithin P

/-- A walk that has come to its end in the set. An id without a node at which it ended is of the set too. -/
structure Walk.EndsWithin (d : Definition) (P : Text → Prop) (ending : Ending) (w : Walk) : Prop where
  visits : ∀ v ∈ w.visits, P v.node.id
  waits : w.scene.context.WaitsWithin P
  stops : ∀ id, ending = .waiting id → P id
  missing : ∀ v, ending = .unknownNode v → ∃ id, v = .str id ∧ P id ∧ ¬d.Declares id

namespace Walk.Within

variable {input : TurnInput} {w : Walk}

theorem holds (h : w.Within P (.str n.id)) : P n.id := by
  obtain ⟨_, hid, here⟩ := h.here
  cases hid
  exact here

/-- A visit of the node that the walk stands at, and of all before it. -/
theorem visit (h : w.Within P (.str n.id)) (move : Option Move) : ∀ v ∈ (w.visit n move).visits, P v.node.id := by
  intro v hv
  rcases List.mem_append.mp hv with hv | hv
  · exact h.visits v hv
  · rw [List.mem_singleton.mp hv]
    exact h.holds

theorem record (h : w.Within P (.str n.id)) {step : Step} {s : Scene}
    (hr : n.run input (w.arrive n) = ⟨.ok step, s⟩) :
    (∀ v ∈ (w.record n s step).visits, P v.node.id) ∧ (w.record n s step).scene.context.WaitsWithin P := by
  rw [Walk.record_eq]
  exact ⟨h.visit _, Context.WaitsWithin.does (s := w.arrive n) h.waits h.holds (.of_run hr)⟩

end Walk.Within

theorem Walk.tracks_within (closed : d.Closed P) (input : TurnInput) (hedges : input.edges = d.edges) :
    Walk.Tracks d input (Walk.Within P) (Walk.EndsWithin d P) where
  idle hw := ⟨hw.visits, hw.waits, nofun, nofun⟩
  outOfSteps _ hw := ⟨hw.visits, hw.waits, nofun, nofun⟩
  unknownNode {v w} _ none hw := by
    refine ⟨hw.visits, hw.waits, nofun, fun v' h => ?_⟩
    cases h
    obtain ⟨id, rfl, here⟩ := hw.here
    exact ⟨id, rfl, here, Definition.not_declares_of_node? (none id rfl)⟩
  unusableId _ hw := ⟨hw.visits, hw.waits, nofun, nofun⟩
  failed {n w f s} _ _ hw hr :=
    ⟨hw.visit _, Context.WaitsWithin.does (s := w.arrive n) hw.waits hw.holds (.of_run hr), nofun, nofun⟩
  follows {n w step s e} hn _ hw hr hm := by
    obtain ⟨hout, -⟩ := (Node.Does.of_run hr).of_follow hm
    obtain ⟨he, hs⟩ := Routing.mem_outgoing.mp hout
    have onward : P e.target := closed n.id e.target hw.holds (Definition.declares_of_node? hn) ⟨e, hedges ▸ he, hs, rfl⟩
    exact ⟨⟨e.target, rfl, onward⟩, (hw.record hr).1, (hw.record hr).2⟩
  waits _ _ hw hr _ := by
    refine ⟨(hw.record hr).1, (hw.record hr).2, fun id h => ?_, nofun⟩
    cases h
    exact hw.holds
  finishes _ _ hw hr _ := ⟨(hw.record hr).1, (hw.record hr).2, nofun, nofun⟩
  halts _ _ hw hr _ := ⟨(hw.record hr).1, (hw.record hr).2, nofun, nofun⟩

/-- A turn that has not left the set, and leaves the conversation where the next turn does not leave it either. -/
structure Turn.Within (d : Definition) (P : Text → Prop) (t : Turn) : Prop where
  visits : ∀ v ∈ t.visits, P v.node.id
  missing : ∀ v, t.ending = .unknownNode v → ∃ id, v = .str id ∧ P id ∧ ¬d.Declares id
  next : ∀ id, t.result.next = some id → P id
  waits : t.result.context.WaitsWithin P

theorem Walk.EndsWithin.settle {ending : Ending} {done : Walk} (h : done.EndsWithin d P ending) :
    (Interpreter.settle ending done).context.WaitsWithin P := by
  cases ending with
  | waiting | halted | idle => exact h.waits
  | finished | noStart | outOfSteps | unknownNode | unusableId | failed => exact .inl rfl

namespace Interpreter

variable {it : Interpreter} {call : TurnCall} {c : Context} {w : World} {t : Turn}

/-- A turn enters the flow in a set that holds the start node, the node it is told to start at, and the one that waits. -/
theorem entry_within (root : ∀ n, it.definition.start? = some n → P n.id) (hc : c.WaitsWithin P) {start : Option Text}
    (told : ∀ id, nonEmpty? start = some id → P id) {entry : Value} (he : it.entry c start = some entry) :
    ∃ id, entry = .str id ∧ P id := by
  unfold Interpreter.entry at he
  split at he
  next id hid =>
    cases he
    exact ⟨id, rfl, told id hid⟩
  next =>
    split at he
    · obtain ⟨n, hn, he⟩ := Option.bind_eq_some_iff.mp he
      obtain ⟨id, hid, rfl⟩ := Option.map_eq_some_iff.mp he
      obtain rfl : n.id = id := Option.some.inj (nonEmpty?_eq_some hid).1
      exact ⟨n.id, rfl, root n hn⟩
    next hw =>
      cases he
      exact hc.resolve_left hw

/-- **A turn that enters the flow in a closed set does not leave it.** -/
theorem within_executeTurn (closed : it.definition.Closed P) (root : ∀ n, it.definition.start? = some n → P n.id)
    (hc : c.WaitsWithin P) (told : ∀ id, nonEmpty? call.startNode = some id → P id) (hread : call.context.read = .ok c)
    (ht : it.executeTurn call w = .ok t) : t.Within it.definition P := by
  obtain ⟨c', items, hc', -, rfl⟩ := executeTurn_eq_ok_iff.mp ht
  obtain rfl : c = c' := Except.ok.inj (hread.symm.trans hc')
  have ends := (Walk.tracks_within closed (it.input items call) rfl).outcome c w
    (fun _ he => ⟨entry_within root hc told he, List.forall_mem_nil _, hc⟩)
    (fun _ => ⟨List.forall_mem_nil _, hc, nofun, nofun⟩)
  exact ⟨ends.visits, ends.missing, fun id hid => ends.stops id (settle_next hid).1, ends.settle⟩

end Interpreter

end Colloquy
