import Colloquy.Proofs.Flow.Bare
import Colloquy.Proofs.Turn.Walk

/-!
# How a turn ends

The parts of a result agree with one another and with the bookkeeping of the context that it hands back, however the
turn ended (`Interpreter.coherent_executeTurn`): there is an error exactly when the status says so, the flow has finished
exactly when the status says so, and a turn names a node to resume at exactly when it waits, which it does at a node that
asks the user and that the context names too.

A turn waits, finishes, halts or fails, with one exception: it stops without any of these when the last edge that it
followed leads to the empty id, which the walk takes for the end of its way (`Interpreter.idle_iff_strands`).
-/

namespace Colloquy

/-! ## Results in agreement -/

/-- The node of the id is one that asks the user. -/
def Definition.AsksAt (d : Definition) (id : Text) : Prop := ∃ n, d.node? id = some n ∧ n.kind? = some .getUserInput

/-- What a result says agrees with its status, and so does the context. -/
structure TurnResult.Coherent (d : Definition) (r : TurnResult) : Prop where
  error_iff : r.error ≠ none ↔ r.status = .error
  of_error : r.status = .error →
    r.next = none ∧ r.finished = false ∧ r.context.currentNode = .null ∧ r.context.waiting = .null
  finished_iff : r.finished = true ↔ r.status = .finished
  of_finished : r.status = .finished → r.next = none ∧ r.context.currentNode = .null ∧ r.context.waiting = .null
  next_iff : r.next ≠ none ↔ r.status = .waiting
  of_next : ∀ id, r.next = some id →
    id ≠ [] ∧ r.context.currentNode = .str id ∧ r.context.waiting = .str id ∧ d.AsksAt id
  of_halted : r.status = .halted → r.context.currentNode = .null

/-- Where a walk's end leaves the conversation, as far as the settling does not say it. -/
structure Walk.Placed (d : Definition) (ending : Ending) (w : Walk) : Prop where
  waits : ∀ id, ending = .waiting id →
    id ≠ [] ∧ w.scene.context.currentNode = .str id ∧ w.scene.context.waiting = .str id ∧ d.AsksAt id
  halts : ending = .halted → w.scene.context.currentNode = .null

/-- A walk that ends at a node that asks the user stands there, and so does the conversation. -/
theorem Walk.placed_record {d : Definition} {input : TurnInput} {n : Node} {w : Walk} {step : Step} {s : Scene}
    (hn : d.node? n.id = some n) (hid : n.id ≠ []) (hd : n.Does input (w.arrive n) ⟨.ok step, s⟩)
    (hm : step.move = .await) : Walk.Placed d (.waiting n.id) (w.record n s step) := by
  refine ⟨fun id h => ?_, nofun⟩
  cases h
  rw [Walk.record_eq]
  exact ⟨hid, hd.currentNode_eq, hd.waiting_of_await hm, n, hn, hd.asks_of_await hm⟩

theorem Walk.keeps_placed (d : Definition) (input : TurnInput) :
    Walk.Keeps d input (fun _ => True) (Walk.Placed d) where
  outside {e w} he _ := by
    refine ⟨fun id h => ?_, fun h => ?_⟩
    · subst h
      cases he
    · subst h
      cases he
  outOfSteps _ _ := ⟨nofun, nofun⟩
  failed _ _ _ := ⟨nofun, nofun⟩
  follows _ _ _ _ := trivial
  waits hn hid _ hd hm := Walk.placed_record hn hid hd hm
  finishes _ _ _ _ := ⟨nofun, nofun⟩
  halts _ _ _ _ := ⟨nofun, fun _ => rfl⟩

namespace Interpreter

/-- **Settling brings the parts of a result into agreement.** -/
theorem coherent_settle {d : Definition} {ending : Ending} {w : Walk} (h : w.Placed d ending) :
    (settle ending w).Coherent d := by
  cases ending with
  | waiting id =>
    refine ⟨⟨absurd rfl, nofun⟩, nofun, ⟨nofun, nofun⟩, nofun, ⟨fun _ => rfl, nofun⟩, fun id' hid => ?_, nofun⟩
    cases hid
    exact h.waits id rfl
  | finished =>
    exact ⟨⟨absurd rfl, nofun⟩, nofun, ⟨fun _ => rfl, fun _ => rfl⟩, fun _ => ⟨rfl, rfl, rfl⟩, ⟨absurd rfl, nofun⟩,
      nofun, nofun⟩
  | halted =>
    exact ⟨⟨absurd rfl, nofun⟩, nofun, ⟨nofun, nofun⟩, nofun, ⟨absurd rfl, nofun⟩, nofun, fun _ => h.halts rfl⟩
  | idle => exact ⟨⟨absurd rfl, nofun⟩, nofun, ⟨nofun, nofun⟩, nofun, ⟨absurd rfl, nofun⟩, nofun, nofun⟩
  | noStart | outOfSteps | unknownNode | unusableId | failed =>
    exact ⟨⟨fun _ => rfl, nofun⟩, fun _ => ⟨rfl, rfl, rfl, rfl⟩, ⟨nofun, nofun⟩, nofun, ⟨absurd rfl, nofun⟩, nofun,
      nofun⟩

variable {it : Interpreter} {call : TurnCall} {w : World} {t : Turn}

theorem coherent_take (it : Interpreter) (c : Context) (items : List KnowledgeItem) (call : TurnCall) (w : World) :
    (it.take c items call w).result.Coherent it.definition :=
  coherent_settle ((Walk.keeps_placed it.definition (it.input items call)).outcome trivial)

/-- **The outcome of a turn and its bookkeeping are consistent**, on any context, message, start node and knowledge, and
in any world. -/
theorem coherent_executeTurn (ht : it.executeTurn call w = .ok t) : t.result.Coherent it.definition := by
  obtain ⟨c, items, -, -, rfl⟩ := executeTurn_eq_ok_iff.mp ht
  exact coherent_take it c items call w

/-- The parrot's first turn asks and waits. -/
theorem waits_parrot : ∃ t, (make .parrot .default).executeTurn ⟨.fresh, none, none, [], none⟩ ⟨[], [], .empty⟩ = .ok t ∧
    t.result.status = .waiting :=
  ⟨_, rfl, by decide +kernel⟩

/-- The parrot's first turn ends in agreement: it names the node that asks. -/
theorem coherent_parrot : ∃ t, (make .parrot .default).executeTurn ⟨.fresh, none, none, [], none⟩ ⟨[], [], .empty⟩ = .ok t ∧
    t.result.next ≠ none ∧ t.result.Coherent .parrot := by
  obtain ⟨t, ht, waits⟩ := waits_parrot
  have coherent : t.result.Coherent .parrot := coherent_executeTurn ht
  exact ⟨t, ht, coherent.next_iff.mpr waits, coherent⟩

end Interpreter

/-! ## Turns without an end -/

/-- The last visit followed an edge to the empty id. -/
def Definition.Strands (d : Definition) (visits : List Visit) : Prop :=
  ∃ n, ∃ e ∈ d.edges, visits.getLast? = some ⟨n, some (.follow e)⟩ ∧ e.source = n.id ∧ e.target = []

/-- How a walk came to where it stands: by the edge that its last visit followed, or else by an entry, which is never the
empty id. -/
def Walk.CameTo (d : Definition) (v : Value) (w : Walk) : Prop :=
  match w.visits.getLast? with
  | none => v ≠ .str []
  | some last => ∃ e ∈ d.edges, last.move = some (.follow e) ∧ e.source = last.node.id ∧ v = .str e.target

namespace Walk.CameTo

variable {d : Definition} {v : Value} {w : Walk}

/-- A walk stands at the empty id exactly when an edge led it there. -/
theorem strands_iff (h : w.CameTo d v) : d.Strands w.visits ↔ v = .str [] := by
  unfold Walk.CameTo at h
  unfold Definition.Strands
  cases hl : w.visits.getLast? with
  | none =>
    rw [hl] at h
    refine ⟨?_, fun hv => absurd hv h⟩
    rintro ⟨_, _, _, hlast, _⟩
    cases hlast
  | some last =>
    rw [hl] at h
    obtain ⟨n, move⟩ := last
    obtain ⟨e, he, rfl, hs, rfl⟩ := h
    constructor
    · rintro ⟨n, e', -, hlast, -, ht⟩
      cases hlast
      rw [ht]
    · intro ht
      exact ⟨n, e, he, rfl, hs, Value.str.inj ht⟩

end Walk.CameTo

theorem Definition.not_strands_nil (d : Definition) : ¬d.Strands [] := by
  rintro ⟨_, _, _, hlast, _⟩
  cases hlast

/-- A visit that followed no edge strands no walk. -/
theorem Definition.not_strands_concat {d : Definition} {visits : List Visit} {n : Node} {move : Option Move}
    (h : ∀ e, move ≠ some (.follow e)) : ¬d.Strands (visits ++ [⟨n, move⟩]) := by
  rintro ⟨m, e, -, hl, -, -⟩
  rw [List.getLast?_concat] at hl
  cases hl
  exact h e rfl

theorem Walk.tracks_cameTo (d : Definition) (input : TurnInput) (hedges : input.edges = d.edges) :
    Walk.Tracks d input (Walk.CameTo d) (fun e w => e = .idle ↔ d.Strands w.visits) where
  idle hw := ⟨fun _ => hw.strands_iff.mpr rfl, fun _ => rfl⟩
  outOfSteps hv hw := ⟨nofun, fun h => absurd (hw.strands_iff.mp h) hv⟩
  unknownNode hv _ hw := ⟨nofun, fun h => absurd (hw.strands_iff.mp h) hv⟩
  unusableId hk hw := by
    refine ⟨nofun, fun h => ?_⟩
    rw [hw.strands_iff.mp h] at hk
    cases hk
  failed _ _ _ _ := ⟨nofun, fun h => absurd h (Definition.not_strands_concat nofun)⟩
  follows {n w step s e} _ _ _ hr hm := by
    obtain ⟨hout, -⟩ := (Node.Does.of_run hr).of_follow hm
    obtain ⟨he, hs⟩ := Routing.mem_outgoing.mp hout
    unfold Walk.CameTo
    rw [Walk.visits_record, List.getLast?_concat]
    exact ⟨e, hedges ▸ he, congrArg some hm, hs, rfl⟩
  waits _ _ _ _ hm := by
    rw [Walk.visits_record, hm]
    exact ⟨nofun, fun h => absurd h (Definition.not_strands_concat nofun)⟩
  finishes _ _ _ _ hm := by
    rw [Walk.visits_record, hm]
    exact ⟨nofun, fun h => absurd h (Definition.not_strands_concat nofun)⟩
  halts {n w step s} _ _ _ _ hm := by
    show Ending.halted = .idle ↔ d.Strands (w.record n s step).visits
    rw [Walk.visits_record, hm]
    exact ⟨nofun, fun h => absurd h (Definition.not_strands_concat nofun)⟩

namespace Interpreter

variable {it : Interpreter} {call : TurnCall} {w : World} {t : Turn}

/-- No turn enters the flow at the empty id. -/
theorem entry_ne_empty {c : Context} {startNode : Option Text} {entry : Value} (h : it.entry c startNode = some entry) :
    entry ≠ .str [] := by
  unfold Interpreter.entry at h
  split at h
  next id hid =>
    cases h
    simpa using (nonEmpty?_eq_some hid).2
  next =>
    split at h
    · obtain ⟨n, -, h⟩ := Option.bind_eq_some_iff.mp h
      obtain ⟨id, hid, rfl⟩ := Option.map_eq_some_iff.mp h
      simpa using (nonEmpty?_eq_some hid).2
    next hw =>
      cases h
      rintro he
      rw [he] at hw
      exact hw rfl

theorem settle_status_eq_idle {ending : Ending} {done : Walk} : (settle ending done).status = .idle ↔ ending = .idle := by
  cases ending <;> simp [settle]

/-- **Which turns come to no definite end.** A turn is left idle exactly when the last edge that it followed leads to the
empty id; so every turn of a definition without such an edge waits, finishes, halts or fails. -/
theorem idle_iff_strands (ht : it.executeTurn call w = .ok t) :
    (t.result.status = .idle ↔ it.definition.Strands t.visits) ∧
    ((∀ e ∈ it.definition.edges, e.target ≠ []) →
      t.result.status ∈ [Status.waiting, .finished, .halted, .error]) := by
  obtain ⟨c, items, -, -, rfl⟩ := executeTurn_eq_ok_iff.mp ht
  have ends : (it.outcome c items call w).1 = .idle ↔ it.definition.Strands (it.outcome c items call w).2.visits :=
    (Walk.tracks_cameTo it.definition (it.input items call) rfl).outcome c w (fun _ he => entry_ne_empty he)
      (fun _ => ⟨nofun, fun h => absurd h (Definition.not_strands_nil _)⟩)
  have idle : (it.take c items call w).result.status = .idle ↔ it.definition.Strands (it.take c items call w).visits :=
    settle_status_eq_idle.trans ends
  refine ⟨idle, fun nowhere => ?_⟩
  have busy : (it.take c items call w).result.status ≠ .idle := fun h => by
    obtain ⟨n, e, he, -, -, ht⟩ := idle.mp h
    exact nowhere e he ht
  generalize (it.take c items call w).result.status = status at busy
  cases status with
  | idle => exact absurd rfl busy
  | waiting | finished | halted | error => simp

/-- The parrot's edges all lead to ids, so its first turn comes to an end. -/
theorem ends_parrot : ∃ t, (make .parrot .default).executeTurn ⟨.fresh, none, none, [], none⟩ ⟨[], [], .empty⟩ = .ok t ∧
    (∀ e ∈ Definition.parrot.edges, e.target ≠ []) ∧ t.result.status ∈ [Status.waiting, .finished, .halted, .error] := by
  have nowhere : ∀ e ∈ Definition.parrot.edges, e.target ≠ [] := by decide
  obtain ⟨t, ht, -⟩ := waits_parrot
  exact ⟨t, ht, nowhere, (idle_iff_strands ht).2 nowhere⟩

/-- A definition that can be read, and a turn that comes to no end. -/
theorem idle_stray : Definition.read Definition.stray.toWire = .value .stray ∧
    ∃ t, (make .stray .default).executeTurn ⟨.fresh, none, none, [], none⟩ ⟨[], [], .empty⟩ = .ok t ∧
      t.result.status = .idle :=
  ⟨rfl, _, rfl, by decide +kernel⟩

end Interpreter

end Colloquy
