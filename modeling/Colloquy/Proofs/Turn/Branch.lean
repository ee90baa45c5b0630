import Colloquy.Proofs.Flow.Bare
import Colloquy.Proofs.Flow.Wire
import Colloquy.Proofs.Inspection.Ways
import Colloquy.Proofs.Service.Attempts
import Colloquy.Proofs.Turn.Encounter
import Colloquy.Proofs.Turn.Halting
import Colloquy.Proofs.Turn.Way

/-!
# Edges for outcomes

A look-up has two outcomes, and so has an API call; which one a node meets follows from the scene that it finds
(`Node.Meets`). It asks for an edge of this type (`Node.Meets.heads`). If the inspection has not warned of the node there is
such an edge, so the turn goes on along the first one, and never along a default edge or an edge for another outcome
(`Interpreter.own_edge_of_unwarned`).

A node that asks the user has one outcome, and the type `invalid` is kept for another that it does not have yet. Yet
routing falls back to the first edge of all, so an edge of this type is followed when it comes first and no edge is a
default edge (`Interpreter.follows_invalid_iff`).
-/

namespace Colloquy

/-! ## Typed edges -/

namespace Routing

variable {edges : List Edge} {source : Text} {type : EdgeType} {e : Edge}

/-- The first of the edges that leave a node with a type. -/
def firstTyped (edges : List Edge) (source : Text) (type : EdgeType) : Option Edge :=
  (outgoing edges source).find? fun e => e.edgeType == some type

theorem findByType_name (edges : List Edge) (source : Text) (type : EdgeType) :
    findByType edges source type.name = firstTyped edges source type := by
  unfold findByType firstTyped
  congr 1
  funext e
  cases e.edgeType with
  | none => rfl
  | some t =>
    rw [Bool.eq_iff_iff]
    simp [EdgeType.name_inj]

/-- An edge of the type asked for is preferred to all others. -/
theorem resolve_of_firstTyped (h : firstTyped edges source type = some e) :
    resolve edges source (some type.name) = some e :=
  resolve_eq_iff.mpr (.preferred rfl (findByType_eq_some_iff.mp ((findByType_name ..).trans h)))

end Routing

/-! ## Outcomes -/

/-- **What a look-up or a call meets** in a scene. -/
inductive Node.Meets (n : Node) (input : TurnInput) (s : Scene) : EdgeType → Prop
  | hit {item : KnowledgeItem} : n.kind? = some .lookup →
      Knowledge.lookup input.knowledge (n.lookupQuery input s) = some item → Meets n input s .found
  | miss : n.kind? = some .lookup → Knowledge.lookup input.knowledge (n.lookupQuery input s) = none →
      Meets n input s .notFound
  | served {status : Int} : n.kind? = some .apiCall → nonEmpty? n.apiUrl ≠ none →
      Http.RepliedWith s.world.outcomes (Http.attemptsFor n.apiRetryAttempts) status → status < 400 →
      Meets n input s .success
  | refused {status : Int} : n.kind? = some .apiCall → nonEmpty? n.apiUrl ≠ none →
      Http.RepliedWith s.world.outcomes (Http.attemptsFor n.apiRetryAttempts) status → 400 ≤ status →
      Meets n input s .error
  /-- The transport fails at every attempt. -/
  | lost : n.kind? = some .apiCall → nonEmpty? n.apiUrl ≠ none →
      (∀ k < Http.attemptsFor n.apiRetryAttempts, (Http.outcomeAt s.world.outcomes k).Fails) → Meets n input s .error
  /-- The node has no address. -/
  | unaddressed : n.kind? = some .apiCall → nonEmpty? n.apiUrl = none → Meets n input s .error

namespace Node

variable {n : Node} {input : TurnInput} {s : Scene} {type : EdgeType}

/-- The inspection asks for an edge for whatever such a node meets. -/
theorem Meets.needed (h : n.Meets input s type) :
    ∃ kind, n.kind? = some kind ∧ type ∈ Inspection.neededOutcomes kind := by
  cases h with
  | hit hk | miss hk => exact ⟨.lookup, hk, by decide⟩
  | served hk | refused hk | lost hk | unaddressed hk => exact ⟨.apiCall, hk, by decide⟩

/-- The act sends the turn along the edge resolved for the type, if it does not fail. -/
def Heads (n : Node) (input : TurnInput) (type : EdgeType) (act : Act) : Prop :=
  ∀ step, act.result = .ok step → step.move = .along (input.edgeOf n (some type))

theorem heads_leave (note : Text) : n.Heads input type (input.leave n s note (some type)) := by
  intro step he
  cases he
  rfl

theorem heads_storeIf {name : Option Text} {text : Text} {next : Scene → Act} (h : ∀ s, n.Heads input type (next s)) :
    n.Heads input type (s.storeIf name text next) :=
  fun _ hs => Scene.of_storeIf h hs

/-- A call heads for the edge of its result, whatever the request is. -/
theorem heads_apiCall (hurl : nonEmpty? n.apiUrl ≠ none)
    (sends : ∀ request, ∃ call w, s.world.send request n.apiRetryAttempts true = (.ok call, w) ∧ call.edgeType = type) :
    n.Heads input type (n.runApiCall input s) := by
  obtain ⟨url, hurl⟩ := Option.ne_none_iff_exists'.mp hurl
  unfold runApiCall
  rw [hurl]
  dsimp only
  cases n.request input url s.context with
  | error f => exact nofun
  | ok request =>
    obtain ⟨call, w, sent, rfl⟩ := sends request
    dsimp only
    rw [sent]
    dsimp only
    rw [leaveApiCall_eq]
    split
    · exact heads_storeIf fun _ => heads_leave _
    · exact heads_leave _

/-- **A node heads for the edge of what it meets.** -/
theorem Meets.heads (h : n.Meets input s type) : n.Heads input type (n.run input s) := by
  cases h with
  | hit hk found =>
    rw [run_lookup hk, runLookup, found]
    exact heads_storeIf fun _ => heads_leave _
  | miss hk missed =>
    rw [run_lookup hk, runLookup, missed]
    exact heads_storeIf fun _ => heads_leave _
  | served hk hurl replied ok =>
    rw [run_apiCall hk]
    refine heads_apiCall hurl fun request => ?_
    obtain ⟨text, made, w, sent⟩ := World.send_of_replies replied request true
    exact ⟨_, w, sent, by simp [Http.CallResult.edgeType, Http.CallResult.ofReply, ok]⟩
  | refused hk hurl replied bad =>
    rw [run_apiCall hk]
    refine heads_apiCall hurl fun request => ?_
    obtain ⟨text, made, w, sent⟩ := World.send_of_replies replied request true
    exact ⟨_, w, sent, by simp [Http.CallResult.edgeType, Http.CallResult.ofReply, bad]⟩
  | lost hk hurl failed =>
    rw [run_apiCall hk]
    refine heads_apiCall hurl fun request => ?_
    obtain ⟨error, w, sent⟩ := World.send_of_fails failed request true
    exact ⟨_, w, sent, rfl⟩
  | unaddressed hk hurl =>
    rw [run_apiCall hk, runApiCall, hurl]
    exact heads_leave _

/-- A call that does not fail has not broken down. -/
theorem not_breaks_of_run (hk : n.kind? = some .apiCall) (hurl : nonEmpty? n.apiUrl ≠ none) {k : Nat}
    (left : k < Http.attemptsFor n.apiRetryAttempts) (failed : ∀ j < k, (Http.outcomeAt s.world.outcomes j).Fails)
    {step : Step} (hr : (n.run input s).result = .ok step) : ¬(Http.outcomeAt s.world.outcomes k).Breaks := by
  intro breaks
  obtain ⟨url, hurl⟩ := Option.ne_none_iff_exists'.mp hurl
  rw [run_apiCall hk, runApiCall, hurl] at hr
  dsimp only at hr
  cases hreq : n.request input url s.context with
  | error f =>
    rw [hreq] at hr
    cases hr
  | ok request =>
    obtain ⟨b, message, w, sent⟩ := World.send_of_breaks left failed breaks request true
    rw [hreq] at hr
    dsimp only at hr
    rw [sent] at hr
    cases hr

/-- **A look-up or a call that does not fail meets one of its outcomes.** -/
theorem exists_meets (hk : n.kind? = some .lookup ∨ n.kind? = some .apiCall) {step : Step}
    (hr : (n.run input s).result = .ok step) : ∃ type, n.Meets input s type := by
  rcases hk with hk | hk
  · cases hl : Knowledge.lookup input.knowledge (n.lookupQuery input s) with
    | some item => exact ⟨_, .hit hk hl⟩
    | none => exact ⟨_, .miss hk hl⟩
  · by_cases hurl : nonEmpty? n.apiUrl = none
    · exact ⟨_, .unaddressed hk hurl⟩
    rcases Http.fails_or_exists_first s.world.outcomes (Http.attemptsFor n.apiRetryAttempts) with failed | first
    · exact ⟨_, .lost hk hurl failed⟩
    · obtain ⟨k, left, failed, other⟩ := first
      have replies := (Http.Outcome.replies_or_breaks other).resolve_right (not_breaks_of_run hk hurl left failed hr)
      obtain ⟨status, text, reply⟩ := replies
      have replied : Http.RepliedWith s.world.outcomes (Http.attemptsFor n.apiRetryAttempts) status :=
        ⟨k, left, failed, text, reply⟩
      by_cases ok : status < 400
      · exact ⟨_, .served hk hurl replied ok⟩
      · exact ⟨_, .refused hk hurl replied (by omega)⟩

end Node

/-- A node of which the inspection has not warned has a first edge of the type that it meets. -/
theorem Inspection.Unwarned.exists_firstTyped {d : Definition} {n : Node} (h : Unwarned d n.id) (hn : n ∈ d.nodes)
    {input : TurnInput} {s : Scene} {type : EdgeType} (hm : n.Meets input s type) :
    ∃ e, Routing.firstTyped d.edges n.id type = some e := by
  obtain ⟨kind, hk, needed⟩ := hm.needed
  obtain ⟨e, he, typed⟩ := exists_edge_of_unwarned h hn hk needed
  exact Option.isSome_iff_exists.mp (List.find?_isSome.mpr ⟨e, he, by simp [typed]⟩)

namespace Interpreter

variable {it : Interpreter} {call : TurnCall} {w : World} {t : Turn}

/-- **Without warnings every outcome takes its own edge.** At a look-up or a call of which the inspection has not warned, and
which does not fail, a turn meets one of its outcomes; and for the outcome that it meets it follows the first edge of this
type, and goes on at its target. -/
theorem own_edge_of_unwarned (ht : it.executeTurn call w = .ok t) : ∃ c items, call.context.read = .ok c ∧
    call.knowledge.mapM GivenItem.read = .ok items ∧
    t.visits = (it.encounters c items call w).map Encounter.visit ∧
    ∀ before e after, it.encounters c items call w = before ++ e :: after →
      e.node.kind? = some .lookup ∨ e.node.kind? = some .apiCall →
      Inspection.Unwarned it.definition e.node.id → e.visit.move ≠ none →
      (∃ type, e.node.Meets (it.input items call) e.scene type) ∧
      ∀ type, e.node.Meets (it.input items call) e.scene type →
        ∃ edge, Routing.firstTyped it.definition.edges e.node.id type = some edge ∧
          e.visit.move = some (.follow edge) ∧ t.ending.GoesOn it.definition edge.target after := by
  obtain ⟨c, items, hc, hitems, rfl⟩ := executeTurn_eq_ok_iff.mp ht
  refine ⟨c, items, hc, hitems, it.visits_take c items call w, fun before e after split hk unwarned moved => ?_⟩
  have here : e ∈ it.encounters c items call w := by
    rw [split]
    exact List.mem_append_right _ List.mem_cons_self
  have input : e.input = it.input items call := input_of_mem_encounters here
  have declared : e.node ∈ it.definition.nodes := List.mem_of_find?_eq_some (node?_of_mem_encounters here)
  obtain ⟨step, hr⟩ : ∃ step, (e.node.run (it.input items call) e.scene).result = .ok step := by
    unfold Encounter.visit Encounter.act at moved
    rw [input] at moved
    cases hr : (e.node.run (it.input items call) e.scene).result with
    | ok step => exact ⟨step, rfl⟩
    | error f => simp [hr, Except.toOption] at moved
  refine ⟨Node.exists_meets hk hr, fun type meets => ?_⟩
  obtain ⟨edge, first⟩ := unwarned.exists_firstTyped declared meets
  have followed : e.visit.move = some (.follow edge) := by
    have way : (it.input items call).edgeOf e.node (some type) = some edge := Routing.resolve_of_firstTyped first
    have move := meets.heads step hr
    rw [way] at move
    unfold Encounter.visit Encounter.act
    rw [input, hr]
    exact congrArg some move
  exact ⟨edge, first, followed, goesOn_of_follow split followed⟩

/-- The clerk finds what it is asked for, and goes on along the edge for that, although a default edge comes first. -/
theorem clerk_takes_own_edge :
    let item : KnowledgeItem := ⟨"k1", "prices.md", none, some "All is free", ["price"], []⟩
    let call : TurnCall := ⟨.fresh, some "price", none, [.loaded item], none⟩
    ∃ t, (make .clerk .default).executeTurn call ⟨[], [], .empty⟩ = .ok t ∧ Inspection.Unwarned .clerk "look" ∧
      ∃ e ∈ (make .clerk .default).encounters .empty [item] call ⟨[], [], .empty⟩, e.node.id = "look" ∧
        e.node.Meets ((make .clerk .default).input [item] call) e.scene .found ∧
        ∃ edge, Routing.firstTyped Definition.clerk.edges "look" .found = some edge ∧
          e.visit.move = some (.follow edge) := by
  intro item call
  obtain ⟨t, ht⟩ : ∃ t, (make .clerk .default).executeTurn call ⟨[], [], .empty⟩ = .ok t := ⟨_, rfl⟩
  have quiet : ∀ f ∈ Definition.clerk.findings, f.check ≠ .ways := by decide +kernel
  have unwarned : Inspection.Unwarned .clerk "look" := ⟨fun h => quiet _ h rfl, fun _ h => quiet _ h rfl⟩
  obtain ⟨start, e, after, split, here, hk, hit, moved⟩ : ∃ (start e : Encounter) (after : List Encounter),
      (make .clerk .default).encounters .empty [item] call ⟨[], [], .empty⟩ = [start] ++ e :: after ∧
        e.node.id = "look" ∧ e.node.kind? = some .lookup ∧
        Knowledge.lookup [item] (e.node.lookupQuery ((make .clerk .default).input [item] call) e.scene) = some item ∧
        e.visit.move.isSome = true := ⟨_, _, _, rfl, rfl, rfl, rfl, by decide +kernel⟩
  have found : e.node.Meets ((make .clerk .default).input [item] call) e.scene .found := .hit hk hit
  obtain ⟨c, items, hc, hitems, -, branches⟩ := own_edge_of_unwarned ht
  cases hc
  cases hitems
  obtain ⟨-, takes⟩ := branches [start] e after split (.inl hk) (here ▸ unwarned) (Option.ne_none_iff_isSome.mpr moved)
  obtain ⟨edge, first, followed, -⟩ := takes .found found
  exact ⟨t, ht, unwarned, e, split ▸ List.mem_append_right _ List.mem_cons_self, here, found, edge, here ▸ first, followed⟩

/-- Every visit of a turn went one of the ways that its node can send a turn. -/
theorem sends_of_mem_visits (ht : it.executeTurn call w = .ok t) {v : Visit} (hv : v ∈ t.visits) {move : Move}
    (hm : v.move = some move) : v.node.Sends it.definition.edges move := by
  obtain ⟨c, items, -, -, rfl⟩ := executeTurn_eq_ok_iff.mp ht
  rw [visits_take] at hv
  obtain ⟨e, he, rfl⟩ := List.mem_map.mp hv
  have input : e.input = it.input items call := input_of_mem_encounters he
  unfold Encounter.visit at hm
  cases hr : e.act with
  | mk result s =>
    rw [hr] at hm
    cases result with
    | error f => cases hm
    | ok step =>
      cases hm
      have sends : e.node.Sends e.input.edges step.move := Node.sends_run hr
      rw [input] at sends
      exact sends

end Interpreter

/-! ## Invalid answers -/

namespace Routing

variable {edges : List Edge} {source : Text} {e : Edge}

/-- When an answer is to be taken, routing finds a default edge, or the first edge if none is one. -/
theorem resolve_default_cases (h : resolve edges source (some EdgeType.default.name) = some e) :
    (e ∈ outgoing edges source ∧ e.isDefault = true) ∨
      ((∀ e' ∈ outgoing edges source, e'.isDefault = false) ∧ (outgoing edges source).head? = some e) := by
  cases resolve_eq_iff.mp h with
  | preferred given first =>
    cases given
    obtain ⟨type, typed, same⟩ := first.holds
    cases EdgeType.name_inj.mp same
    exact .inl ⟨first.mem, Edge.isDefault_eq_true_iff.mpr (.inr typed)⟩
  | default _ first => exact .inl ⟨first.mem, Edge.isDefault_eq_true_iff.mpr first.holds⟩
  | first _ otherwise leads =>
    refine .inr ⟨fun e' he' => Edge.typedOtherwise_iff.mp (otherwise e' he'), ?_⟩
    rw [leads]
    rfl

end Routing

/-- A node that asks sends a turn along the edge that routing finds for the default outcome. -/
theorem Node.Sends.resolve_default {n : Node} {edges : List Edge} {move : Move} {e : Edge} (h : n.Sends edges move)
    (hk : n.kind? = some .getUserInput) (hm : move = .follow e) :
    Routing.resolve edges n.id (some EdgeType.default.name) = some e := by
  cases h with
  | resolve hp =>
    simp only [preferences, hk, List.mem_singleton] at hp
    subst hp
    exact Move.along_eq_follow.mp hm
  | condition hc | default hc => cases hk.symm.trans hc
  | finish | await => cases hm

namespace Interpreter

variable {it : Interpreter} {call : TurnCall} {w : World} {t : Turn}

/-- **When an answer is followed by an edge for invalid ones**: exactly when this edge comes first of those that leave the node,
and none of them is a default edge. -/
theorem follows_invalid_iff (ht : it.executeTurn call w = .ok t) {v : Visit} (hv : v ∈ t.visits)
    (hk : v.node.kind? = some .getUserInput) {e : Edge} (hm : v.move = some (.follow e)) :
    e.edgeType = some .invalid ↔
      (∀ e' ∈ Routing.outgoing it.definition.edges v.node.id, e'.edgeType ≠ none ∧ e'.edgeType ≠ some .default) ∧
      ∃ first, (Routing.outgoing it.definition.edges v.node.id).head? = some first ∧ first.edgeType = some .invalid := by
  have resolved := (sends_of_mem_visits ht hv hm).resolve_default hk rfl
  rcases Routing.resolve_default_cases resolved with ⟨leaves, default⟩ | ⟨typed, first⟩
  · constructor
    · intro invalid
      simp [Edge.isDefault, invalid] at default
    · intro h
      rw [Edge.isDefault_eq_false_iff.mpr (h.1 e leaves)] at default
      cases default
  · constructor
    · intro invalid
      exact ⟨fun e' he' => Edge.isDefault_eq_false_iff.mp (typed e' he'), e, first, invalid⟩
    · rintro ⟨-, e', first', invalid⟩
      cases first.symm.trans first'
      exact invalid

/-- The doubter follows its edge for invalid answers, as no other edge leaves the node that asks. -/
theorem doubter_has_no_default :
    ∃ t v e, (make .doubter .default).executeTurn
        ⟨.loaded ⟨[], [], .str "ask", .str "ask"⟩, some "Bob", none, [], none⟩ ⟨[], [], .empty⟩ = .ok t ∧
      v ∈ t.visits ∧ v.node.kind? = some .getUserInput ∧ v.move = some (.follow e) ∧ e.edgeType = some .invalid ∧
      ∀ e' ∈ Routing.outgoing Definition.doubter.edges v.node.id, e'.edgeType ≠ none ∧ e'.edgeType ≠ some .default := by
  obtain ⟨t, v, e, ht, hv, hk, hm, invalid⟩ : ∃ t v e, (make .doubter .default).executeTurn
        ⟨.loaded ⟨[], [], .str "ask", .str "ask"⟩, some "Bob", none, [], none⟩ ⟨[], [], .empty⟩ = .ok t ∧
      v ∈ t.visits ∧ v.node.kind? = some .getUserInput ∧ v.move = some (.follow e) ∧ e.edgeType = some .invalid :=
    ⟨_, _, _, rfl, List.mem_cons_self, rfl, rfl, rfl⟩
  exact ⟨t, v, e, ht, hv, hk, hm, invalid, ((follows_invalid_iff ht hv hk hm).mp invalid).1⟩

/-- **An edge for invalid answers may be followed**, in a definition that can be read: a turn takes an answer and says that it
is not valid, although no answer is found invalid. -/
theorem follows_invalid_doubter : Definition.read Definition.doubter.toWire = .value .doubter ∧
    ∃ t v e, (make .doubter .default).executeTurn
        ⟨.loaded ⟨[], [], .str "ask", .str "ask"⟩, some "Bob", none, [], none⟩ ⟨[], [], .empty⟩ = .ok t ∧
      v ∈ t.visits ∧ v.node.kind? = some .getUserInput ∧ v.move = some (.follow e) ∧ e.edgeType = some .invalid ∧
      t.result.messages = ["That is not valid"] := by
  have plain : Definition.doubter.Plain :=
    ⟨rfl, by simp [Definition.doubter, Definition.bare, Node.bare], by simp [Definition.doubter, Definition.bare, Edge.bare]⟩
  exact ⟨plain.read_toWire, _, _, _, rfl, List.mem_cons_self, rfl, rfl, rfl, by decide +kernel⟩

end Interpreter

end Colloquy
