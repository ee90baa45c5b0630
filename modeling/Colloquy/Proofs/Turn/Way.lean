import Colloquy.Proofs.Turn.Act

/-!
# Which way a node sends a turn

A node that has done its work sends the turn on in one of five ways (`Node.Sends`): along the edge that routing resolves
for an outcome of the node, from a condition node along an edge that its condition picks or along a default edge, to the
end of the flow, or into waiting for the user. Every node does one of these (`Node.sends_run`), so what follows from the
edges of a node is proved from the five.
-/

namespace Colloquy

@[simp] theorem Move.along_eq_halt {way : Option Edge} : along way = .halt ↔ way = none := by
  cases way <;> simp [along]

namespace Scene

/-- A refusal is no step, so what holds of every step that follows holds of the step that a node does by storing a text. -/
theorem of_store {P : Step → Prop} {s : Scene} {name text : Text} {next : Scene → Act}
    (h : ∀ s step, (next s).result = .ok step → P step) {step : Step} (hs : (s.store name text next).result = .ok step) :
    P step := by
  unfold store at hs
  split at hs
  · exact h _ step hs
  · cases hs

theorem of_storeIf {P : Step → Prop} {s : Scene} {name : Option Text} {text : Text} {next : Scene → Act}
    (h : ∀ s step, (next s).result = .ok step → P step) {step : Step}
    (hs : (s.storeIf name text next).result = .ok step) : P step := by
  unfold storeIf at hs
  split at hs
  · exact of_store h hs
  · exact h s step hs

end Scene

namespace Node

/-- The edge types that a node asks routing for, by its type: none for a node with one outcome. A condition node chooses
among its edges itself, and an end node follows no edge. -/
def preferences (n : Node) : List (Option EdgeType) :=
  match n.kind? with
  | some .getUserInput => [some .default]
  | some .lookup => [some .found, some .notFound]
  | some .apiCall => [some .success, some .error]
  | some .condition | some .finish => []
  | _ => [none]

/-- **Where a node can send a turn**, given the edges of the flow. -/
inductive Sends (n : Node) (edges : List Edge) : Move → Prop
  | resolve {preferred : Option EdgeType} : preferred ∈ n.preferences →
      Sends n edges (.along (Routing.resolve edges n.id (preferred.map EdgeType.name)))
  | condition {label : Text} {e : Edge} : n.kind? = some .condition →
      Routing.findByCondition edges n.id label = some e → Sends n edges (.follow e)
  | default : n.kind? = some .condition → Sends n edges (.along (Routing.findDefault edges n.id))
  | finish : n.kind? = some .finish → Sends n edges .finish
  | await : n.kind? = some .getUserInput → Sends n edges .await

/-- The act of a node that sends the turn on in one of these ways, if it does not fail. -/
def Directs (n : Node) (input : TurnInput) (act : Act) : Prop :=
  ∀ step, act.result = .ok step → n.Sends input.edges step.move

variable {n : Node} {input : TurnInput} {s : Scene}

theorem directs_step {messages : List Text} {note : Option Text} {move : Move} (h : n.Sends input.edges move) :
    n.Directs input (.step s messages note move) := by
  intro step he
  cases he
  exact h

theorem directs_fail (f : Fault) : n.Directs input (.fail s f) := by
  intro step he
  cases he

/-- Leaving along an edge of a type that the node may ask for. -/
theorem directs_leave {preferred : Option EdgeType} (hp : preferred ∈ n.preferences) (note : Text) :
    n.Directs input (input.leave n s note preferred) :=
  directs_step (.resolve hp)

/-- Storing a text directs a turn as what follows it does. -/
theorem directs_store {name text : Text} {next : Scene → Act} (h : ∀ s, n.Directs input (next s)) :
    n.Directs input (s.store name text next) :=
  fun _ hs => Scene.of_store h hs

theorem directs_storeIf {name : Option Text} {text : Text} {next : Scene → Act} (h : ∀ s, n.Directs input (next s)) :
    n.Directs input (s.storeIf name text next) :=
  fun _ hs => Scene.of_storeIf h hs

/-! ## The node types -/

theorem directs_getUserInput (hk : n.kind? = some .getUserInput) : n.Directs input (n.runGetUserInput input s) := by
  have hp : some .default ∈ n.preferences := by simp [preferences, hk]
  unfold runGetUserInput
  split
  · split
    · split
      · exact directs_storeIf fun s => directs_leave hp _
      · exact directs_step (.await hk)
    · exact directs_step (.await hk)
  · exact directs_step (.await hk)

theorem directs_callModel (hk : n.kind? = some .callModel) : n.Directs input (n.runCallModel input s) := by
  have hp : none ∈ n.preferences := by simp [preferences, hk]
  unfold runCallModel
  split
  · split
    · exact directs_store fun s => directs_leave hp _
    · exact directs_leave hp _
  · exact directs_leave hp _

theorem directs_leaveCondition (hk : n.kind? = some .condition) (value label : Text) (note : Option Text) :
    n.Directs input (n.leaveCondition input s value (Routing.findByCondition input.edges n.id label) note) := by
  unfold leaveCondition
  split
  next e he => exact directs_step (.condition hk he)
  next => exact directs_step (.default hk)

/-- Without an edge chosen, a condition node falls back to a default edge. -/
theorem directs_leaveCondition_none (hk : n.kind? = some .condition) (value : Text) (note : Option Text) :
    n.Directs input (n.leaveCondition input s value none note) :=
  directs_step (.default hk)

theorem directs_condition (hk : n.kind? = some .condition) : n.Directs input (n.runCondition input s) := by
  unfold runCondition
  split
  · exact directs_step (.default hk)
  · dsimp only
    split
    · unfold chooseByModel
      dsimp only
      split
      · exact directs_leaveCondition_none hk _ _
      · split
        · exact directs_leaveCondition hk _ _ _
        · exact directs_leaveCondition_none hk _ _
    · exact directs_leaveCondition hk _ _ _

theorem directs_lookup (hk : n.kind? = some .lookup) : n.Directs input (n.runLookup input s) := by
  have found : some .found ∈ n.preferences := by simp [preferences, hk]
  have notFound : some .notFound ∈ n.preferences := by simp [preferences, hk]
  unfold runLookup
  split
  · exact directs_storeIf fun s => directs_leave found _
  · exact directs_storeIf fun s => directs_leave notFound _

theorem directs_wait (hk : n.kind? = some .wait) : n.Directs input (n.runWait input s) := by
  unfold runWait
  split
  · exact directs_leave (by simp [preferences, hk]) _
  · exact directs_fail _

theorem directs_apiCall (hk : n.kind? = some .apiCall) : n.Directs input (n.runApiCall input s) := by
  have error : some .error ∈ n.preferences := by simp [preferences, hk]
  unfold runApiCall
  split
  · exact directs_leave error _
  · split
    · exact directs_fail _
    · split
      next call w _ =>
        have asked : some call.edgeType ∈ n.preferences := by
          unfold Http.CallResult.edgeType
          cases call.success <;> simp [preferences, hk]
        rw [leaveApiCall_eq]
        split
        · exact directs_storeIf fun s => directs_leave asked _
        · exact directs_leave asked _
      next => exact directs_fail _

theorem Brief.asks_for_none (h : n.Brief) : none ∈ n.preferences := by
  cases hk : n.kind? with
  | none => simp [preferences, hk]
  | some kind =>
    cases kind with
    | start | sendMessage | action | code | transition | agentSkill => simp [preferences, hk]
    | getUserInput | callModel | condition | lookup | wait | finish | apiCall => exact absurd hk (h.kind_ne rfl)

theorem directs_run (n : Node) (input : TurnInput) (s : Scene) : n.Directs input (n.run input s) :=
  run_rule (P := n.Directs input) (fun brief _ _ => directs_step (.resolve brief.asks_for_none)) directs_getUserInput
    directs_callModel directs_condition directs_lookup directs_wait (fun hk => directs_step (.finish hk)) directs_apiCall

/-- **Every node sends the turn on in one of these ways**, unless it fails. -/
theorem sends_run {step : Step} {s' : Scene} (h : n.run input s = ⟨.ok step, s'⟩) : n.Sends input.edges step.move :=
  n.directs_run input s step (by rw [h])

end Node

end Colloquy
