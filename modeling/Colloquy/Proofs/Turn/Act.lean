import Colloquy.Proofs.Context.Flat
import Colloquy.Proofs.Flow.Rule
import Colloquy.Turn.Step

/-!
# What a node can do

All that can come of one node, whatever its type (`Does`): a step along an edge that leaves the node or to a halt, the
end of the flow, a fault, and for a node that asks the user the four ways in which it meets the conversation. Every
node does one of these (`does_run`), so what a turn keeps is proved once for each of them and never by looking at the
handlers again.
-/

namespace Colloquy

/-! ## Edges that routing finds -/

namespace Routing

variable {edges : List Edge} {source : Text} {e : Edge}

theorem mem_outgoing : e ∈ outgoing edges source ↔ e ∈ edges ∧ e.source = source := by
  simp [outgoing_eq_filter]

theorem findDefault_mem (h : findDefault edges source = some e) : e ∈ outgoing edges source :=
  List.mem_of_find?_eq_some h

theorem findByCondition_mem {label : Text} (h : findByCondition edges source label = some e) :
    e ∈ outgoing edges source := by
  unfold findByCondition at h
  dsimp only at h
  split at h
  · cases h
  · exact List.mem_of_find?_eq_some h

theorem resolve_mem {preferred : Option Text} (h : resolve edges source preferred = some e) :
    e ∈ outgoing edges source :=
  (resolve_eq_iff.mp h).mem

end Routing

@[simp] theorem Move.along_eq_follow {way : Option Edge} {e : Edge} : along way = .follow e ↔ way = some e := by
  cases way <;> simp [along]

@[simp] theorem Move.along_ne_await {way : Option Edge} : along way ≠ .await := by cases way <;> simp [along]

theorem nonEmpty?_eq_some {text : Option Text} {s : Text} (h : nonEmpty? text = some s) : text = some s ∧ s ≠ [] := by
  cases text with
  | none => cases h
  | some s' =>
    unfold nonEmpty? at h
    dsimp only at h
    split at h
    · cases h
    next hs =>
      cases h
      exact ⟨rfl, by simpa using hs⟩

/-- A message is pending only as long as no node has taken it. -/
theorem TurnInput.pending_eq_some {input : TurnInput} {s : Scene} {answer : Text} (h : input.pending s = some answer) :
    s.consumed = false ∧ nonEmpty? input.message = some answer := by
  unfold TurnInput.pending at h
  cases hc : s.consumed with
  | true => simp [hc] at h
  | false => exact ⟨rfl, by simpa [hc] using h⟩

namespace Http.CallResult

/-- The type of the edge that an exchange asks for. -/
def edgeType (call : CallResult) : EdgeType := if call.success then .success else .error

/-- What an API node notes of an exchange. -/
def note (call : CallResult) : Text :=
  if call.success then "HTTP " ++ call.status.elim ("None" : Text) Text.ofInt
  else "Request failed: " ++ call.error.getD "None"

end Http.CallResult

/-- Types of nodes that at most say something before the turn goes on. -/
def NodeKind.isBrief : NodeKind → Bool
  | start | sendMessage | action | code | transition | agentSkill => true
  | _ => false

namespace Node

/-! ## Node by type -/

/-- A node that at most says something before the turn goes on, as a node of an unknown type does. -/
def Brief (n : Node) : Prop := ∀ kind, n.kind? = some kind → kind.isBrief = true

theorem brief_of_kind {n : Node} {kind : NodeKind} (hk : n.kind? = some kind) (brief : kind.isBrief = true) : n.Brief := by
  intro kind' hk'
  cases hk.symm.trans hk'
  exact brief

theorem Brief.kind_ne {n : Node} (h : n.Brief) {kind : NodeKind} (long : kind.isBrief = false) : n.kind? ≠ some kind := by
  intro hk
  rw [h kind hk] at long
  cases long

section

variable {n : Node} {input : TurnInput} {s : Scene}

theorem run_getUserInput (hk : n.kind? = some .getUserInput) : n.run input s = n.runGetUserInput input s := by
  unfold run
  rw [hk]

theorem run_callModel (hk : n.kind? = some .callModel) : n.run input s = n.runCallModel input s := by
  unfold run
  rw [hk]

theorem run_condition (hk : n.kind? = some .condition) : n.run input s = n.runCondition input s := by
  unfold run
  rw [hk]

theorem run_lookup (hk : n.kind? = some .lookup) : n.run input s = n.runLookup input s := by
  unfold run
  rw [hk]

theorem run_apiCall (hk : n.kind? = some .apiCall) : n.run input s = n.runApiCall input s := by
  unfold run
  rw [hk]

end

/-- **What holds of what the types do holds of what a node does.** -/
theorem run_rule {n : Node} {input : TurnInput} {s : Scene} {P : Act → Prop}
    (brief : n.Brief → ∀ messages note, P (.step s messages note (.along (input.edgeOf n none))))
    (getUserInput : n.kind? = some .getUserInput → P (n.runGetUserInput input s))
    (callModel : n.kind? = some .callModel → P (n.runCallModel input s))
    (condition : n.kind? = some .condition → P (n.runCondition input s))
    (lookup : n.kind? = some .lookup → P (n.runLookup input s))
    (wait : n.kind? = some .wait → P (n.runWait input s))
    (finish : n.kind? = some .finish → P (n.runFinish s))
    (apiCall : n.kind? = some .apiCall → P (n.runApiCall input s)) : P (n.run input s) := by
  unfold run
  cases hk : n.kind? with
  | none => exact brief (fun kind h => by cases hk.symm.trans h) _ _
  | some kind =>
    cases kind with
    | start | sendMessage | action | code | transition | agentSkill => exact brief (brief_of_kind hk rfl) _ _
    | getUserInput => exact getUserInput hk
    | callModel => exact callModel hk
    | condition => exact condition hk
    | lookup => exact lookup hk
    | wait => exact wait hk
    | finish => exact finish hk
    | apiCall => exact apiCall hk

/-! ## The ways to act -/

/-- The variable in which a node stores a text, if its type stores one and it names a variable. -/
def target? (n : Node) : Option Text :=
  match n.kind? with
  | some .getUserInput => nonEmpty? n.variableName
  | some .callModel => nonEmpty? n.outputVariable
  | some .lookup => nonEmpty? n.qnaOutputVariable
  | some .apiCall => nonEmpty? n.apiOutputVariable
  | _ => none

/-- A context as a node may leave the variables: untouched, or with a text in the node's variable. -/
inductive Stores (n : Node) (c : Context) : Context → Prop
  | nothing : Stores n c c
  | text {name t : Text} {c' : Context} : n.target? = some name → c.setVariable name (.str t) = .ok c' → Stores n c c'

/-- The edges that a way on may follow all leave the node. -/
def Leaves (n : Node) (input : TurnInput) (way : Option Edge) : Prop :=
  ∀ e, way = some e → e ∈ Routing.outgoing input.edges n.id

/-- **What a node can do** in a scene. -/
inductive Does (n : Node) (input : TurnInput) (s : Scene) : Act → Prop
  /-- A node that does not ask the user goes on, or halts. -/
  | pass {c : Context} {w : World} {messages : List Text} {note : Option Text} {way : Option Edge} :
      n.kind? ≠ some .getUserInput → n.Stores s.context c → n.Leaves input way →
      Does n input s (.step ⟨c, s.consumed, w⟩ messages note (.along way))
  /-- An end node ends the flow. -/
  | finish {note : Option Text} : n.kind? = some .finish → Does n input s (.step s [] note .finish)
  /-- A node that does not ask the user fails; at most the world has changed. -/
  | fail {w : World} {f : Fault} : n.kind? ≠ some .getUserInput → Does n input s (.fail ⟨s.context, s.consumed, w⟩ f)
  /-- The node that the conversation waits at takes the message and goes on, or halts. -/
  | accept {answer : Text} {c : Context} {note : Option Text} {way : Option Edge} :
      n.kind? = some .getUserInput → s.context.waiting = .str n.id → input.pending s = some answer →
      n.Stores s.context c → n.Leaves input way →
      Does n input s (.step ⟨(c.addUserMessage answer).clearWaiting, true, s.world⟩ [] note (.along way))
  /-- It takes the message, but may not store it. -/
  | reject {answer : Text} {r : Refusal} :
      n.kind? = some .getUserInput → s.context.waiting = .str n.id → input.pending s = some answer →
      Does n input s (.fail ⟨s.context, true, s.world⟩ (.refused r))
  /-- It goes on waiting, as there is no message. -/
  | stay {note : Option Text} :
      n.kind? = some .getUserInput → s.context.waiting = .str n.id → input.pending s = none →
      Does n input s (.step s [] note .await)
  /-- A node that the conversation does not wait at asks, and waits. -/
  | ask {messages : List Text} {note : Option Text} :
      n.kind? = some .getUserInput → s.context.waiting ≠ .str n.id →
      Does n input s (.step (s.withContext (s.context.setWaiting (.str n.id))) messages note .await)

/-! ## Storing and leaving -/

variable {n : Node} {input : TurnInput} {s : Scene}

/-- What holds of an act that goes on from a scene with the text stored, and of a refusal, holds of storing it. -/
theorem store_rule {P : Act → Prop} {name text : Text} {next : Scene → Act} (ht : n.target? = some name)
    (go : ∀ c, n.Stores s.context c → P (next (s.withContext c)))
    (refuse : ∀ key, n.target? = some key → key ∈ Context.reservedKeys → P (.fail s (.refused (.reserved key)))) :
    P (s.store name text next) := by
  unfold Scene.store
  split
  next c hc => exact go c (.text ht hc)
  next r hr =>
    obtain ⟨hm, rfl⟩ := Context.setVariable_eq_error hr
    exact refuse name ht hm

theorem storeIf_rule {P : Act → Prop} {name : Option Text} {text : Text} {next : Scene → Act}
    (ht : n.target? = nonEmpty? name) (go : ∀ c, n.Stores s.context c → P (next (s.withContext c)))
    (refuse : ∀ key, n.target? = some key → key ∈ Context.reservedKeys → P (.fail s (.refused (.reserved key)))) :
    P (s.storeIf name text next) := by
  unfold Scene.storeIf
  split
  next name hn => exact store_rule (ht.trans hn) go refuse
  next => exact go _ .nothing

theorem leaves_edgeOf (preferred : Option EdgeType) : n.Leaves input (input.edgeOf n preferred) :=
  fun _ h => Routing.resolve_mem h

theorem leaves_findDefault : n.Leaves input (Routing.findDefault input.edges n.id) :=
  fun _ h => Routing.findDefault_mem h

theorem leaves_findByCondition (label : Text) : n.Leaves input (Routing.findByCondition input.edges n.id label) :=
  fun _ h => Routing.findByCondition_mem h

/-- A node that has changed the world at most and leaves along an edge of a type. -/
theorem does_leave (hk : n.kind? ≠ some .getUserInput) {c : Context} (hc : n.Stores s.context c) (w : World)
    (note : Text) (preferred : Option EdgeType) :
    n.Does input s (input.leave n ⟨c, s.consumed, w⟩ note preferred) :=
  .pass hk hc (leaves_edgeOf preferred)

/-! ## The node types -/

theorem does_getUserInput (hk : n.kind? = some .getUserInput) : n.Does input s (n.runGetUserInput input s) := by
  unfold runGetUserInput
  split
  next id hw =>
    by_cases hid : id = n.id
    · subst hid
      rw [if_pos rfl]
      cases hp : input.pending s with
      | none => exact .stay hk hw hp
      | some answer =>
        have ht : n.target? = nonEmpty? n.variableName := by simp [target?, hk]
        exact storeIf_rule (s := { s with consumed := true }) ht
          (fun c hc => .accept hk hw hp hc (leaves_edgeOf (some .default))) (fun _ _ _ => .reject hk hw hp)
    · rw [if_neg hid]
      exact .ask hk fun h => hid (Value.str.inj (hw.symm.trans h))
  next hw => exact .ask hk (hw n.id)

theorem does_callModel (hk : n.kind? = some .callModel) : n.Does input s (n.runCallModel input s) := by
  have hask : n.kind? ≠ some .getUserInput := by simp [hk]
  unfold runCallModel
  split
  next template output _ ho =>
    have ht : n.target? = some output := by simp [target?, hk, ho]
    split
    next answer w _ =>
      exact store_rule (s := s.withWorld w) ht (fun c hc => does_leave (s := s) hask hc w _ none) (fun _ _ _ => .fail hask)
    next reason w _ => exact does_leave hask .nothing w _ none
  next => exact does_leave hask .nothing s.world _ none

/-- A condition node goes along the edge chosen, else along a default edge. -/
theorem does_leaveCondition (hk : n.kind? ≠ some .getUserInput) (w : World) (value : Text) {chosen : Option Edge}
    (hc : n.Leaves input chosen) (note : Option Text) :
    n.Does input s (n.leaveCondition input (s.withWorld w) value chosen note) := by
  unfold leaveCondition
  cases chosen with
  | some e => exact .pass hk .nothing hc
  | none => exact .pass hk .nothing leaves_findDefault

theorem does_condition (hk : n.kind? = some .condition) : n.Does input s (n.runCondition input s) := by
  have hask : n.kind? ≠ some .getUserInput := by simp [hk]
  have hnone : n.Leaves input none := fun _ h => by cases h
  unfold runCondition
  split
  · exact .pass hask .nothing leaves_findDefault
  · dsimp only
    split
    · unfold chooseByModel
      dsimp only
      split
      · exact does_leaveCondition hask s.world _ hnone _
      · split
        next answer w _ => exact does_leaveCondition hask w _ (leaves_findByCondition _) _
        next reason w _ => exact does_leaveCondition hask w _ hnone _
    · exact does_leaveCondition hask s.world _ (leaves_findByCondition _) _

theorem does_lookup (hk : n.kind? = some .lookup) : n.Does input s (n.runLookup input s) := by
  have hask : n.kind? ≠ some .getUserInput := by simp [hk]
  have ht : n.target? = nonEmpty? n.qnaOutputVariable := by simp [target?, hk]
  unfold runLookup
  split
  · exact storeIf_rule ht (fun c hc => does_leave hask hc s.world _ _) (fun _ _ _ => .fail hask)
  · exact storeIf_rule ht (fun c hc => does_leave hask hc s.world _ _) (fun _ _ _ => .fail hask)

theorem does_wait (hk : n.kind? ≠ some .getUserInput) : n.Does input s (n.runWait input s) := by
  unfold runWait
  split
  · exact does_leave hk .nothing _ _ none
  · exact .fail hk

/-- An API node leaves in the same way once the reply is stored, and without one. -/
theorem leaveApiCall_eq (n : Node) (input : TurnInput) (s : Scene) (call : Http.CallResult) :
    n.leaveApiCall input s call =
      match call.status with
      | some _ => s.storeIf n.apiOutputVariable call.text fun s => input.leave n s call.note (some call.edgeType)
      | none => input.leave n s call.note (some call.edgeType) := by
  unfold leaveApiCall Http.CallResult.note Http.CallResult.edgeType
  cases call.success <;> rfl

theorem does_apiCall (hk : n.kind? = some .apiCall) : n.Does input s (n.runApiCall input s) := by
  have hask : n.kind? ≠ some .getUserInput := by simp [hk]
  have ht : n.target? = nonEmpty? n.apiOutputVariable := by simp [target?, hk]
  unfold runApiCall
  split
  · exact does_leave hask .nothing s.world _ _
  · split
    · exact .fail hask
    · split
      next call w _ =>
        rw [leaveApiCall_eq]
        split
        · exact storeIf_rule (s := s.withWorld w) ht (fun c hc => does_leave (s := s) hask hc w _ _)
            (fun _ _ _ => .fail hask)
        · exact does_leave hask .nothing w _ _
      next b message w _ => exact .fail hask

/-- **Every node does one of these things.** -/
theorem does_run (n : Node) (input : TurnInput) (s : Scene) : n.Does input s (n.run input s) :=
  run_rule (P := n.Does input s) (fun brief _ _ => .pass (brief.kind_ne rfl) .nothing (leaves_edgeOf none))
    does_getUserInput does_callModel does_condition does_lookup (fun hk => does_wait (by simp [hk])) .finish does_apiCall

theorem Does.of_run {act : Act} (h : n.run input s = act) : n.Does input s act := h ▸ n.does_run input s

/-! ## What every node keeps -/

/-- Storing changes variables and nothing else. -/
theorem Stores.keeps {c c' : Context} (h : n.Stores c c') :
    c'.history = c.history ∧ c'.currentNode = c.currentNode ∧ c'.waiting = c.waiting := by
  cases h with
  | nothing => exact ⟨rfl, rfl, rfl⟩
  | text _ h =>
    obtain ⟨-, rfl⟩ := Context.setVariable_eq_ok h
    exact ⟨rfl, rfl, rfl⟩

theorem Stores.unreserved {c c' : Context} (h : n.Stores c c') (hc : c.Unreserved) : c'.Unreserved := by
  cases h with
  | nothing => exact hc
  | text _ h => exact hc.setVariable h

/-- No node sets a variable under a reserved name. -/
theorem Does.unreserved {act : Act} (h : n.Does input s act) (hs : s.context.Unreserved) :
    act.scene.context.Unreserved := by
  cases h with
  | pass _ hc _ => exact hc.unreserved hs
  | accept _ _ _ hc _ => exact (hc.unreserved hs).of_vars rfl
  | finish | fail | reject | stay | ask => exact hs

/-- No node moves the conversation to another node; the walk does. -/
theorem Does.currentNode_eq {act : Act} (h : n.Does input s act) :
    act.scene.context.currentNode = s.context.currentNode := by
  cases h with
  | pass _ hc _ => exact hc.keeps.2.1
  | accept _ _ _ hc _ => exact hc.keeps.2.1
  | finish | fail | reject | stay | ask => rfl

/-- A node that fails leaves the conversation as it found it. -/
theorem Does.context_eq_of_fail {s' : Scene} {f : Fault} (h : n.Does input s (.fail s' f)) :
    s'.context = s.context := by
  cases h with
  | fail => rfl
  | reject => rfl

/-- A turn waits at nodes that ask the user only. -/
theorem Does.asks_of_await {s' : Scene} {step : Step} (h : n.Does input s ⟨.ok step, s'⟩) (hm : step.move = .await) :
    n.kind? = some .getUserInput := by
  cases h with
  | pass => exact absurd hm Move.along_ne_await
  | finish => cases hm
  | accept hk | stay hk | ask hk => exact hk

/-- A node at which the turn waits is the node that the conversation waits at. -/
theorem Does.waiting_of_await {s' : Scene} {step : Step} (h : n.Does input s ⟨.ok step, s'⟩)
    (hm : step.move = .await) : s'.context.waiting = .str n.id := by
  cases h with
  | pass => exact absurd hm Move.along_ne_await
  | finish => cases hm
  | accept => exact absurd hm Move.along_ne_await
  | stay _ hw _ => exact hw
  | ask => rfl

/-- A conversation waits where it waited, or nowhere, or at a node that asks and has been come to. -/
theorem Does.waiting_cases {act : Act} (h : n.Does input s act) :
    act.scene.context.waiting = s.context.waiting ∨ act.scene.context.waiting = .null ∨
      (n.kind? = some .getUserInput ∧ act.scene.context.waiting = .str n.id) := by
  cases h with
  | pass _ hc _ => exact .inl hc.keeps.2.2
  | finish | fail | reject | stay => exact .inl rfl
  | accept => exact .inr (.inl rfl)
  | ask hk _ => exact .inr (.inr ⟨hk, rfl⟩)

/-- A conversation that waits nowhere, or at this node, waits nowhere once the node has let the turn go on or end. -/
theorem Does.waiting_eq_null {s' : Scene} {step : Step} (h : n.Does input s ⟨.ok step, s'⟩)
    (hs : s.context.waiting = .null ∨ n.kind? = some .getUserInput) (hm : step.move ≠ .await) :
    s'.context.waiting = .null := by
  cases h with
  | pass hk hc _ => exact hc.keeps.2.2.trans (hs.resolve_right hk)
  | finish hk => exact hs.resolve_right (by simp [hk])
  | accept => rfl
  | stay | ask => exact absurd rfl hm

/-- A node from which a turn goes on follows an edge that leaves it; one that asks the user has just taken the message,
any other has left it as it was. -/
theorem Does.of_follow {s' : Scene} {step : Step} {e : Edge} (h : n.Does input s ⟨.ok step, s'⟩)
    (hm : step.move = .follow e) : e ∈ Routing.outgoing input.edges n.id ∧
      ((n.kind? ≠ some .getUserInput ∧ s'.consumed = s.consumed) ∨
        (n.kind? = some .getUserInput ∧ s.consumed = false ∧ s'.consumed = true)) := by
  cases h with
  | pass hk _ hw => exact ⟨hw e (Move.along_eq_follow.mp hm), .inl ⟨hk, rfl⟩⟩
  | accept hk _ hp _ hw =>
    exact ⟨hw e (Move.along_eq_follow.mp hm), .inr ⟨hk, (TurnInput.pending_eq_some hp).1, rfl⟩⟩
  | finish | stay | ask => cases hm

end Node

end Colloquy
