import Colloquy.Proofs.Turn.Walk

/-!
# What a turn gathers only grows

A node touches the outside world in four ways at most: not at all, by a prompt, by a sleep, by a request with its attempts
(`World.Touches`). Two types of node ask the model, and in any context a node has one prompt for it at most
(`Node.question?`); a node that has one does nothing else to the world (`Node.reaches_run`). Whatever a node does there
adds to the journal and takes nothing back, and so does everything else that a walk gathers: messages, lines of the
history, log lines, visits. So what a walk has gathered at some place is the beginning of what it has gathered at its end
(`Walk.Grows`, `grows_walk`).
-/

namespace Colloquy

/-! ## The world -/

/-- What one node can make of the world. -/
inductive World.Touches (w : World) : World → Prop
  | nothing : Touches w w
  | prompt (settings : Settings) (prompt : Text) : Touches w (Model.generate settings w prompt).2
  | sleep (p : Pause) : Touches w (w.sleep p)
  | request (request : Http.Request) (retries : Int) (own : Bool) : Touches w (w.send request retries own).2

/-- A journal is the beginning of another. -/
structure Journal.Grows (j j' : Journal) : Prop where
  prompts : j.prompts <+: j'.prompts
  sleeps : j.sleeps <+: j'.sleeps
  requests : j.requests <+: j'.requests
  closed : j.closed ≤ j'.closed

theorem Journal.Grows.refl (j : Journal) : j.Grows j :=
  ⟨List.prefix_refl _, List.prefix_refl _, List.prefix_refl _, Nat.le_refl _⟩

theorem Journal.Grows.trans {j k l : Journal} (h : j.Grows k) (h' : k.Grows l) : j.Grows l where
  prompts := h.prompts.trans h'.prompts
  sleeps := h.sleeps.trans h'.sleeps
  requests := h.requests.trans h'.requests
  closed := Nat.le_trans h.closed h'.closed

/-- Whatever a node makes of the world, the journal grows. -/
theorem World.Touches.grows {w w' : World} (h : w.Touches w') : w.journal.Grows w'.journal := by
  cases h with
  | nothing => exact .refl _
  | prompt settings prompt =>
    unfold Model.generate
    split
    · exact .refl _
    · exact ⟨List.prefix_append _ _, List.prefix_refl _, List.prefix_refl _, Nat.le_refl _⟩
  | sleep => exact ⟨List.prefix_refl _, List.prefix_append _ _, List.prefix_refl _, Nat.le_refl _⟩
  | request => exact ⟨List.prefix_refl _, List.prefix_refl _, List.prefix_append _ _, Nat.le_add_right _ _⟩

namespace Node

/-! ## Nodes -/

/-- The prompt that a node has for the model in a context, if it asks the model there. -/
def question? (n : Node) (input : TurnInput) (c : Context) : Option Text :=
  match n.kind? with
  | some .callModel =>
    (nonEmpty? n.llmPrompt).bind fun template =>
      (nonEmpty? n.outputVariable).map fun _ => n.modelPrompt input template c
  | some .condition =>
    ((nonEmpty? n.conditionVariable).bind fun name => c.get? name).bind fun v =>
      let labels := Routing.conditionLabels input.edges n.id
      if n.useLLMForDecision && !labels.isEmpty then some (choicePrompt labels (Text.fold v.shown)) else none
  | _ => none

/-- What a node makes of the world of a scene: it sends its prompt to the model, or it has none; then it may sleep, or send
a request. -/
inductive Reaches (n : Node) (input : TurnInput) (s : Scene) : World → Prop
  | nothing : n.question? input s.context = none → Reaches n input s s.world
  | asks {prompt : Text} : n.question? input s.context = some prompt →
      Reaches n input s (Model.generate input.settings s.world prompt).2
  | sleeps (p : Pause) : n.question? input s.context = none → Reaches n input s (s.world.sleep p)
  | sends (request : Http.Request) (retries : Int) (own : Bool) : n.question? input s.context = none →
      Reaches n input s (s.world.send request retries own).2

variable {n : Node} {input : TurnInput} {s : Scene}

theorem Reaches.touches {w : World} (h : n.Reaches input s w) : s.world.Touches w := by
  cases h with
  | nothing => exact .nothing
  | asks => exact .prompt _ _
  | sleeps => exact .sleep _
  | sends => exact .request _ _ _

/-- What holds of the world before a text is stored, and of the world of all that follows, holds afterwards. -/
theorem world_store {P : World → Prop} {name text : Text} {next : Scene → Act} (stays : P s.world)
    (goes : ∀ c, P (next (s.withContext c)).scene.world) : P (s.store name text next).scene.world := by
  unfold Scene.store
  split
  · exact goes _
  · exact stays

theorem world_storeIf {P : World → Prop} {name : Option Text} {text : Text} {next : Scene → Act} (stays : P s.world)
    (goes : ∀ c, P (next (s.withContext c)).scene.world) : P (s.storeIf name text next).scene.world := by
  unfold Scene.storeIf
  split
  · exact world_store stays goes
  · exact goes s.context

theorem world_leaveCondition (value : Text) (chosen : Option Edge) (note : Option Text) :
    (n.leaveCondition input s value chosen note).scene.world = s.world := by
  unfold leaveCondition
  cases chosen <;> rfl

theorem world_leaveApiCall (call : Http.CallResult) : (n.leaveApiCall input s call).scene.world = s.world := by
  rw [leaveApiCall_eq]
  split
  · exact world_storeIf (P := (· = s.world)) rfl fun _ => rfl
  · rfl

theorem reaches_getUserInput (hk : n.kind? = some .getUserInput) :
    n.Reaches input s (n.runGetUserInput input s).scene.world := by
  have still : n.Reaches input s s.world := .nothing (by simp [question?, hk])
  unfold runGetUserInput
  split
  · split
    · split
      · exact world_storeIf (s := { s with consumed := true }) still fun _ => still
      · exact still
    · exact still
  · exact still

theorem reaches_callModel (hk : n.kind? = some .callModel) :
    n.Reaches input s (n.runCallModel input s).scene.world := by
  unfold runCallModel
  split
  next template output hp ho =>
    have question : n.question? input s.context = some (n.modelPrompt input template s.context) := by
      simp [question?, hk, hp, ho]
    have asked : n.Reaches input s _ := .asks question
    split
    next hg =>
      rw [hg] at asked
      exact world_store (s := s.withWorld _) asked fun _ => asked
    next hg =>
      rw [hg] at asked
      exact asked
  next missing =>
    refine .nothing ?_
    cases hp : nonEmpty? n.llmPrompt with
    | none => simp [question?, hk, hp]
    | some template =>
      cases ho : nonEmpty? n.outputVariable with
      | none => simp [question?, hk, ho]
      | some output => exact absurd ho (missing template output hp)

theorem reaches_condition (hk : n.kind? = some .condition) :
    n.Reaches input s (n.runCondition input s).scene.world := by
  unfold runCondition
  cases hv : (nonEmpty? n.conditionVariable).bind fun name => s.context.get? name with
  | none => exact .nothing (by simp only [question?, hk, hv, Option.bind_none])
  | some v =>
    dsimp only
    by_cases asks : n.useLLMForDecision = true
    · rw [if_pos asks]
      unfold chooseByModel
      dsimp only
      by_cases unlabelled : (Routing.conditionLabels input.edges n.id).isEmpty = true
      · rw [if_pos unlabelled, world_leaveCondition]
        exact .nothing (by simp [question?, hk, hv, unlabelled])
      · have question : n.question? input s.context =
            some (choicePrompt (Routing.conditionLabels input.edges n.id) (Text.fold v.shown)) := by
          simp [question?, hk, hv, unlabelled, asks]
        have asked : n.Reaches input s _ := .asks question
        rw [if_neg unlabelled]
        split
        next hg =>
          rw [world_leaveCondition]
          rw [hg] at asked
          exact asked
        next hg =>
          rw [world_leaveCondition]
          rw [hg] at asked
          exact asked
    · rw [if_neg asks]
      unfold chooseByValue
      rw [world_leaveCondition]
      exact .nothing (by simp [question?, hk, hv, asks])

theorem reaches_lookup (hk : n.kind? = some .lookup) : n.Reaches input s (n.runLookup input s).scene.world := by
  have still : n.Reaches input s s.world := .nothing (by simp [question?, hk])
  unfold runLookup
  split
  · exact world_storeIf still fun _ => still
  · exact world_storeIf still fun _ => still

theorem reaches_wait (hk : n.kind? = some .wait) : n.Reaches input s (n.runWait input s).scene.world := by
  have unasked : n.question? input s.context = none := by simp [question?, hk]
  unfold runWait
  split
  · exact .sleeps _ unasked
  · exact .nothing unasked

/-- An API node sends the request that it makes, and leaves the world as it is if it makes none. -/
theorem world_apiCall (n : Node) (input : TurnInput) (s : Scene) :
    (∃ url request, nonEmpty? n.apiUrl = some url ∧ n.request input url s.context = .ok request ∧
      (n.runApiCall input s).scene.world = (s.world.send request n.apiRetryAttempts true).2) ∨
    (∀ url request, nonEmpty? n.apiUrl = some url → n.request input url s.context ≠ .ok request) ∧
      (n.runApiCall input s).scene.world = s.world := by
  unfold runApiCall
  cases hurl : nonEmpty? n.apiUrl with
  | none => exact .inr ⟨nofun, rfl⟩
  | some url =>
    dsimp only
    cases hr : n.request input url s.context with
    | error f =>
      refine .inr ⟨fun url' request hurl' hr' => ?_, rfl⟩
      cases hurl'
      cases hr.symm.trans hr'
    | ok request =>
      refine .inl ⟨url, request, rfl, hr, ?_⟩
      dsimp only
      split
      next hs =>
        rw [world_leaveApiCall, hs]
        rfl
      next hs =>
        rw [hs]
        rfl

theorem reaches_apiCall (hk : n.kind? = some .apiCall) : n.Reaches input s (n.runApiCall input s).scene.world := by
  have unasked : n.question? input s.context = none := by simp [question?, hk]
  rcases n.world_apiCall input s with ⟨_, request, -, -, sent⟩ | ⟨-, still⟩
  · rw [sent]
    exact .sends _ _ _ unasked
  · rw [still]
    exact .nothing unasked

theorem Brief.question?_eq_none (h : n.Brief) {c : Context} : n.question? input c = none := by
  cases hk : n.kind? with
  | none => simp [question?, hk]
  | some kind =>
    cases kind with
    | start | sendMessage | action | code | transition | agentSkill => simp [question?, hk]
    | getUserInput | callModel | condition | lookup | wait | finish | apiCall => exact absurd hk (h.kind_ne rfl)

/-- **Every node reaches the world in one of these ways.** -/
theorem reaches_run (n : Node) (input : TurnInput) (s : Scene) : n.Reaches input s (n.run input s).scene.world :=
  run_rule (P := fun act => n.Reaches input s act.scene.world) (fun brief _ _ => .nothing brief.question?_eq_none)
    reaches_getUserInput reaches_callModel reaches_condition reaches_lookup reaches_wait
    (fun hk => .nothing (by simp [question?, hk])) reaches_apiCall

/-- No node takes back a line of the history. -/
theorem Does.extends_history {act : Act} (h : n.Does input s act) :
    s.context.history <+: act.scene.context.history := by
  cases h with
  | @pass c _ _ _ _ _ hc _ =>
    have kept : c.history = s.context.history := hc.keeps.1
    exact kept ▸ List.prefix_refl c.history
  | @accept answer c _ _ _ _ _ hc _ =>
    show s.context.history <+: c.history ++ [Context.userLine answer]
    rw [hc.keeps.1]
    exact List.prefix_append _ _
  | finish | fail | reject | stay | ask => exact List.prefix_refl _

end Node

/-! ## Walks -/

/-- What a walk has gathered is the beginning of what another has. -/
structure Walk.Grows (w w' : Walk) : Prop where
  messages : w.messages <+: w'.messages
  history : w.scene.context.history <+: w'.scene.context.history
  log : w.log <+: w'.log
  visits : w.visits <+: w'.visits
  journal : w.scene.world.journal.Grows w'.scene.world.journal

namespace Walk.Grows

variable {u v w : Walk}

theorem refl (w : Walk) : w.Grows w :=
  ⟨List.prefix_refl _, List.prefix_refl _, List.prefix_refl _, List.prefix_refl _, .refl _⟩

theorem trans (h : u.Grows v) (h' : v.Grows w) : u.Grows w where
  messages := h.messages.trans h'.messages
  history := h.history.trans h'.history
  log := h.log.trans h'.log
  visits := h.visits.trans h'.visits
  journal := h.journal.trans h'.journal

/-- A log line more. -/
theorem note (w : Walk) (line : Text) : w.Grows (w.note line) where
  messages := List.prefix_refl _
  history := List.prefix_refl _
  log := List.prefix_append _ _
  visits := List.prefix_refl _
  journal := .refl _

variable {input : TurnInput} {n : Node} {s : Scene}

/-- The step of a node. -/
theorem record {step : Step} (hr : n.run input (w.arrive n) = ⟨.ok step, s⟩) : w.Grows (w.record n s step) := by
  have touches := (n.reaches_run input (w.arrive n)).touches
  have told := (Node.Does.of_run hr).extends_history
  rw [hr] at touches
  rw [record_eq]
  exact ⟨List.prefix_append _ _, told.trans (List.prefix_append _ _), List.prefix_append _ _, List.prefix_append _ _,
    touches.grows⟩

/-- A node that fails. -/
theorem failure {f : Fault} (hr : n.run input (w.arrive n) = ⟨.error f, s⟩) :
    w.Grows (({ w with scene := s } : Walk).visit n none) := by
  have touches := (n.reaches_run input (w.arrive n)).touches
  have told := (Node.Does.of_run hr).extends_history
  rw [hr] at touches
  exact ⟨List.prefix_refl _, told, List.prefix_refl _, List.prefix_append _ _, touches.grows⟩

theorem halt (n : Node) (w : Walk) : w.Grows (w.halt n) where
  messages := List.prefix_refl _
  history := List.prefix_refl _
  log := List.prefix_append _ _
  visits := List.prefix_refl _
  journal := .refl _

end Walk.Grows

/-- What a walk has gathered once, it goes on having gathered. -/
theorem Walk.tracks_grows (d : Definition) (input : TurnInput) (before : Walk) :
    Walk.Tracks d input (fun _ w => before.Grows w) (fun _ w => before.Grows w) where
  idle hw := hw
  outOfSteps _ hw := hw.trans (.note _ _)
  unknownNode _ _ hw := hw
  unusableId _ hw := hw
  failed _ _ hw hr := hw.trans (.failure hr)
  follows _ _ hw hr _ := hw.trans (.record hr)
  waits _ _ hw hr _ := hw.trans (.record hr)
  finishes _ _ hw hr _ := hw.trans (.record hr)
  halts _ _ hw hr _ := (hw.trans (.record hr)).trans (.halt _ _)

/-- **A walk takes back nothing that it has gathered.** -/
theorem grows_walk (d : Definition) (input : TurnInput) (left : Nat) (id : Text) (w : Walk) :
    w.Grows (walk d input left id w).2 :=
  (Walk.tracks_grows d input w).walk left id (.refl w)

end Colloquy
