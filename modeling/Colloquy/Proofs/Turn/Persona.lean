import Colloquy.Proofs.Turn.Prompts

/-!
# The persona is for the model alone

Two turns that differ in the persona alone are compared node by node. Their worlds stay alike in all but the prompts
that the model received (`World.Agrees`), so every node finds and does the same (`Node.agrees_run`), and both turns go
the same way (`Walk.abreast_playing`). The prompts differ at the nodes that call the model, and there in the
introduction of the persona alone, with which they begin (`Node.asks_of_callModel`). So the persona reaches the model,
and nothing else that a turn tells, sends out or leaves behind (`Interpreter.executeTurn_playing`).
-/

namespace Colloquy

/-! ## Worlds, scenes and acts -/

/-- Worlds that are alike in all but the prompts that the model received. -/
structure World.Agrees (w w' : World) : Prop where
  replies : w'.replies = w.replies
  outcomes : w'.outcomes = w.outcomes
  sleeps : w'.journal.sleeps = w.journal.sleeps
  requests : w'.journal.requests = w.journal.requests
  closed : w'.journal.closed = w.journal.closed

/-- The same conversation, in worlds that agree. -/
structure Scene.Agrees (s s' : Scene) : Prop where
  context : s'.context = s.context
  consumed : s'.consumed = s.consumed
  world : s.world.Agrees s'.world

/-- The same step or the same fault, and scenes that agree. -/
structure Act.Agrees (a a' : Act) : Prop where
  result : a'.result = a.result
  scene : a.scene.Agrees a'.scene

namespace World.Agrees

variable {w w' : World}

theorem refl (w : World) : w.Agrees w := ⟨rfl, rfl, rfl, rfl, rfl⟩

/-- The model replies to any prompt as the script says. -/
theorem generate (h : w.Agrees w') (settings : Settings) (prompt prompt' : Text) : ∃ reply v v',
    Model.generate settings w prompt = (reply, v) ∧ Model.generate settings w' prompt' = (reply, v') ∧ v.Agrees v' := by
  unfold Model.generate ask
  split
  · exact ⟨_, _, _, rfl, rfl, h⟩
  · rw [h.replies]
    exact ⟨_, _, _, rfl, rfl, rfl, h.outcomes, h.sleeps, h.requests, h.closed⟩

theorem sleep (h : w.Agrees w') (p : Pause) : (w.sleep p).Agrees (w'.sleep p) :=
  ⟨h.replies, h.outcomes, congrArg (· ++ [p]) h.sleeps, h.requests, h.closed⟩

theorem send (h : w.Agrees w') (request : Http.Request) (retries : Int) (own : Bool) : ∃ result v v',
    w.send request retries own = (result, v) ∧ w'.send request retries own = (result, v') ∧ v.Agrees v' := by
  unfold World.send
  rw [h.outcomes, h.requests, h.closed]
  exact ⟨_, _, _, rfl, rfl, h.replies, rfl, h.sleeps, rfl, rfl⟩

end World.Agrees

namespace Scene.Agrees

variable {s s' : Scene} {next next' : Scene → Act}

theorem withContext (h : s.Agrees s') (c : Context) : (s.withContext c).Agrees (s'.withContext c) :=
  ⟨rfl, h.consumed, h.world⟩

theorem withWorld (h : s.Agrees s') {w w' : World} (hw : w.Agrees w') : (s.withWorld w).Agrees (s'.withWorld w') :=
  ⟨h.context, h.consumed, hw⟩

theorem store (h : s.Agrees s') (name text : Text) (go : ∀ t t', t.Agrees t' → (next t).Agrees (next' t')) :
    (s.store name text next).Agrees (s'.store name text next') := by
  unfold Scene.store
  rw [h.context]
  split
  · exact go _ _ (h.withContext _)
  · exact ⟨rfl, h⟩

theorem storeIf (h : s.Agrees s') (name : Option Text) (text : Text)
    (go : ∀ t t', t.Agrees t' → (next t).Agrees (next' t')) :
    (s.storeIf name text next).Agrees (s'.storeIf name text next') := by
  unfold Scene.storeIf
  split
  · exact h.store _ text go
  · exact go s s' h

end Scene.Agrees

/-! ## Nodes -/

/-- The same work for another persona. -/
def TurnInput.playing (input : TurnInput) (persona : Option Text) : TurnInput := { input with persona }

theorem TurnInput.settings_playing (input : TurnInput) (persona : Option Text) :
    (input.playing persona).settings = input.settings := rfl

theorem TurnInput.edges_playing (input : TurnInput) (persona : Option Text) :
    (input.playing persona).edges = input.edges := rfl

namespace Node

variable {n : Node} {input : TurnInput} {persona : Option Text} {s s' : Scene}

theorem agrees_leave (h : s.Agrees s') (note : Text) (preferred : Option EdgeType) :
    (input.leave n s note preferred).Agrees ((input.playing persona).leave n s' note preferred) := ⟨rfl, h⟩

theorem agrees_leaveCondition (h : s.Agrees s') (value : Text) (chosen : Option Edge) (note : Option Text) :
    (n.leaveCondition input s value chosen note).Agrees
      (n.leaveCondition (input.playing persona) s' value chosen note) := by
  unfold leaveCondition
  cases chosen <;> exact ⟨rfl, h⟩

theorem agrees_leaveApiCall (h : s.Agrees s') (call : Http.CallResult) :
    (n.leaveApiCall input s call).Agrees (n.leaveApiCall (input.playing persona) s' call) := by
  rw [leaveApiCall_eq, leaveApiCall_eq]
  split
  · exact h.storeIf _ _ fun _ _ ht => agrees_leave ht _ _
  · exact agrees_leave h _ _

theorem agrees_getUserInput (h : s.Agrees s') :
    (n.runGetUserInput input s).Agrees (n.runGetUserInput (input.playing persona) s') := by
  have pending : (input.playing persona).pending s' = input.pending s := by
    unfold TurnInput.pending
    rw [h.consumed]
    rfl
  have asks : (runGetUserInput.askUser n s).Agrees (runGetUserInput.askUser n s') := by
    unfold runGetUserInput.askUser
    rw [h.context]
    exact ⟨rfl, h.withContext _⟩
  unfold runGetUserInput
  rw [h.context, pending]
  split
  · split
    · split
      · have taken : Scene.Agrees { s with consumed := true } { s' with consumed := true } := ⟨h.context, rfl, h.world⟩
        refine taken.storeIf _ _ fun t t' ht => ?_
        rw [ht.context]
        exact agrees_leave (ht.withContext _) _ _
      · exact ⟨rfl, h⟩
    · exact asks
  · exact asks

theorem agrees_callModel (h : s.Agrees s') :
    (n.runCallModel input s).Agrees (n.runCallModel (input.playing persona) s') := by
  unfold runCallModel
  cases nonEmpty? n.llmPrompt with
  | none => exact agrees_leave h _ _
  | some template =>
    cases nonEmpty? n.outputVariable with
    | none => exact agrees_leave h _ _
    | some output =>
      dsimp only
      -- the prompts may differ, but not what comes back
      obtain ⟨reply, w, w', hg, hg', worlds⟩ := h.world.generate input.settings
        (n.modelPrompt input template s.context) (n.modelPrompt (input.playing persona) template s'.context)
      rw [TurnInput.settings_playing, hg, hg']
      cases reply with
      | ok answer => exact (h.withWorld worlds).store _ _ fun _ _ ht => agrees_leave ht _ _
      | error reason => exact agrees_leave (h.withWorld worlds) _ _

theorem agrees_condition (h : s.Agrees s') :
    (n.runCondition input s).Agrees (n.runCondition (input.playing persona) s') := by
  unfold runCondition
  rw [h.context]
  split
  · exact ⟨rfl, h⟩
  next v _ =>
    dsimp only
    split
    · unfold chooseByModel
      rw [TurnInput.edges_playing, TurnInput.settings_playing]
      dsimp only
      split
      · exact agrees_leaveCondition h _ _ _
      · obtain ⟨reply, w, w', hg, hg', worlds⟩ := h.world.generate input.settings
          (choicePrompt (Routing.conditionLabels input.edges n.id) (Text.fold v.shown))
          (choicePrompt (Routing.conditionLabels input.edges n.id) (Text.fold v.shown))
        rw [hg, hg']
        cases reply with
        | ok answer => exact agrees_leaveCondition (h.withWorld worlds) _ _ _
        | error reason => exact agrees_leaveCondition (h.withWorld worlds) _ _ _
    · exact agrees_leaveCondition h _ _ _

theorem agrees_lookup (h : s.Agrees s') :
    (n.runLookup input s).Agrees (n.runLookup (input.playing persona) s') := by
  have query : n.lookupQuery (input.playing persona) s' = n.lookupQuery input s := by
    unfold lookupQuery
    rw [h.context]
    rfl
  unfold runLookup
  rw [query]
  dsimp only [TurnInput.playing]
  split
  · exact h.storeIf _ _ fun _ _ ht => agrees_leave ht _ _
  · exact h.storeIf _ _ fun _ _ ht => agrees_leave ht _ _

theorem agrees_wait (h : s.Agrees s') : (n.runWait input s).Agrees (n.runWait (input.playing persona) s') := by
  unfold runWait
  dsimp only [waitMs, TurnInput.playing]
  split
  · exact agrees_leave (h.withWorld (h.world.sleep _)) _ _
  · exact ⟨rfl, h⟩

theorem agrees_apiCall (h : s.Agrees s') :
    (n.runApiCall input s).Agrees (n.runApiCall (input.playing persona) s') := by
  have request (url : Text) : n.request (input.playing persona) url s'.context = n.request input url s.context := by
    rw [h.context]
    rfl
  unfold runApiCall
  split
  · exact agrees_leave h _ _
  · rw [request]
    split
    · exact ⟨rfl, h⟩
    next request _ =>
      obtain ⟨outcome, w, w', hs, hs', worlds⟩ := h.world.send request n.apiRetryAttempts true
      rw [hs, hs']
      cases outcome with
      | ok call => exact agrees_leaveApiCall (h.withWorld worlds) call
      | error breakdown => exact ⟨rfl, h.withWorld worlds⟩

/-- **A node does the same for any persona**, in scenes that agree. -/
theorem agrees_run (n : Node) (input : TurnInput) (persona : Option Text) (h : s.Agrees s') :
    (n.run input s).Agrees (n.run (input.playing persona) s') := by
  unfold run
  cases n.kind? with
  | none => exact agrees_leave h _ _
  | some kind =>
    cases kind with
    | start => exact ⟨rfl, h⟩
    | sendMessage =>
      dsimp only [runSendMessage]
      rw [h.context]
      exact ⟨rfl, h⟩
    | getUserInput => exact agrees_getUserInput h
    | callModel => exact agrees_callModel h
    | condition => exact agrees_condition h
    | lookup => exact agrees_lookup h
    | wait => exact agrees_wait h
    | finish =>
      dsimp only [runFinish]
      rw [h.context]
      exact ⟨rfl, h⟩
    | apiCall => exact agrees_apiCall h
    | action | code | transition | agentSkill => exact agrees_leave h _ _

/-! ## Prompts -/

/-- The introduction of a persona, with which a prompt begins. -/
def preamble (persona : Option Text) : Text :=
  match nonEmpty? persona with
  | some p => "You are acting as the following persona:\n" ++ p ++ "\n\n"
  | none => []

theorem modelPrompt_playing (n : Node) (input : TurnInput) (persona : Option Text) (template : Text) (c : Context) :
    n.modelPrompt (input.playing persona) template c =
      preamble persona ++ n.modelPrompt (input.playing none) template c := by
  -- the part of the persona, if there is one, comes before another
  obtain ⟨part, parts, rest⟩ : ∃ part parts,
      n.knowledgePart input.knowledge ++ [Template.render c template] = part :: parts :=
    List.exists_cons_of_ne_nil (List.append_ne_nil_of_right_ne_nil _ (List.cons_ne_nil _ _))
  have introduced (persona : Option Text) : n.modelPrompt (input.playing persona) template c =
      Text.joinWith "\n\n" (personaPart persona ++ part :: parts) := by
    rw [← rest, ← List.append_assoc]
    rfl
  rw [introduced, introduced]
  unfold personaPart preamble
  cases nonEmpty? persona with
  | none => rfl
  | some p => exact List.intercalate_cons_cons

variable {c : Context}

theorem question?_of_callModel (hk : n.kind? = some .callModel) (persona : Option Text) :
    n.question? (input.playing persona) c = (n.question? (input.playing none) c).map (preamble persona ++ ·) := by
  unfold question?
  rw [hk]
  dsimp only
  cases nonEmpty? n.llmPrompt with
  | none => rfl
  | some template =>
    cases nonEmpty? n.outputVariable with
    | none => rfl
    | some output => exact congrArg some (n.modelPrompt_playing input persona template c)

/-- A node that calls the model asks the same for any persona, after the introduction of it. -/
theorem asks_of_callModel (hk : n.kind? = some .callModel) (persona : Option Text) :
    n.asks (input.playing persona) c = (n.asks (input.playing none) c).map (preamble persona ++ ·) := by
  unfold asks
  rw [question?_of_callModel hk, TurnInput.settings_playing, TurnInput.settings_playing]
  split
  · rfl
  · cases n.question? (input.playing none) c <;> rfl

/-- A node that does not call the model asks the same for any persona. -/
theorem asks_of_not_callModel (hk : n.kind? ≠ some .callModel) (persona : Option Text) :
    n.asks (input.playing persona) c = n.asks input c := by
  have same : n.question? (input.playing persona) c = n.question? input c := by
    unfold question?
    split
    next call => exact absurd call hk
    · rfl
    · rfl
  unfold asks
  rw [same, TurnInput.settings_playing]

end Node

/-- Two encounters of the same node in the same conversation, for two personas. The model is asked the same, but that a
node that calls the model introduces the persona first. -/
structure Encounter.Recast (persona persona' : Option Text) (e e' : Encounter) : Prop where
  node : e'.node = e.node
  context : e'.scene.context = e.scene.context
  same : e.node.kind? ≠ some .callModel → e'.prompts = e.prompts
  introduced : e.node.kind? = some .callModel → ∃ bare : List Text,
    e.prompts = bare.map (Node.preamble persona ++ ·) ∧ e'.prompts = bare.map (Node.preamble persona' ++ ·)

/-! ## Walks -/

/-- Walks that have gathered the same, in scenes that agree. -/
structure Walk.Agrees (w w' : Walk) : Prop where
  scene : w.scene.Agrees w'.scene
  messages : w'.messages = w.messages
  log : w'.log = w.log
  visits : w'.visits = w.visits

namespace Walk.Agrees

variable {w w' : Walk} {n : Node} {s s' : Scene} {input : TurnInput}

theorem refl (w : Walk) : w.Agrees w := ⟨⟨rfl, rfl, .refl _⟩, rfl, rfl, rfl⟩

theorem arrive (h : w.Agrees w') (n : Node) : (w.arrive n).Agrees (w'.arrive n) := by
  unfold Walk.arrive
  rw [h.scene.context]
  exact h.scene.withContext _

theorem note (h : w.Agrees w') (line : Text) : (w.note line).Agrees (w'.note line) :=
  ⟨h.scene, h.messages, congrArg (· ++ [line]) h.log, h.visits⟩

theorem record (h : w.Agrees w') (scenes : s.Agrees s') (n : Node) (step : Step) :
    (w.record n s step).Agrees (w'.record n s' step) := by
  rw [record_eq, record_eq, h.messages, h.log, h.visits, scenes.context]
  exact ⟨scenes.withContext _, rfl, rfl, rfl⟩

theorem failure (h : w.Agrees w') (scenes : s.Agrees s') (n : Node) :
    (({ w with scene := s } : Walk).visit n none).Agrees (({ w' with scene := s' } : Walk).visit n none) :=
  ⟨scenes, h.messages, h.log, congrArg (· ++ [(⟨n, none⟩ : Visit)]) h.visits⟩

theorem halt (h : w.Agrees w') (n : Node) : (w.halt n).Agrees (w'.halt n) := by
  unfold Walk.halt
  dsimp only
  rw [show (w'.noteAt n _).scene.context = _ from h.scene.context]
  exact ⟨h.scene.withContext _, h.messages, (h.note _).log, h.visits⟩

end Walk.Agrees

/-- **Walks for two personas go the same way.** -/
theorem Walk.abreast_playing (input : TurnInput) (persona : Option Text) :
    Walk.Abreast input (input.playing persona) Walk.Agrees where
  maxSteps := rfl
  acts {w w'} n h := by
    obtain ⟨result, scenes⟩ := n.agrees_run input persona (h.arrive n)
    exact ⟨(n.run input (w.arrive n)).result, _, _, rfl, congrArg (Act.mk · _) result, h.record scenes n,
      h.failure scenes n⟩
  note line h := h.note line
  halt n h := h.halt n

/-- The nodes that two such walks pass meet the same conversation. -/
theorem Walk.Agrees.encounters {w w' : Walk} (h : w.Agrees w') (input : TurnInput) (persona : Option Text)
    (nodes : List Node) : List.Forall₂ (Encounter.Recast input.persona persona)
      (Walk.encounters input w nodes) (Walk.encounters (input.playing persona) w' nodes) := by
  induction nodes generalizing w w' with
  | nil => exact .nil
  | cons n rest ih =>
    have context := (h.arrive n).context
    refine .cons ⟨rfl, context, fun hk => ?_, fun hk => ?_⟩ (ih ((Walk.abreast_playing input persona).pass n h))
    · rw [Encounter.prompts_eq, Encounter.prompts_eq]
      dsimp only
      rw [context]
      exact Node.asks_of_not_callModel hk persona
    · refine ⟨n.asks (input.playing none) (w.arrive n).context, ?_, ?_⟩
      · rw [Encounter.prompts_eq]
        show n.asks (input.playing input.persona) _ = _
        exact Node.asks_of_callModel hk input.persona
      · rw [Encounter.prompts_eq]
        dsimp only
        rw [context]
        exact Node.asks_of_callModel hk persona

/-! ## Turns -/

/-- The same call for another persona. -/
def TurnCall.playing (call : TurnCall) (persona : Option Text) : TurnCall := { call with persona }

/-- Turns on equal calls but for the persona: they tell and do the same, and leave worlds that agree. -/
structure Turn.Agrees (t t' : Turn) : Prop where
  result : t'.result = t.result
  interpreter : t'.interpreter = t.interpreter
  visits : t'.visits = t.visits
  ending : t'.ending = t.ending
  world : t.world.Agrees t'.world

/-- As many prompts are received in encounters that are recast. -/
theorem length_flatMap_prompts {persona persona' : Option Text} {es es' : List Encounter}
    (h : List.Forall₂ (Encounter.Recast persona persona') es es') :
    (es'.flatMap Encounter.prompts).length = (es.flatMap Encounter.prompts).length := by
  induction h with
  | nil => rfl
  | @cons e e' es es' recast _ ih =>
    have one : e'.prompts.length = e.prompts.length := by
      by_cases hk : e.node.kind? = some .callModel
      · obtain ⟨bare, prompts, prompts'⟩ := recast.introduced hk
        rw [prompts, prompts', List.length_map, List.length_map]
      · rw [recast.same hk]
    rw [List.flatMap_cons, List.flatMap_cons, List.length_append, List.length_append, one, ih]

namespace Interpreter

variable (it : Interpreter) (c : Context) (items : List KnowledgeItem) (call : TurnCall) (persona : Option Text)
  (w : World)

theorem outcome_agrees :
    Walk.EndAlike Walk.Agrees (it.outcome c items call w) (it.outcome c items (call.playing persona) w) := by
  unfold outcome
  rw [show it.entry c (call.playing persona).startNode = it.entry c call.startNode from rfl]
  split
  · exact (Walk.abreast_playing (it.input items call) persona).walkFrom it.definition _ (.refl _)
  · exact ⟨rfl, .refl _⟩

theorem settle_eq_of_agrees (ending : Ending) {done done' : Walk} (h : done.Agrees done') :
    settle ending done' = settle ending done := by
  unfold settle
  rw [h.scene.context, h.messages, h.log]

theorem take_agrees : (it.take c items call w).Agrees (it.take c items (call.playing persona) w) := by
  obtain ⟨ending, done⟩ := it.outcome_agrees c items call persona w
  refine ⟨?_, rfl, done.visits, ending, done.scene.world⟩
  unfold take
  dsimp only
  rw [ending]
  exact settle_eq_of_agrees _ done

theorem encounters_recast : List.Forall₂ (Encounter.Recast call.persona persona) (it.encounters c items call w)
    (it.encounters c items (call.playing persona) w) := by
  unfold encounters
  rw [(it.take_agrees c items call persona w).visits]
  exact (Walk.Agrees.refl (it.opening c w)).encounters (it.input items call) persona _

/-- **The persona reaches the prompts of model nodes and nothing else.** Two turns that differ in the persona alone are
refused alike, or both taken. Then they have the same result and come by the same nodes to the same end, and they leave
worlds that agree: equal requests, sleeps and scripts. The model receives as many prompts in both, which are those of
the nodes in order; and node by node the prompts are the same, but that a node that calls the model introduces the
persona before the same prompt. -/
theorem executeTurn_playing (it : Interpreter) (call : TurnCall) (persona : Option Text) (w : World) :
    (∃ r, it.executeTurn call w = .error r ∧ it.executeTurn (call.playing persona) w = .error r) ∨
    ∃ c items t t', call.context.read = .ok c ∧ call.knowledge.mapM GivenItem.read = .ok items ∧
      it.executeTurn call w = .ok t ∧ it.executeTurn (call.playing persona) w = .ok t' ∧ t.Agrees t' ∧
      t'.world.journal.prompts.length = t.world.journal.prompts.length ∧
      t.world.journal.prompts = w.journal.prompts ++ (it.encounters c items call w).flatMap Encounter.prompts ∧
      t'.world.journal.prompts =
        w.journal.prompts ++ (it.encounters c items (call.playing persona) w).flatMap Encounter.prompts ∧
      List.Forall₂ (Encounter.Recast call.persona persona) (it.encounters c items call w)
        (it.encounters c items (call.playing persona) w) := by
  unfold executeTurn
  rw [show (call.playing persona).context = call.context from rfl,
    show (call.playing persona).knowledge = call.knowledge from rfl]
  cases call.context.read with
  | error e => exact .inl ⟨_, rfl, rfl⟩
  | ok c =>
    cases call.knowledge.mapM GivenItem.read with
    | error issues => exact .inl ⟨_, rfl, rfl⟩
    | ok items =>
      have recast := it.encounters_recast c items call persona w
      refine .inr ⟨c, items, _, _, rfl, rfl, rfl, rfl, it.take_agrees c items call persona w, ?_,
        it.prompts_take c items call w, it.prompts_take c items (call.playing persona) w, recast⟩
      rw [prompts_take, prompts_take, List.length_append, List.length_append, length_flatMap_prompts recast]

end Interpreter

end Colloquy
