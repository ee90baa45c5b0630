import Colloquy.Proofs.Flow.Bare
import Colloquy.Proofs.Flow.Labels
import Colloquy.Proofs.Turn.Encounter
import Colloquy.Proofs.Turn.Halting

/-!
# Decisions

A condition node sends a turn along the edge whose label is the value of its variable, and it never fails
(`Interpreter.takes_exactWay`). With the model asked for a label instead, it sends the turn where it would send it if the
variable held the model's answer; when the call fails, where it would send it for a value that no edge has
(`Interpreter.takes_exactWay_of_answer`).

A node goes along an edge or halts; what this means for the rest of the turn is said once, in `Interpreter.takes_of_move`.
-/

namespace Colloquy

/-! ## Ways of a turn -/

/-- From here the turn takes a way: it follows the edge, and goes on at its target; or there is none, and it halts at this node
without an error. -/
def Turn.Takes (t : Turn) (d : Definition) (e : Encounter) (after : List Encounter) : Option Edge → Prop
  | some edge => e.visit.move = some (.follow edge) ∧ t.ending.GoesOn d edge.target after
  | none => e.visit.move = some .halt ∧ after = [] ∧ t.result.status = .halted ∧ t.result.error = none

namespace Interpreter

variable {it : Interpreter} {c : Context} {items : List KnowledgeItem} {call : TurnCall} {w : World} {e : Encounter}
  {before after : List Encounter}

/-- A turn comes to no node after one that had no way to go. -/
theorem eq_nil_of_halt (h : it.encounters c items call w = before ++ e :: after) (hm : e.visit.move = some .halt) :
    after = [] := by
  cases after with
  | nil => rfl
  | cons next rest =>
    have adjacent : [e, next] <:+: it.encounters c items call w := h ▸ ⟨before, rest, by simp⟩
    obtain ⟨edge, -, followed, -⟩ := continues_of_adjacent adjacent
    cases hm.symm.trans followed

/-- **A turn takes the way that a node goes.** -/
theorem takes_of_move (h : it.encounters c items call w = before ++ e :: after) {way : Option Edge}
    (hm : e.visit.move = some (.along way)) : (it.take c items call w).Takes it.definition e after way := by
  cases way with
  | some edge => exact ⟨hm, goesOn_of_follow h hm⟩
  | none =>
    have last := eq_nil_of_halt h hm
    have halted : (it.take c items call w).ending = .halted := after_of_last (last ▸ h) hm
    have error := settle_error (it.outcome c items call w).1 (it.outcome c items call w).2
    exact ⟨hm, last, settle_status_eq_halted.mpr halted, error.trans (congrArg Ending.error? halted)⟩

end Interpreter

/-! ## Condition nodes -/

/-- The act does nothing but send the turn along this way, and leaves this scene behind. -/
def Act.GoesAlong (act : Act) (s : Scene) (way : Option Edge) : Prop := ∃ note, act = .step s [] note (.along way)

namespace Node

/-- The value of a condition node's variable, unless it is unset or null. -/
def conditionValue? (n : Node) (c : Context) : Option Value :=
  (nonEmpty? n.conditionVariable).bind fun name => c.get? name

/-- The node, deciding by the value itself. -/
def exactly (n : Node) : Node := { n with useLLMForDecision := false }

variable {n : Node} {input : TurnInput} {s : Scene}

theorem leaveCondition_goesAlong (n : Node) (input : TurnInput) (s : Scene) (value : Text) (chosen : Option Edge)
    (note : Option Text) : (n.leaveCondition input s value chosen note).GoesAlong s
      (chosen.or (Routing.firstDefault input.edges n.id)) := by
  unfold leaveCondition
  cases chosen with
  | some e => exact ⟨_, rfl⟩
  | none => exact ⟨_, by rw [Routing.findDefault_eq, Option.none_or]⟩

/-- **A node that decides by the value goes the way of the value.** -/
theorem run_exactly (hk : n.kind? = some .condition) (byValue : n.useLLMForDecision = false) :
    (n.run input s).GoesAlong s (Routing.exactWay input.edges n.id ((n.conditionValue? s.context).map Value.shown)) := by
  rw [run_condition hk]
  unfold runCondition
  cases hv : n.conditionValue? s.context with
  | none =>
    unfold conditionValue? at hv
    rw [hv, Routing.findDefault_eq]
    exact ⟨_, rfl⟩
  | some v =>
    unfold conditionValue? at hv
    rw [hv]
    dsimp only
    rw [if_neg (by rw [byValue]; exact Bool.false_ne_true), chooseByValue, Routing.findByCondition_eq, Text.fold_fold]
    exact n.leaveCondition_goesAlong ..

theorem run_by_model (hk : n.kind? = some .condition) (asks : n.useLLMForDecision = true) {v : Value}
    (hv : n.conditionValue? s.context = some v) : n.run input s = n.chooseByModel input s (Text.fold v.shown) := by
  rw [run_condition hk]
  unfold conditionValue? at hv
  unfold runCondition
  rw [hv]
  exact if_pos asks

variable {value : Text}

/-- Without labels the model is not asked. -/
theorem chooseByModel_unlabelled (h : Routing.conditionLabels input.edges n.id = []) :
    (n.chooseByModel input s value).GoesAlong s (Routing.firstDefault input.edges n.id) := by
  unfold chooseByModel
  dsimp only
  rw [if_pos (List.isEmpty_iff.mpr h)]
  exact n.leaveCondition_goesAlong ..

/-- With labels the model is asked, and its reply goes its own way. -/
theorem chooseByModel_labelled (h : Routing.conditionLabels input.edges n.id ≠ []) {reply : Except Text Text} {w : World}
    (hg : Model.generate input.settings s.world (choicePrompt (Routing.conditionLabels input.edges n.id) value)
      = (reply, w)) :
    (n.chooseByModel input s value).GoesAlong (s.withWorld w) (Routing.replyWay input.edges n.id reply) := by
  unfold chooseByModel
  dsimp only
  rw [if_neg fun empty => h (List.isEmpty_iff.mp empty), hg]
  cases reply with
  | error reason => exact n.leaveCondition_goesAlong ..
  | ok answer =>
    dsimp only
    rw [Routing.findByCondition_eq, Text.fold_fold]
    exact n.leaveCondition_goesAlong ..

end Node

/-! ## Encounters with condition nodes -/

namespace Encounter

variable {e : Encounter} {s : Scene} {way : Option Edge}

theorem move_of_goesAlong (h : e.act.GoesAlong s way) : e.visit.move = some (.along way) := by
  obtain ⟨note, act⟩ := h
  rw [visit, act]
  rfl

theorem scene_of_goesAlong (h : e.act.GoesAlong s way) : e.act.scene = s := by
  obtain ⟨note, act⟩ := h
  rw [act]
  rfl

/-- The node goes where it would go without the model, if its variable had such a value. -/
def AsExact (e : Encounter) (P : Value → Prop) : Prop :=
  ∀ s v, e.node.conditionValue? s.context = some v → P v →
    e.visit.move = (Encounter.visit ⟨e.node.exactly, e.input, s⟩).move

theorem asExact_of_exactWay (hk : e.node.kind? = some .condition) {P : Value → Prop}
    (hm : e.visit.move = some (.along way))
    (same : ∀ v, P v → Routing.exactWay e.input.edges e.node.id (some v.shown) = way) : e.AsExact P := by
  intro s v hv hp
  have exactly : (Encounter.act ⟨e.node.exactly, e.input, s⟩).GoesAlong s
      (Routing.exactWay e.input.edges e.node.id ((e.node.conditionValue? s.context).map Value.shown)) :=
    Node.run_exactly (n := e.node.exactly) hk rfl
  rw [hm, move_of_goesAlong exactly, hv, Option.map_some, same v hp]

end Encounter

/-- What the model replies when it is asked for the label of a value, and the world after that. -/
def Encounter.replyFor (e : Encounter) (v : Value) : Except Text Text × World :=
  Model.generate e.input.settings e.scene.world
    (Node.choicePrompt (Routing.conditionLabels e.input.edges e.node.id) (Text.fold v.shown))

/-- From here the turn goes as the model's reply says: when the call failed, along a default edge, as for a value that no edge
has; and with an answer along the edge of the answer, as for a variable with this value, and never along another edge if it is
one of the labels that the model was offered. -/
def Turn.TakesReply (t : Turn) (d : Definition) (e : Encounter) (after : List Encounter) : Except Text Text → Prop
  | .error _ => t.Takes d e after (Routing.firstDefault d.edges e.node.id) ∧
      e.AsExact fun v => Routing.firstLabelled d.edges e.node.id (Text.fold v.shown) = none
  | .ok answer => t.Takes d e after (Routing.exactWay d.edges e.node.id (some answer)) ∧
      e.AsExact (· = .str answer) ∧
      (answer ∈ Routing.conditionLabels d.edges e.node.id →
        ∃ edge, Routing.firstLabelled d.edges e.node.id (Text.fold answer) = some edge ∧ t.Takes d e after (some edge))

/-- A fresh conversation with one variable. -/
def Context.holding (name text : Text) : Context := { empty with vars := [(name, .str text)] }

/-- A turn on a context, without a message. -/
def TurnCall.wordless (c : Context) : TurnCall := ⟨.loaded c, none, none, [], none⟩

namespace Interpreter

section

variable {it : Interpreter} {c : Context} {items : List KnowledgeItem} {call : TurnCall} {w : World} {e : Encounter}
  {before after : List Encounter} {s : Scene}

theorem input_of_split (h : it.encounters c items call w = before ++ e :: after) : e.input = it.input items call :=
  input_of_mem_encounters (h ▸ List.mem_append_right _ List.mem_cons_self)

theorem takesReply_of_goesAlong (h : it.encounters c items call w = before ++ e :: after)
    (hk : e.node.kind? = some .condition) {reply : Except Text Text}
    (goes : e.act.GoesAlong s (Routing.replyWay it.definition.edges e.node.id reply)) :
    (it.take c items call w).TakesReply it.definition e after reply := by
  have moved := Encounter.move_of_goesAlong goes
  cases reply with
  | error reason =>
    refine ⟨takes_of_move h moved, Encounter.asExact_of_exactWay hk moved fun v unlabelled => ?_⟩
    rw [input_of_split h]
    exact Routing.exactWay_of_firstLabelled_eq_none unlabelled
  | ok answer =>
    refine ⟨takes_of_move h moved, Encounter.asExact_of_exactWay hk moved fun v same => ?_, fun offered => ?_⟩
    · rw [input_of_split h, same]
      rfl
    · obtain ⟨edge, first⟩ := Routing.exists_firstLabelled offered
      have way : Routing.replyWay it.definition.edges e.node.id (.ok answer) = some edge :=
        Routing.exactWay_of_firstLabelled first
      rw [way] at moved
      exact ⟨edge, first, takes_of_move h moved⟩

end

variable {it : Interpreter} {call : TurnCall} {w : World} {t : Turn}

/-- **A condition goes the way of its value.** At every condition node that decides by itself, a turn takes the first edge whose
condition, folded, is not blank and is the folded value of the node's variable; without such an edge, or such a value, it takes
the first edge that is a default edge; and without one it halts, with no error. -/
theorem takes_exactWay (ht : it.executeTurn call w = .ok t) : ∃ c items, call.context.read = .ok c ∧
    call.knowledge.mapM GivenItem.read = .ok items ∧
    t.visits = (it.encounters c items call w).map Encounter.visit ∧
    ∀ before e after, it.encounters c items call w = before ++ e :: after →
      e.node.kind? = some .condition → e.node.useLLMForDecision = false →
      t.Takes it.definition e after (Routing.exactWay it.definition.edges e.node.id
        ((e.node.conditionValue? e.scene.context).map Value.shown)) := by
  obtain ⟨c, items, hc, hitems, rfl⟩ := executeTurn_eq_ok_iff.mp ht
  refine ⟨c, items, hc, hitems, it.visits_take c items call w, fun before e after split hk byValue => ?_⟩
  have goes : e.act.GoesAlong e.scene _ := Node.run_exactly hk byValue
  rw [input_of_split split] at goes
  exact takes_of_move split (Encounter.move_of_goesAlong goes)

/-- The value is written in another way than the label, and the edge with the label is taken for it. -/
theorem detour_takes_labelled : ∃ (t : Turn) (e : Encounter) (after : List Encounter) (edge : Edge),
    (make .detour .default).executeTurn (.wordless (.holding "answer" " YES")) ⟨[], [], .empty⟩ = .ok t ∧
    e.node.id = "c" ∧ edge.condition = some "yes" ∧ t.Takes .detour e after (some edge) := by
  obtain ⟨t, ht⟩ : ∃ t, (make .detour .default).executeTurn (.wordless (.holding "answer" " YES"))
      ⟨[], [], .empty⟩ = .ok t := ⟨_, rfl⟩
  obtain ⟨start, e, after, edge, split, here, hk, byValue, way, label⟩ :
      ∃ (start e : Encounter) (after : List Encounter) (edge : Edge),
        (make .detour .default).encounters (.holding "answer" " YES") [] (.wordless (.holding "answer" " YES"))
          ⟨[], [], .empty⟩ = [start] ++ e :: after ∧ e.node.id = "c" ∧ e.node.kind? = some .condition ∧
        e.node.useLLMForDecision = false ∧ Routing.exactWay Definition.detour.edges e.node.id
          ((e.node.conditionValue? e.scene.context).map Value.shown) = some edge ∧ edge.condition = some "yes" :=
    ⟨_, _, _, _, rfl, rfl, rfl, rfl, rfl, rfl⟩
  obtain ⟨c, items, hc, hitems, -, takes⟩ := takes_exactWay ht
  cases hc
  cases hitems
  have taken := takes [start] e after split hk byValue
  exact ⟨t, e, after, edge, ht, here, label, way ▸ taken⟩

/-- **The model's decision goes the way of a value.** At every condition node that lets the model decide on the value of its
variable, the model is asked once if there are labels to choose from, and the turn goes as its reply says; without a label the
model is not asked, and the turn takes a default edge or halts. -/
theorem takes_exactWay_of_answer (ht : it.executeTurn call w = .ok t) : ∃ c items, call.context.read = .ok c ∧
    call.knowledge.mapM GivenItem.read = .ok items ∧
    t.visits = (it.encounters c items call w).map Encounter.visit ∧
    ∀ before e after, it.encounters c items call w = before ++ e :: after →
      e.node.kind? = some .condition → e.node.useLLMForDecision = true →
      ∀ v, e.node.conditionValue? e.scene.context = some v →
        (Routing.conditionLabels it.definition.edges e.node.id = [] → e.act.scene.world = e.scene.world ∧
          t.Takes it.definition e after (Routing.firstDefault it.definition.edges e.node.id)) ∧
        (Routing.conditionLabels it.definition.edges e.node.id ≠ [] →
          e.act.scene.world = (e.replyFor v).2 ∧ t.TakesReply it.definition e after (e.replyFor v).1) := by
  obtain ⟨c, items, hc, hitems, rfl⟩ := executeTurn_eq_ok_iff.mp ht
  refine ⟨c, items, hc, hitems, it.visits_take c items call w, fun before e after split hk asks v hv => ?_⟩
  have act : e.act = e.node.chooseByModel (it.input items call) e.scene (Text.fold v.shown) := by
    rw [← input_of_split split]
    exact Node.run_by_model hk asks hv
  constructor
  · intro unlabelled
    have goes : e.act.GoesAlong e.scene (Routing.firstDefault it.definition.edges e.node.id) := by
      rw [act]
      exact Node.chooseByModel_unlabelled unlabelled
    exact ⟨congrArg Scene.world (Encounter.scene_of_goesAlong goes), takes_of_move split (Encounter.move_of_goesAlong goes)⟩
  · intro labelled
    rcases hg : e.replyFor v with ⟨reply, world⟩
    have goes : e.act.GoesAlong (e.scene.withWorld world) (Routing.replyWay it.definition.edges e.node.id reply) := by
      rw [Encounter.replyFor, input_of_split split] at hg
      rw [act]
      exact Node.chooseByModel_labelled labelled hg
    exact ⟨congrArg Scene.world (Encounter.scene_of_goesAlong goes), takesReply_of_goesAlong split hk goes⟩

/-- The model is offered a label and answers with it, and the turn takes the edge of the label, although a default edge comes
before it. -/
theorem sorter_takes_offered : ∃ (t : Turn) (e : Encounter) (after : List Encounter) (edge : Edge),
    (make .sorter .default).executeTurn (.wordless (.holding "said" "You are great"))
      ⟨[.answer "Praise"], [], .empty⟩ = .ok t ∧ e.node.id = "c" ∧
    e.act.scene.world.replies = [] ∧ edge.condition = some "Praise" ∧ t.Takes .sorter e after (some edge) ∧
    e.AsExact (· = .str "Praise") := by
  obtain ⟨t, ht⟩ : ∃ t, (make .sorter .default).executeTurn (.wordless (.holding "said" "You are great"))
      ⟨[.answer "Praise"], [], .empty⟩ = .ok t := ⟨_, rfl⟩
  obtain ⟨start, e, after, split, here, hk, asks, value, unasked⟩ : ∃ (start e : Encounter) (after : List Encounter),
      (make .sorter .default).encounters (.holding "said" "You are great") [] (.wordless (.holding "said" "You are great"))
        ⟨[.answer "Praise"], [], .empty⟩ = [start] ++ e :: after ∧ e.node.id = "c" ∧ e.node.kind? = some .condition ∧
      e.node.useLLMForDecision = true ∧ e.node.conditionValue? e.scene.context = some (.str "You are great") ∧
      e.scene.world = ⟨[.answer "Praise"], [], .empty⟩ := ⟨_, _, _, rfl, rfl, rfl, rfl, rfl, rfl⟩
  have offered : ("Praise" : Text) ∈ Routing.conditionLabels Definition.sorter.edges e.node.id := by
    rw [here]
    decide +kernel
  have answered : (e.replyFor (.str "You are great")).1 = .ok "Praise" ∧
      (e.replyFor (.str "You are great")).2.replies = [] := by
    unfold Encounter.replyFor Model.generate
    rw [input_of_split split, if_neg (by decide +kernel), unasked]
    exact ⟨rfl, rfl⟩
  obtain ⟨c, items, hc, hitems, -, takes⟩ := takes_exactWay_of_answer ht
  cases hc
  cases hitems
  obtain ⟨-, labelled⟩ := takes [start] e after split hk asks _ value
  obtain ⟨left, reply⟩ := labelled (List.ne_nil_of_mem offered)
  rw [answered.1] at reply
  obtain ⟨-, alike, chosen⟩ := reply
  obtain ⟨edge, first, taken⟩ := chosen offered
  have label : edge.condition = some "Praise" := by
    have labels : (Routing.firstLabelled Definition.sorter.edges "c" (Text.fold "Praise")).map Edge.condition
        = some (some ("Praise" : Text)) := by decide +kernel
    have only : Routing.firstLabelled Definition.sorter.edges "c" (Text.fold "Praise") = some edge := here ▸ first
    rw [only] at labels
    exact Option.some.inj labels
  exact ⟨t, e, after, edge, ht, here, left ▸ answered.2, label, taken, alike⟩

end Interpreter

end Colloquy
