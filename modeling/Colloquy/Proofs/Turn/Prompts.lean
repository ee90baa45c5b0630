import Colloquy.Proofs.Turn.Encounter
import Colloquy.Proofs.Turn.Growth

/-!
# What the model is asked

The model receives the prompt that a node has for it, unless the time limit leaves no time (`Node.prompts_run`). So the
prompts of a turn are those of its encounters, in order (`Interpreter.prompts_take`).
-/

namespace Colloquy

/-! ## Nodes -/

namespace Node

/-- The prompts that the model receives from a node: none at all if the time limit leaves no time. -/
def asks (n : Node) (input : TurnInput) (c : Context) : List Text :=
  if input.settings.modelTimeout ≤ 0.0 then [] else (n.question? input c).toList

variable {n : Node} {input : TurnInput} {s : Scene}

theorem asks_of_question?_eq_none {c : Context} (h : n.question? input c = none) : n.asks input c = [] := by
  unfold asks
  rw [h]
  split <;> rfl

theorem prompts_generate {c : Context} {prompt : Text} (h : n.question? input c = some prompt) (w : World) :
    (Model.generate input.settings w prompt).2.journal.prompts = w.journal.prompts ++ n.asks input c := by
  unfold Model.generate asks
  rw [h]
  split
  · exact (List.append_nil _).symm
  · rfl

theorem Reaches.prompts {w : World} (h : n.Reaches input s w) :
    w.journal.prompts = s.world.journal.prompts ++ n.asks input s.context := by
  cases h with
  | asks question => exact prompts_generate question s.world
  | nothing unasked => rw [asks_of_question?_eq_none unasked, List.append_nil]
  | sleeps _ unasked | sends _ _ _ unasked =>
    rw [asks_of_question?_eq_none unasked, List.append_nil]
    rfl

/-- **The model receives what a node asks, and nothing else.** -/
theorem prompts_run (n : Node) (input : TurnInput) (s : Scene) :
    (n.run input s).scene.world.journal.prompts = s.world.journal.prompts ++ n.asks input s.context :=
  (n.reaches_run input s).prompts

end Node

/-! ## Turns -/

/-- The prompts that the model receives during an encounter. -/
def Encounter.prompts (e : Encounter) : List Text :=
  e.act.scene.world.journal.prompts.drop e.scene.world.journal.prompts.length

theorem Encounter.prompts_eq (e : Encounter) : e.prompts = e.node.asks e.input e.scene.context := by
  have received : e.act.scene.world.journal.prompts = _ := e.node.prompts_run e.input e.scene
  unfold prompts
  rw [received]
  exact List.drop_left

theorem Encounter.prompts_act (e : Encounter) :
    e.act.scene.world.journal.prompts = e.scene.world.journal.prompts ++ e.prompts := by
  rw [prompts_eq]
  exact e.node.prompts_run e.input e.scene

namespace Walk

variable (input : TurnInput)

theorem prompts_pass (w : Walk) (n : Node) : (w.pass input n).scene.world.journal.prompts =
    w.scene.world.journal.prompts ++ Encounter.prompts ⟨n, input, w.arrive n⟩ := by
  have received := Encounter.prompts_act ⟨n, input, w.arrive n⟩
  unfold Encounter.act at received
  dsimp only at received
  cases hr : n.run input (w.arrive n) with
  | mk result s =>
    rw [hr] at received
    cases result with
    | ok step =>
      rw [pass_of_ok hr, record_eq]
      exact received
    | error f =>
      rw [pass_of_error hr]
      exact received

theorem prompts_foldl_pass (nodes : List Node) (w : Walk) :
    (nodes.foldl (pass input) w).scene.world.journal.prompts =
      w.scene.world.journal.prompts ++ (encounters input w nodes).flatMap Encounter.prompts := by
  induction nodes generalizing w with
  | nil => exact (List.append_nil _).symm
  | cons n rest ih =>
    rw [List.foldl_cons, ih, prompts_pass, encounters, List.flatMap_cons, List.append_assoc]

end Walk

/-- **The prompts of a turn are those of its encounters, in order**, however the turn ended. -/
theorem Interpreter.prompts_take (it : Interpreter) (c : Context) (items : List KnowledgeItem) (call : TurnCall)
    (w : World) : (it.take c items call w).world.journal.prompts =
      w.journal.prompts ++ (it.encounters c items call w).flatMap Encounter.prompts := by
  have retraced := (it.retraced_outcome c items call w).world
  exact (congrArg (·.journal.prompts) retraced).trans (Walk.prompts_foldl_pass _ _ _)

end Colloquy
