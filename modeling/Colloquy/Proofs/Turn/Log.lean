import Colloquy.Proofs.Turn.Walk

/-!
# What a turn makes of its log

Nothing that a turn does depends on the log lines that it starts with: a walk that starts with more lines goes the same
way, and ends with these lines before its own (`Walk.abreast_precede`). So the one thing that an interpreter remembers,
whether it has reported what was found in the definition, changes the log of a turn and nothing else
(`Interpreter.executeTurn_precede`).
-/

namespace Colloquy

variable (lines : List Text)

/-! ## Walks -/

namespace Walk

/-- The walk with log lines before its own. -/
def precede (w : Walk) : Walk := { w with log := lines ++ w.log }

variable (w : Walk) (n : Node)

theorem note_precede (line : Text) : (w.precede lines).note line = (w.note line).precede lines := by
  simp [precede, note]

theorem halt_precede : (w.precede lines).halt n = (w.halt n).precede lines := by
  simp [precede, halt, noteAt, note]

theorem record_precede (s : Scene) (step : Step) :
    (w.precede lines).record n s step = (w.record n s step).precede lines := by
  simp [record_eq, precede]

/-- **A walk goes the same way whatever lines its log starts with**: every node finds the same scene, and so does the
same. -/
theorem abreast_precede (input : TurnInput) : Abreast input input fun w w' => w' = w.precede lines where
  maxSteps := rfl
  acts {w w'} n h := by
    subst h
    exact ⟨_, _, _, rfl, rfl, fun step => w.record_precede lines n _ step, rfl⟩
  note {w w'} line h := by
    subst h
    exact w.note_precede lines line
  halt {w w'} n h := by
    subst h
    exact w.halt_precede lines n

end Walk

/-! ## Turns -/

/-- The turn with log lines before its own. -/
def Turn.precede (t : Turn) : Turn := { t with result := { t.result with debugLog := lines ++ t.result.debugLog } }

namespace Interpreter

theorem settle_precede (ending : Ending) (done : Walk) :
    settle ending (done.precede lines) =
      { settle ending done with debugLog := lines ++ (settle ending done).debugLog } := by
  cases ending <;> rfl

/-- The lines in which an interpreter reports the errors found. -/
def complaints (it : Interpreter) : List Text :=
  (it.findings.filter Finding.isError).map fun f => "Flow validation: " ++ f.text

/-- The interpreter once it has reported. -/
def informed (it : Interpreter) : Interpreter := { it with reported := true }

variable (it : Interpreter)

theorem opening_eq_precede (c : Context) (w : World) :
    it.opening c w = (it.informed.opening c w).precede it.openingLog := by
  simp [opening, informed, openingLog, Walk.precede]

theorem take_precede (c : Context) (items : List KnowledgeItem) (call : TurnCall) (w : World) :
    it.take c items call w = (it.informed.take c items call w).precede it.openingLog := by
  have outcome : it.outcome c items call w =
      ((it.informed.outcome c items call w).1, (it.informed.outcome c items call w).2.precede it.openingLog) := by
    unfold Interpreter.outcome
    rw [show it.informed.entry c call.startNode = it.entry c call.startNode from rfl, opening_eq_precede]
    split
    next entry _ =>
      obtain ⟨ending, done⟩ :=
        (Walk.abreast_precede it.openingLog (it.input items call)).walkFrom it.definition entry rfl
      exact Prod.ext ending done
    · rfl
  unfold take
  rw [outcome]
  dsimp only
  rw [settle_precede]
  rfl

/-- **All that reporting changes about a turn is its log**, which otherwise has the lines of the report before it. -/
theorem executeTurn_precede (call : TurnCall) (w : World) :
    it.executeTurn call w = (it.informed.executeTurn call w).map (Turn.precede it.openingLog) := by
  unfold executeTurn
  cases call.context.read with
  | error e => rfl
  | ok c =>
    cases call.knowledge.mapM GivenItem.read with
    | error issues => rfl
    | ok items => exact congrArg Except.ok (it.take_precede c items call w)

theorem interpreter_eq_informed {call : TurnCall} {w : World} {t : Turn} (ht : it.executeTurn call w = .ok t) :
    t.interpreter = it.informed := by
  obtain ⟨_, _, -, -, rfl⟩ := executeTurn_eq_ok_iff.mp ht
  rfl

end Interpreter

end Colloquy
