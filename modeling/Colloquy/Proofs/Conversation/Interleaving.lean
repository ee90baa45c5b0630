import Colloquy.Proofs.Turn.Log
import Mathlib.Logic.Function.Basic

/-!
# One interpreter for many conversations

Any number of conversations take their turns in any order (`Inquiry`). They are served by one interpreter, or each turn by
an interpreter of its own (`Desk`), and the responses tell the two apart by their logs only: the shared interpreter reports
what was found in the definition once, in the first turn that it takes, and the separate ones report it every time
(`Desk.serve_eq_relog`).
-/

namespace Colloquy

/-! ## Desks -/

/-- A turn that is asked for: in which conversation, with what beside its context, and in which world. -/
structure Inquiry (κ : Type) where
  conversation : κ
  message : Option Text
  startNode : Option Text
  knowledge : List GivenItem
  persona : Option Text
  world : World

/-- The call of a turn in its conversation's context. -/
def Inquiry.call {κ : Type} (q : Inquiry κ) (context : GivenContext) : TurnCall :=
  ⟨context, q.message, q.startNode, q.knowledge, q.persona⟩

/-- A turn, or why it was refused. -/
abbrev Response := Except TurnRefusal Turn

/-- A way to execute turns, and the state that a turn leaves it in. -/
structure Desk (σ : Type) where
  execute : σ → TurnCall → World → Response
  after : Turn → σ

namespace Desk

/-- One interpreter executes all turns. -/
def shared : Desk Interpreter := ⟨Interpreter.executeTurn, Turn.interpreter⟩

/-- Every turn has an interpreter of its own. -/
def separate (d : Definition) (s : Settings) : Desk Unit := ⟨fun _ => d.executeTurn s, fun _ => ()⟩

variable {σ κ : Type} [DecidableEq κ]

/-- The responses to inquiries in order. A turn is executed on the context that the last turn of its conversation left; a
turn that is refused changes nothing. -/
def serve (desk : Desk σ) : σ → (κ → GivenContext) → List (Inquiry κ) → List Response
  | _, _, [] => []
  | state, contexts, q :: rest =>
    match desk.execute state (q.call (contexts q.conversation)) q.world with
    | .error r => .error r :: desk.serve state contexts rest
    | .ok t =>
      .ok t :: desk.serve (desk.after t) (Function.update contexts q.conversation (.loaded t.result.context)) rest

/-- The responses with lines before the log of every turn but the first. -/
def relog (lines : List Text) : List Response → List Response
  | [] => []
  | .error r :: rest => .error r :: relog lines rest
  | .ok t :: rest => .ok t :: rest.map (Except.map (Turn.precede lines))

variable (d : Definition) (s : Settings)

/-- An interpreter that has reported leaves out of every log what an interpreter of the turn's own reports. -/
theorem serve_informed (contexts : κ → GivenContext) (qs : List (Inquiry κ)) :
    (separate d s).serve () contexts qs =
      (shared.serve (Interpreter.make d s).informed contexts qs).map
        (Except.map (Turn.precede (Interpreter.make d s).complaints)) := by
  induction qs generalizing contexts with
  | nil => rfl
  | cons q qs ih =>
    have same : (separate d s).execute () (q.call (contexts q.conversation)) q.world =
        (shared.execute (Interpreter.make d s).informed (q.call (contexts q.conversation)) q.world).map
          (Turn.precede (Interpreter.make d s).complaints) :=
      (Interpreter.make d s).executeTurn_precede _ _
    unfold serve
    rw [same]
    cases ht : shared.execute (Interpreter.make d s).informed (q.call (contexts q.conversation)) q.world with
    | error r => exact congrArg (_ :: ·) (ih contexts)
    | ok t =>
      -- the interpreter that has taken the turn is the one that took it
      have again : shared.after t = (Interpreter.make d s).informed :=
        (Interpreter.make d s).informed.interpreter_eq_informed ht
      dsimp only [Except.map]
      rw [again]
      exact congrArg (_ :: ·) (ih _)

/-- **One interpreter serves any interleaving of conversations** as well as one interpreter for each turn. Refusals and
turns are the same, except that from the second turn on the log of the separate interpreters starts with the lines of their
report. -/
theorem serve_eq_relog (contexts : κ → GivenContext) (qs : List (Inquiry κ)) :
    (separate d s).serve () contexts qs =
      relog (Interpreter.make d s).complaints (shared.serve (Interpreter.make d s) contexts qs) := by
  induction qs generalizing contexts with
  | nil => rfl
  | cons q qs ih =>
    have same : (separate d s).execute () (q.call (contexts q.conversation)) q.world =
        shared.execute (Interpreter.make d s) (q.call (contexts q.conversation)) q.world := rfl
    unfold serve
    rw [same]
    cases ht : shared.execute (Interpreter.make d s) (q.call (contexts q.conversation)) q.world with
    | error r => exact congrArg (_ :: ·) (ih contexts)
    | ok t =>
      have informed : shared.after t = (Interpreter.make d s).informed :=
        (Interpreter.make d s).interpreter_eq_informed ht
      dsimp only [relog]
      rw [informed]
      exact congrArg (_ :: ·) (serve_informed d s _ qs)

end Desk

end Colloquy
