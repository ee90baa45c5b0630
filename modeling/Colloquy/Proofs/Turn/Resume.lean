import Colloquy.Proofs.Turn.Growth
import Colloquy.Proofs.Turn.Outcome
import Colloquy.Proofs.Turn.Stored

/-!
# Resuming where the conversation waits

A turn on a context that waits at a node that asks comes first to this node, if it has a step to take and is told to start
nowhere else (`Interpreter.outcome_of_awaits`, `Interpreter.encounters_of_awaits`). Without a message the node goes on
waiting (`Node.run_of_silence`). With one it leaves along an edge, and the message is in the history and in the node's
variable (`Node.run_of_answer`); or it fails, when the variable's name is kept for the bookkeeping
(`Node.run_of_reserved`).
-/

namespace Colloquy

/-- The conversation waits at the node, which asks the user and is the one that the definition finds under its id. The empty
id is the id of no node: a context that holds it waits nowhere. -/
structure Definition.Awaits (d : Definition) (n : Node) (c : Context) : Prop where
  found : d.node? n.id = some n
  asks : n.kind? = some .getUserInput
  waits : c.waiting = .str n.id
  nonempty : n.id ≠ []

/-- The parrot's conversations wait at its one node that asks. -/
theorem Definition.awaits_parrot : ∃ n : Node, n.id = "ask" ∧ nonEmpty? n.variableName = some "answer" ∧
    ∀ c : Context, c.waiting = .str "ask" → Definition.parrot.Awaits n c :=
  ⟨{ Node.bare "ask" NodeKind.getUserInput.name with prompt := some "Yes?", variableName := some "answer" }, rfl, rfl,
    fun _ hc => ⟨rfl, rfl, hc, by decide⟩⟩

/-- The turn is told to start at the id, or told nothing. -/
def TurnCall.StartsAt (call : TurnCall) (id : Text) : Prop := ∀ told, nonEmpty? call.startNode = some told → told = id

/-! ## The first node -/

namespace Interpreter

variable {it : Interpreter} {n : Node} {c : Context} {call : TurnCall}

theorem entry_of_awaits (h : it.definition.Awaits n c) (hstart : call.StartsAt n.id) :
    it.entry c call.startNode = some (.str n.id) := by
  unfold Interpreter.entry
  split
  next told hs => rw [hstart told hs]
  next =>
    have counts : c.waiting.isFalsy = false := by simp [h.waits, Value.isFalsy, h.nonempty]
    rw [counts, if_neg Bool.false_ne_true, h.waits]

/-- The turn walks from the node that the conversation waits at. -/
theorem outcome_of_awaits (h : it.definition.Awaits n c) (hstart : call.StartsAt n.id) (hsteps : 1 ≤ it.settings.maxSteps)
    (items : List KnowledgeItem) (w : World) : ∃ left, it.outcome c items call w =
      walk it.definition (it.input items call) (left + 1) n.id (it.opening c w) := by
  obtain ⟨left, hleft⟩ : ∃ left, it.settings.maxSteps.toNat = left + 1 := ⟨it.settings.maxSteps.toNat - 1, by omega⟩
  refine ⟨left, ?_⟩
  unfold Interpreter.outcome
  rw [entry_of_awaits h hstart, ← hleft]
  rfl

end Interpreter

/-! ## What the node does -/

namespace Node

variable {n : Node} (input : TurnInput) (s : Scene)

theorem run_of_waiting (hk : n.kind? = some .getUserInput) (hw : s.context.waiting = .str n.id) : n.run input s =
    match input.pending s with
    | some answer => n.takeAnswer input s answer
    | none => .step s [] (some "Still waiting for input") .await := by
  rw [run_getUserInput hk, runGetUserInput, hw]
  cases input.pending s <;> simp

/-- Without a message the node goes on waiting. -/
theorem run_of_silence (hk : n.kind? = some .getUserInput) (hw : s.context.waiting = .str n.id)
    (hp : input.pending s = none) : n.run input s = .step s [] (some "Still waiting for input") .await := by
  rw [run_of_waiting input s hk hw, hp]

end Node

end Colloquy
