import Colloquy.Proofs.Conversation.Run
import Colloquy.Proofs.Flow.Bare
import Colloquy.Proofs.Turn.Walk

/-!
# History and messages agree

A turn adds to the history one agent line for every message that it emits, in order, and nothing else but the line of
the user's message, at most once, wherever in the turn it is taken (`Recorded`). The walk keeps this from node to node
(`Tells`): the user's line is there only once the message is consumed, and it is consumed once. So the agent lines of a
conversation's history are its messages (`Conversation.Transcribed`).
-/

namespace Colloquy

/-! ## The lines of a turn -/

/-- The lines that go with the messages of a turn that was given a message by the user. -/
inductive Recorded (message : Option Text) : List Text → List Text → Prop
  | agent (messages : List Text) : Recorded message messages (messages.map Context.agentLine)
  | both {text : Text} (before after : List Text) : nonEmpty? message = some text →
      Recorded message (before ++ after)
        (before.map Context.agentLine ++ Context.userLine text :: after.map Context.agentLine)

/-- The history so far is the old one and the lines of the messages so far; before the message is consumed, none of
them is the user's. -/
def Tells (old : List Text) (message : Option Text) (messages : List Text) (s : Scene) : Prop :=
  ∃ lines, s.context.history = old ++ lines ∧ Recorded message messages lines ∧
    (s.consumed = false → lines = messages.map Context.agentLine)

namespace Tells

variable {old messages : List Text} {message : Option Text} {s : Scene}

/-- **Whatever a node does, the history goes on telling the messages.** -/
theorem does {input : TurnInput} {n : Node} {act : Act} (h : Tells old input.message messages s)
    (hd : n.Does input s act) : Tells old input.message messages act.scene := by
  obtain ⟨lines, hl, hr, hc⟩ := h
  cases hd with
  | pass _ hs _ => exact ⟨lines, hs.keeps.1.trans hl, hr, hc⟩
  | finish | fail | stay | ask => exact ⟨lines, hl, hr, hc⟩
  | reject => exact ⟨lines, hl, hr, fun h => by cases h⟩
  | @accept answer c _ _ _ _ hp hs _ =>
    obtain ⟨hfresh, hm⟩ := TurnInput.pending_eq_some hp
    refine ⟨lines ++ [Context.userLine answer], ?_, ?_, fun h => by cases h⟩
    · show c.history ++ [Context.userLine answer] = _
      rw [hs.keeps.1, hl, List.append_assoc]
    · have both := Recorded.both messages [] hm
      rw [List.append_nil] at both
      rw [hc hfresh]
      exact both

/-- Emitting messages adds their lines. -/
theorem emit (h : Tells old message messages s) (more : List Text) : Tells old message (messages ++ more)
    (s.withContext { s.context with history := s.context.history ++ more.map Context.agentLine }) := by
  obtain ⟨lines, hl, hr, hc⟩ := h
  refine ⟨lines ++ more.map Context.agentLine, ?_, ?_, fun hs => ?_⟩
  · show s.context.history ++ _ = _
    rw [hl, List.append_assoc]
  · cases hr with
    | agent =>
      rw [← List.map_append]
      exact .agent _
    | both before after ht =>
      rw [List.append_assoc, List.append_assoc, List.cons_append, ← List.map_append]
      exact .both before (after ++ more) ht
  · rw [hc hs, List.map_append]

/-- A node's step, with the messages that it emits. -/
theorem record {input : TurnInput} {n : Node} {w : Walk} {step : Step} (h : Tells old input.message w.messages w.scene)
    (hd : n.Does input (w.arrive n) ⟨.ok step, s⟩) :
    Tells old input.message (w.record n s step).messages (w.record n s step).scene := by
  have arrived : Tells old input.message w.messages (w.arrive n) := h
  rw [Walk.record_eq]
  exact (arrived.does hd).emit step.messages

end Tells

theorem Walk.keeps_tells (d : Definition) (input : TurnInput) (old : List Text) :
    Walk.Keeps d input (fun w => Tells old input.message w.messages w.scene)
      (fun _ w => Tells old input.message w.messages w.scene) where
  outside _ hw := hw
  outOfSteps _ hw := hw
  failed {n w f s} _ hw hd := by
    have arrived : Tells old input.message w.messages (w.arrive n) := hw
    exact arrived.does hd
  follows _ hw hd _ := hw.record hd
  waits _ _ hw hd _ := hw.record hd
  finishes _ hw hd _ := hw.record hd
  halts _ hw hd _ := hw.record hd

/-- **A turn that is taken adds to the history the lines that go with its messages**, however it ends. -/
theorem Interpreter.history_executeTurn {it : Interpreter} {call : TurnCall} {w : World} {t : Turn}
    (ht : it.executeTurn call w = .ok t) : ∃ c lines, call.context.read = .ok c ∧
      t.result.context.history = c.history ++ lines ∧ Recorded call.message t.result.messages lines := by
  obtain ⟨c, items, hc, -, rfl⟩ := Interpreter.executeTurn_eq_ok_iff.mp ht
  have start : Tells c.history call.message [] (it.opening c w).scene :=
    ⟨[], (List.append_nil _).symm, .agent [], fun _ => rfl⟩
  obtain ⟨lines, hl, hr, -⟩ := (Walk.keeps_tells it.definition (it.input items call) c.history).outcome start
  obtain ⟨hm, -, hh⟩ := settle_keeps (it.outcome c items call w).1 (it.outcome c items call w).2
  exact ⟨c, lines, hc, hh.trans hl, hm ▸ hr⟩

/-! ## The lines of a conversation -/

namespace Context

/-- Whether a line of the history is the agent's. -/
def isAgentLine (line : Text) : Bool := ("Agent: " : Text).isPrefixOf line

theorem isAgentLine_agentLine (text : Text) : isAgentLine (agentLine text) = true :=
  List.isPrefixOf_iff_prefix.mpr (List.prefix_append _ _)

theorem isAgentLine_userLine (text : Text) : isAgentLine (userLine text) = false := rfl

theorem filter_agentLine (messages : List Text) :
    (messages.map agentLine).filter isAgentLine = messages.map agentLine := by
  rw [List.filter_eq_self]
  intro line hline
  obtain ⟨text, -, rfl⟩ := List.mem_map.mp hline
  exact isAgentLine_agentLine text

end Context

/-- The agent lines of a turn are its messages. -/
theorem Recorded.filter {message : Option Text} {messages lines : List Text} (h : Recorded message messages lines) :
    lines.filter Context.isAgentLine = messages.map Context.agentLine := by
  cases h with
  | agent => exact Context.filter_agentLine _
  | both before after _ =>
    rw [List.filter_append, List.filter_cons_of_neg (by simp [Context.isAgentLine_userLine]), Context.filter_agentLine,
      Context.filter_agentLine, List.map_append]

namespace Conversation

/-- The agent lines of the history are the messages of all turns, in order. -/
def Transcribed (c : Conversation) : Prop :=
  c.context.history.filter Context.isAgentLine = c.messages.map Context.agentLine

/-- **A turn keeps the history and the messages in agreement.** -/
theorem Transcribed.turn {c c' : Conversation} (h : c.Transcribed) {message : Option Text} {w w' : World}
    (ht : c.turn message w = .ok (c', w')) : c'.Transcribed := by
  obtain ⟨t, he, rfl, -⟩ := turn_eq_ok_iff.mp ht
  obtain ⟨ctx, lines, hread, hl, hr⟩ := Interpreter.history_executeTurn he
  have same : ctx = c.context := (Except.ok.inj hread).symm
  have told : (c.afterTurn t).messages = c.messages ++ t.result.messages := by
    simp [Conversation.messages, afterTurn]
  show t.result.context.history.filter Context.isAgentLine = (c.afterTurn t).messages.map Context.agentLine
  rw [told, hl, same, List.filter_append, List.map_append, hr.filter, h]

theorem Transcribed.setVariable {c c' : Conversation} (h : c.Transcribed) {name : Key} {v : Value}
    (hs : c.setVariable name v = .ok c') : c'.Transcribed := by
  obtain ⟨ctx, hv, rfl⟩ := setVariable_eq_ok_iff.mp hs
  obtain ⟨-, rfl⟩ := Context.setVariable_eq_ok hv
  exact h

end Conversation

end Colloquy
