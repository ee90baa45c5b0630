import Colloquy.Conversation

/-!
# Conversations cue by cue

Whoever leads a conversation is given cues (to begin, to deliver a message, to set a variable) and replies to each. The
world starts a fresh page of its journal for every turn, so that a reply tells what that turn, and no other, sent out.
-/

namespace Colloquy

/-- What happens next in a conversation. -/
inductive Cue where
  | start
  | send (message : Text)
  | set (name : Key) (v : Value)

/-- What comes of a cue. -/
inductive Reply where
  /-- A turn: its result, and what went out meanwhile. -/
  | turn (result : Option TurnResult) (journal : Journal)
  | refused (r : TurnRefusal)
  | stored
  | reserved (r : Refusal)
  /-- The context that was put away cannot be read. -/
  | unreadable (e : LoadError)

/-- The replies to cues in order, and the state in which they leave their leader and the world. -/
def converse {σ : Type} (answer : Cue → σ → World → Reply × σ × World) : List Cue → σ → World → List Reply × σ × World
  | [], s, w => ([], s, w)
  | cue :: cues, s, w =>
    let (reply, s, w) := answer cue s w
    let (replies, s, w) := converse answer cues s w
    (reply :: replies, s, w)

/-- Leaders whose states correspond, and who reply alike and keep them corresponding, do so through all cues. -/
theorem converse_eq {σ τ : Type} {f : Cue → σ → World → Reply × σ × World} {g : Cue → τ → World → Reply × τ × World}
    {R : σ → τ → Prop} (step : ∀ cue s t w, R s t → (f cue s w).1 = (g cue t w).1 ∧
      R (f cue s w).2.1 (g cue t w).2.1 ∧ (f cue s w).2.2 = (g cue t w).2.2) (cues : List Cue) {s : σ} {t : τ}
    (w : World) (h : R s t) : (converse f cues s w).1 = (converse g cues t w).1 ∧
      R (converse f cues s w).2.1 (converse g cues t w).2.1 := by
  induction cues generalizing s t w with
  | nil => exact ⟨rfl, h⟩
  | cons cue cues ih =>
    obtain ⟨reply, state, world⟩ := step cue s t w h
    obtain ⟨replies, states⟩ := ih (f cue s w).2.2 state
    simp only [converse]
    rw [reply, replies, ← world]
    exact ⟨rfl, states⟩

namespace Conversation

/-! ## What a conversation does -/

theorem make_eq_ok_iff {it : Interpreter} {knowledge : List GivenItem} {persona : Option Text}
    {initial : Entries Text Value} {c : Conversation} : make it knowledge persona initial = .ok c ↔
      ∃ ctx, Context.create initial = .ok ctx ∧ c = ⟨it, knowledge, persona, ctx, none, [], none⟩ := by
  unfold make
  cases Context.create initial with
  | error r => simp [Except.map]
  | ok ctx => simp [Except.map, eq_comm]

theorem turn_eq_ok_iff {c c' : Conversation} {message : Option Text} {w w' : World} :
    c.turn message w = .ok (c', w') ↔
      ∃ t, c.interpreter.executeTurn (c.call message) w = .ok t ∧ c' = c.afterTurn t ∧ w' = t.world := by
  unfold turn
  cases c.interpreter.executeTurn (c.call message) w with
  | error r => simp [Except.map]
  | ok t => simp [Except.map, eq_comm]

theorem setVariable_eq_ok_iff {c c' : Conversation} {name : Key} {v : Value} : c.setVariable name v = .ok c' ↔
    ∃ ctx, c.context.setVariable name v = .ok ctx ∧ c' = { c with context := ctx } := by
  unfold setVariable
  cases c.context.setVariable name v with
  | error r => simp [Except.map]
  | ok ctx => simp [Except.map, eq_comm]

/-- The reply to a turn that was taken or refused. -/
def told (c : Conversation) (w : World) : Except TurnRefusal (Conversation × World) → Reply × Conversation × World
  | .ok (c', w') => (.turn c'.last? w'.journal, c', w')
  | .error r => (.refused r, c, w)

/-- How a conversation answers a cue. -/
def answer (cue : Cue) (c : Conversation) (w : World) : Reply × Conversation × World :=
  match cue with
  | .start => c.told w (c.start w.turnPage)
  | .send message => c.told w (c.send message w.turnPage)
  | .set name v =>
    match c.setVariable name v with
    | .ok c' => (.stored, c', w)
    | .error r => (.reserved r, c, w)

end Conversation

end Colloquy
