import Colloquy.Proofs.Conversation.Run
import Colloquy.Proofs.Flow.Bare
import Colloquy.Proofs.Turn.Walk
import Mathlib.Data.List.Basic

/-!
# Simulations

A simulation delivers messages as long as the flow waits for one. So it delivers some first messages in order
(`Delivers`), each to a conversation that waits, and either all of them, or as many as the flow takes
(`exists_delivers`). Its turns are the opening turn and one for each message delivered, all but the last of them wait,
and more messages only add turns after them, if the last one waits too (`simulate_maximal`).
-/

namespace Colloquy.Conversation

variable {c c' : Conversation} {message : Option Text} {messages : List Text} {w w' : World}

/-! ## Turns -/

/-- A turn is taken when the knowledge items can be read. -/
theorem turn_of_readable {items : List KnowledgeItem} (h : c.knowledge.mapM GivenItem.read = .ok items)
    (message : Option Text) (w : World) : ∃ c' w', c.turn message w = .ok (c', w') :=
  ⟨_, _, turn_eq_ok_iff.mpr ⟨_, Interpreter.executeTurn_eq_ok_iff.mpr ⟨_, items, rfl, h, rfl⟩, rfl, rfl⟩⟩

theorem turn_of_unreadable {issues : List Schema.Issue} (h : c.knowledge.mapM GivenItem.read = .error issues)
    (message : Option Text) (w : World) : c.turn message w = .error (.knowledge issues) := by
  have refused : c.interpreter.executeTurn (c.call message) w = .error (.knowledge issues) :=
    Interpreter.executeTurn_eq_error_iff.mpr (.inr ⟨c.context, issues, rfl, h, rfl⟩)
  unfold turn
  rw [refused]
  rfl

/-- A turn adds its result to the turns and leaves the knowledge items as they are. -/
theorem turns_of_turn (h : c.turn message w = .ok (c', w')) :
    ∃ r, c'.turns = c.turns ++ [r] ∧ c'.knowledge = c.knowledge := by
  obtain ⟨t, -, rfl, -⟩ := turn_eq_ok_iff.mp h
  exact ⟨t.result, rfl, rfl⟩

/-! ## Deliveries -/

/-- The messages are delivered one after another, each to a conversation that waits for one. -/
inductive Delivers : Conversation → World → List Text → Conversation → World → Prop
  | done {c : Conversation} {w : World} : Delivers c w [] c w
  | next {c c₁ c₂ : Conversation} {w w₁ w₂ : World} {message : Text} {messages : List Text} : c.isWaiting = true →
      c.send message w = .ok (c₁, w₁) → Delivers c₁ w₁ messages c₂ w₂ → Delivers c w (message :: messages) c₂ w₂

/-- All turns before the last one wait. -/
def WaitsBetween (c : Conversation) : Prop := ∀ r ∈ c.turns.dropLast, r.status = .waiting

/-- A turn after one that waits leaves none before the last that does not. -/
theorem WaitsBetween.turn (h : c.WaitsBetween) (waits : c.isWaiting = true) (ht : c.turn message w = .ok (c', w')) :
    c'.WaitsBetween := by
  obtain ⟨r, turns, -⟩ := turns_of_turn ht
  unfold WaitsBetween
  rw [turns, List.dropLast_concat]
  obtain ⟨last, hlast, status⟩ := (Option.any_eq_true _ _).mp waits
  have split : c.turns.dropLast ++ [last] = c.turns := List.dropLast_append_getLast? last hlast
  intro r' hr'
  rw [← split] at hr'
  rcases List.mem_append.mp hr' with earlier | here
  · exact h r' earlier
  · rw [List.mem_singleton.mp here]
    exact beq_iff_eq.mp status

namespace Delivers

theorem waitsBetween (h : Delivers c w messages c' w') (before : c.WaitsBetween) : c'.WaitsBetween := by
  induction h with
  | done => exact before
  | next waits sent _ ih => exact ih (before.turn waits sent)

/-- There is a turn for every message. -/
theorem exists_turns (h : Delivers c w messages c' w') :
    ∃ new, c'.turns = c.turns ++ new ∧ new.length = messages.length := by
  induction h with
  | done => exact ⟨[], (List.append_nil _).symm, rfl⟩
  | next _ sent _ ih =>
    obtain ⟨r, turns, -⟩ := turns_of_turn sent
    obtain ⟨new, after, length⟩ := ih
    refine ⟨r :: new, ?_, congrArg (· + 1) length⟩
    rw [after, turns, List.append_assoc]
    rfl

theorem knowledge_eq (h : Delivers c w messages c' w') : c'.knowledge = c.knowledge := by
  induction h with
  | done => rfl
  | next _ sent _ ih =>
    obtain ⟨r, -, same⟩ := turns_of_turn sent
    exact ih.trans same

/-- Messages that are delivered are sent in order. -/
theorem foldlM_send (h : Delivers c w messages c' w') :
    messages.foldlM (fun (x : Conversation × World) message => x.1.send message x.2) (c, w) = .ok (c', w') := by
  induction h with
  | done => rfl
  | next _ sent _ ih =>
    rw [List.foldlM_cons, sent]
    exact ih

end Delivers

theorem deliver_of_not_waiting (h : c.isWaiting = false) (messages : List Text) (w : World) :
    deliver messages c w = .ok (c, w) := by
  cases messages with
  | nil => rfl
  | cons message messages =>
    rw [deliver, if_neg (by simp [h])]

theorem deliver_of_waiting (waits : c.isWaiting = true) {message : Text} (sent : c.send message w = .ok (c', w'))
    (messages : List Text) : deliver (message :: messages) c w = deliver messages c' w' := by
  rw [deliver, if_pos waits, sent]
  rfl

/-- **As many of the first messages are delivered as the flow waits for.** -/
theorem exists_delivers {items : List KnowledgeItem} (h : c.knowledge.mapM GivenItem.read = .ok items)
    (messages : List Text) (w : World) : ∃ c' w' sent rest, deliver messages c w = .ok (c', w') ∧
      messages = sent ++ rest ∧ Delivers c w sent c' w' ∧ (c'.isWaiting = true → rest = []) := by
  induction messages generalizing c w with
  | nil => exact ⟨c, w, [], [], rfl, rfl, .done, fun _ => rfl⟩
  | cons message messages ih =>
    cases waits : c.isWaiting with
    | false =>
      refine ⟨c, w, [], message :: messages, deliver_of_not_waiting waits _ w, rfl, .done, fun h => ?_⟩
      cases waits.symm.trans h
    | true =>
      obtain ⟨c₁, w₁, taken⟩ := turn_of_readable h (some message) w
      obtain ⟨r, -, same⟩ := turns_of_turn taken
      obtain ⟨c', w', sent, rest, delivered, rfl, delivers, all⟩ := ih (same ▸ h) w₁
      exact ⟨c', w', message :: sent, rest, (deliver_of_waiting waits taken _).trans delivered, rfl,
        .next waits taken delivers, all⟩

/-- Messages are delivered one after another. -/
theorem deliver_append (messages more : List Text) (c : Conversation) (w : World) :
    deliver (messages ++ more) c w = (deliver messages c w).bind fun x => deliver more x.1 x.2 := by
  induction messages generalizing c w with
  | nil => rfl
  | cons message messages ih =>
    cases waits : c.isWaiting with
    | false =>
      rw [deliver_of_not_waiting waits, deliver_of_not_waiting waits]
      exact (deliver_of_not_waiting waits more w).symm
    | true =>
      rw [List.cons_append, deliver, deliver, if_pos waits, if_pos waits]
      cases c.send message w with
      | error r => rfl
      | ok x => exact ih x.1 x.2

/-! ## Simulations -/

/-- The opening turn, and a turn for every message, whether the flow waits for it or not. -/
def lead (messages : List Text) (c : Conversation) (w : World) : Except TurnRefusal (Conversation × World) := do
  messages.foldlM (fun x message => x.1.send message x.2) (← c.start w)

/-- **What a simulation of these messages comes to.** -/
structure Simulates (c : Conversation) (messages : List Text) (w : World) (c' : Conversation) (w' : World) : Prop where
  result : c.simulate messages w = .ok (c', w')
  opens : c'.turns ≠ []
  waits : ∀ r ∈ c'.turns.dropLast, r.status = .waiting
  bounded : c'.turns.length ≤ 1 + messages.length
  /-- While the flow waits, messages are delivered. -/
  maximal : c'.isWaiting = true → c'.turns.length = 1 + messages.length
  leads : c.lead (messages.take (c'.turns.length - 1)) w = .ok (c', w')

/-- A conversation that is opened can be simulated, when the knowledge items can be read. -/
theorem exists_simulates {c₁ : Conversation} {w₁ : World} (fresh : c.turns = []) (started : c.start w = .ok (c₁, w₁))
    {items : List KnowledgeItem} (readable : c₁.knowledge.mapM GivenItem.read = .ok items) (messages : List Text) :
    ∃ c' w', deliver messages c₁ w₁ = .ok (c', w') ∧ c'.knowledge = c₁.knowledge ∧ c.Simulates messages w c' w' := by
  obtain ⟨c', w', sent, rest, delivered, rfl, delivers, all⟩ := exists_delivers readable messages w₁
  obtain ⟨r, opening, -⟩ := turns_of_turn started
  obtain ⟨new, turns, length⟩ := delivers.exists_turns
  rw [fresh] at opening
  have count : c'.turns.length = 1 + sent.length := by
    rw [turns, opening, List.length_append, length]
    rfl
  have alone : c₁.WaitsBetween := by
    unfold WaitsBetween
    rw [opening]
    exact List.forall_mem_nil _
  refine ⟨c', w', delivered, delivers.knowledge_eq, ?_, ?_, delivers.waitsBetween alone, ?_, fun waits => ?_, ?_⟩
  · unfold simulate
    rw [started]
    exact delivered
  · rw [turns, opening]
    exact List.cons_ne_nil r new
  · rw [count, List.length_append]
    omega
  · rw [count, all waits, List.append_nil]
  · unfold lead
    rw [count, Nat.add_sub_cancel_left, List.take_left, started]
    exact delivers.foldlM_send

/-- **A simulation delivers as many messages as the flow takes, and no more.** It is refused only when the knowledge
items cannot be read, whatever the messages are. Otherwise all its turns but the last wait; there is an opening turn and
at most one turn for each message, and as many as that if the last one waits; they are the turns of a conversation that
is opened and then sent the first messages in order; and with more messages there are more turns after them at most, and
none if the last one does not wait. What the turns told is compared, as results share the context of their conversation. -/
theorem simulate_maximal {it : Interpreter} {knowledge : List GivenItem} {persona : Option Text}
    {initial : Entries Text Value} (hc : make it knowledge persona initial = .ok c) (w : World) :
    (∃ issues, knowledge.mapM GivenItem.read = .error issues ∧
      ∀ messages, c.simulate messages w = .error (.knowledge issues)) ∨
    ∀ messages, ∃ c' w', c.Simulates messages w c' w' ∧
      ∀ more, ∃ c'' w'', c.Simulates (messages ++ more) w c'' w'' ∧ c'.reports <+: c''.reports ∧
        (c'.isWaiting = false → c'' = c' ∧ w'' = w') := by
  obtain ⟨ctx, -, rfl⟩ := make_eq_ok_iff.mp hc
  cases readable : knowledge.mapM GivenItem.read with
  | error issues =>
    refine .inl ⟨issues, rfl, fun messages => ?_⟩
    unfold simulate start
    rw [turn_of_unreadable readable none w]
    rfl
  | ok items =>
    refine .inr fun messages => ?_
    obtain ⟨c₁, w₁, started⟩ := turn_of_readable (c := ⟨it, knowledge, persona, ctx, none, [], none⟩) readable none w
    obtain ⟨-, -, same⟩ := turns_of_turn started
    have readable₁ : c₁.knowledge.mapM GivenItem.read = .ok items := same ▸ readable
    obtain ⟨c', w', delivered, same', simulates⟩ := exists_simulates rfl started readable₁ messages
    refine ⟨c', w', simulates, fun more => ?_⟩
    obtain ⟨c'', w'', delivered', -, simulates'⟩ := exists_simulates rfl started readable₁ (messages ++ more)
    -- the further messages are delivered to the conversation that the first ones leave
    have later := deliver_append messages more c₁ w₁
    rw [delivered, delivered'] at later
    obtain ⟨c₂, w₂, sent, rest, delivered₂, -, delivers, -⟩ := exists_delivers (same' ▸ readable₁) more w'
    cases delivered₂.symm.trans later.symm
    obtain ⟨new, turns, -⟩ := delivers.exists_turns
    have before : c'.turns <+: c''.turns := ⟨new, turns.symm⟩
    refine ⟨c'', w'', simulates', before.map TurnResult.report, fun stopped => ?_⟩
    cases later.trans (deliver_of_not_waiting stopped more w')
    exact ⟨rfl, rfl⟩

/-- The doubter asks once, so of two messages the second is not delivered. -/
theorem simulate_doubter : ∃ c c' w', make (.make .doubter .default) [] none [] = .ok c ∧
    c.Simulates ["Ada"] ⟨[], [], .empty⟩ c' w' ∧ c'.turns.length = 2 ∧ c'.isWaiting = false ∧
    c.Simulates ["Ada", "Bye"] ⟨[], [], .empty⟩ c' w' := by
  obtain ⟨c, hc⟩ : ∃ c, make (.make .doubter .default) [] none [] = .ok c := ⟨_, rfl⟩
  obtain ⟨c', w', result, two, stopped⟩ : ∃ c' w', c.simulate ["Ada"] ⟨[], [], .empty⟩ = .ok (c', w') ∧
      c'.turns.length = 2 ∧ c'.isWaiting = false := by
    cases hc
    exact ⟨_, _, rfl, by decide +kernel, by decide +kernel⟩
  rcases simulate_maximal hc ⟨[], [], .empty⟩ with ⟨issues, unreadable, -⟩ | simulates
  · cases unreadable
  · obtain ⟨c₁, w₁, first, more⟩ := simulates ["Ada"]
    cases first.result.symm.trans result
    obtain ⟨c₂, w₂, both, -, same⟩ := more ["Bye"]
    obtain ⟨rfl, rfl⟩ := same stopped
    exact ⟨c, _, _, hc, first, two, stopped, both⟩

end Colloquy.Conversation
