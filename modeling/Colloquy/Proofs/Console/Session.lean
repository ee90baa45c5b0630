import Colloquy.Console.Session
import Colloquy.Proofs.Conversation.Simulation
import Colloquy.Proofs.Turn.Outcome

/-!
# Sessions and simulations

A session on a list of lines takes the turns of the simulation that delivers them (`run_eq_simulate`). The session feeds
itself a line whenever it reads (`Runs`); what happens in it is a course of turns shown and lines read, in which a line
is read exactly after a turn that waits (`Course`), and all it prints is what these events print, and a farewell.
-/

namespace Colloquy.Console

/-! ## Events -/

/-- What happens in a session: a turn is taken, or a line is read, and none at the end of the input. -/
inductive Event where
  | turn (r : TurnResult)
  | read (line : Option Text)

/-- The lines in which a turn is printed: its messages, its log where that is asked for, and its error. -/
def turnLines (debug : Bool) (r : TurnResult) : List Text :=
  let lines (start : Text) (texts : List Text) : List Text := texts.map (start ++ ·)
  lines "Agent: " r.messages ++ (if debug then lines "  [debug] " r.debugLog else [])
    ++ lines "  [error] " r.error.toList

/-- What the session prints at an event. The line that is read ends itself; at the end of the input nobody ends it. -/
def Event.shown (debug : Bool) : Event → Text
  | turn r => (turnLines debug r).flatMap (· ++ "\n")
  | read (some _) => inputPrompt
  | read none => inputPrompt ++ "\n"

/-- Turns and the lines to read, as they alternate: a line is read after every turn that waits, and after no other. The
turn that does not wait is the last, and so is one that waits at the end of the input. -/
inductive Course : List TurnResult → List Text → List Event → Prop
  | stopped {r : TurnResult} {lines : List Text} : r.status ≠ .waiting → Course [r] lines [.turn r]
  | closed {r : TurnResult} : r.status = .waiting → Course [r] [] [.turn r, .read none]
  | line {r : TurnResult} {turns : List TurnResult} {line : Text} {lines : List Text} {events : List Event} :
      r.status = .waiting → Course turns lines events →
      Course (r :: turns) (line :: lines) (.turn r :: .read (some line) :: events)

theorem printed_eq (debug : Bool) (r : TurnResult) : printed debug r = Event.shown debug (.turn r) := by
  unfold printed Event.shown turnLines
  cases debug <;> simp [List.flatMap_map]

/-! ## The machine -/

/-- The last turn of the conversation in a session. -/
def State.last? : State → Option TurnResult
  | reading c _ => c.last?
  | ended _ _ c => c.last?

/-- What happens in a session that is fed lines whenever it reads, until it has ended. -/
inductive Runs (debug : Bool) : State → List Text → List Event → State → Prop
  | ended {code : Nat} {w : World} {c : Conversation} {lines : List Text} :
      Runs debug (.ended code w c) lines [] (.ended code w c)
  | closed {c : Conversation} {w : World} {out : Text} {s : State} : feed debug c w none = .ok (out, s) →
      Runs debug (.reading c w) [] [.read none] s
  | line {c : Conversation} {w : World} {line : Text} {lines : List Text} {out : Text} {s s' : State} {r : TurnResult}
      {events : List Event} : feed debug c w (some line) = .ok (out, s) → s.last? = some r →
      Runs debug s lines events s' →
      Runs debug (.reading c w) (line :: lines) (.read (some line) :: .turn r :: events) s'

/-- What happens in a session from its opening turn on. -/
def Holds (debug : Bool) (c : Conversation) (w : World) (lines : List Text) (events : List Event) (s' : State) : Prop :=
  ∃ out s r later, begin debug c w = .ok (out, s) ∧ s.last? = some r ∧ events = .turn r :: later ∧
    Runs debug s lines later s'

variable {debug : Bool} {c c' : Conversation} {w w' : World} {r : TurnResult}

theorem last?_of_turns {earlier : List TurnResult} (h : c.turns = earlier ++ [r]) : c.last? = some r := by
  unfold Conversation.last?
  rw [h]
  exact List.getLast?_concat

theorem isWaiting_iff (last : c.last? = some r) : c.isWaiting = true ↔ r.status = .waiting := by
  unfold Conversation.isWaiting
  rw [last]
  exact beq_iff_eq

theorem afterTurn_of_waiting (last : c.last? = some r) (waits : r.status = .waiting) (w : World) :
    afterTurn debug c w = (Event.shown debug (.turn r) ++ inputPrompt, .reading c w) := by
  unfold afterTurn
  rw [last, ← printed_eq]
  exact if_pos (beq_iff_eq.mpr waits)

theorem afterTurn_of_not_waiting (last : c.last? = some r) (stopped : r.status ≠ .waiting) (w : World) :
    afterTurn debug c w = (Event.shown debug (.turn r) ++ farewell r, .ended (exitCode r) w c) := by
  unfold afterTurn
  rw [last, ← printed_eq]
  exact if_neg fun h => stopped (beq_iff_eq.mp h)

/-- A turn takes the last place, and one that waits has neither failed nor finished. -/
theorem last_of_turn {message : Option Text} (h : c.turn message w = .ok (c', w')) : ∃ r, c'.turns = c.turns ++ [r] ∧
    c'.last? = some r ∧ (r.status = .waiting → exitCode r = 0 ∧ farewell r = []) := by
  obtain ⟨t, ht, rfl, -⟩ := Conversation.turn_eq_ok_iff.mp h
  refine ⟨t.result, rfl, last?_of_turns rfl, fun waits => ?_⟩
  have coherent := Interpreter.coherent_executeTurn ht
  have calm : t.result.error = none := by
    by_contra failed
    cases waits.symm.trans (coherent.error_iff.mp failed)
  have unfinished : t.result.finished = false := by
    rw [Bool.eq_false_iff]
    intro finished
    cases waits.symm.trans (coherent.finished_iff.mp finished)
  constructor
  · unfold exitCode
    rw [calm]
    rfl
  · unfold farewell TurnResult.isHalted
    rw [unfinished, waits]
    rfl

/-! ## Sessions on a list of lines -/

theorem feed_of_send {line : Text} (sent : c.send line w = .ok (c', w')) :
    feed debug c w (some line) = .ok (afterTurn debug c' w') := by
  simp only [feed, sent]
  rfl

theorem feedAll_ended (debug : Bool) (lines : List Text) (out : Text) (code : Nat) (w : World) (c : Conversation) :
    feedAll debug lines out (.ended code w c) = .ok (out, .ended code w c) := by
  cases lines <;> rfl

theorem last?_afterTurn (debug : Bool) (c : Conversation) (w : World) : (afterTurn debug c w).2.last? = c.last? := by
  unfold afterTurn
  cases last : c.last? with
  | none => exact last
  | some r =>
    dsimp only
    split <;> exact last

/-- **A session delivers the lines that the flow waits for**, after a turn that it has just shown; where no line is left
to read, it ends. -/
theorem runs_of_delivers {earlier : List TurnResult} {sent : List Text} (delivers : c.Delivers w sent c' w')
    (opening : c.turns = earlier ++ [r]) (calm : r.status = .waiting → exitCode r = 0 ∧ farewell r = [])
    {rest : List Text} (all : c'.isWaiting = true → rest = []) (debug : Bool) :
    ∃ new last events, c'.turns = earlier ++ r :: new ∧ c'.last? = some last ∧
      Course (r :: new) (sent ++ rest) (.turn r :: events) ∧
      Runs debug (afterTurn debug c w).2 (sent ++ rest) events (.ended (exitCode last) w' c') ∧
      ∀ out, feedAll debug (sent ++ rest) (out ++ (afterTurn debug c w).1) (afterTurn debug c w).2 =
        .ok (out ++ ((Event.turn r :: events).flatMap (Event.shown debug) ++ farewell last),
          .ended (exitCode last) w' c') := by
  induction delivers generalizing earlier r with
  | @done c w =>
    have last := last?_of_turns opening
    by_cases waits : r.status = .waiting
    · -- the input is at its end
      obtain rfl : rest = [] := all ((isWaiting_iff last).mpr waits)
      obtain ⟨code, silent⟩ := calm waits
      refine ⟨[], r, [.read none], opening, last, .closed waits, ?_, fun out => ?_⟩
      · rw [afterTurn_of_waiting last waits, code]
        exact .closed rfl
      · rw [afterTurn_of_waiting last waits, code, silent]
        simp [feedAll, feed, Event.shown, Except.map]
    · refine ⟨[], r, [], opening, last, .stopped waits, ?_, fun out => ?_⟩
      · rw [afterTurn_of_not_waiting last waits]
        exact .ended
      · rw [afterTurn_of_not_waiting last waits]
        simp [feedAll_ended]
  | @next c c₁ c₂ w w₁ w₂ line lines waiting taken _ ih =>
    have last := last?_of_turns opening
    have waits := (isWaiting_iff last).mp waiting
    obtain ⟨r₁, turns, last₁, calm₁⟩ := last_of_turn taken
    obtain ⟨new, lastResult, events, turns', last', course, runs, fed⟩ := ih turns calm₁ all
    refine ⟨r₁ :: new, lastResult, .read (some line) :: .turn r₁ :: events, ?_, last', .line waits course, ?_,
      fun out => ?_⟩
    · rw [turns', opening, List.append_assoc]
      rfl
    · rw [afterTurn_of_waiting last waits]
      exact .line (feed_of_send taken) ((last?_afterTurn debug c₁ w₁).trans last₁) runs
    · rw [afterTurn_of_waiting last waits, List.cons_append, feedAll, feed_of_send taken]
      refine (fed _).trans ?_
      simp [Event.shown]

theorem mapM_read_loaded (items : List KnowledgeItem) :
    (items.map GivenItem.loaded).mapM GivenItem.read = .ok items := by
  induction items with
  | nil => rfl
  | cons item items ih =>
    rw [List.map_cons, List.mapM_cons, ih]
    rfl

/-- **A session is a simulation with printing.** On any flow and any lines, with any persona and knowledge items, a
session takes the turns of the simulation that delivers the lines, in the same world. It shows them in order, reads a
line after every turn that waits and after no other, and prints nothing else but a farewell. It ends with the code 1 if
the last turn has an error, and with 0 otherwise, at the end of the input too. -/
theorem run_eq_simulate (d : Definition) (items : List KnowledgeItem) (persona : Option Text) (debug : Bool)
    (lines : List Text) (w : World) :
    Conversation.make (.make d .default) (items.map .loaded) persona [] = .ok (conversation d items persona) ∧
    ∃ c w' last events, (conversation d items persona).simulate lines w = .ok (c, w') ∧ c.last? = some last ∧
      Course c.turns lines events ∧
      Holds debug (conversation d items persona) w lines events (.ended (if last.error.isSome then 1 else 0) w' c) ∧
      run debug (conversation d items persona) lines w =
        .ok (events.flatMap (Event.shown debug) ++ farewell last,
          .ended (if last.error.isSome then 1 else 0) w' c) := by
  refine ⟨rfl, ?_⟩
  have readable : (conversation d items persona).knowledge.mapM GivenItem.read = .ok items := mapM_read_loaded items
  obtain ⟨c₁, w₁, started⟩ := Conversation.turn_of_readable readable none w
  obtain ⟨-, -, same⟩ := Conversation.turns_of_turn started
  obtain ⟨r, opening, last₁, calm⟩ := last_of_turn started
  obtain ⟨c', w', sent, rest, delivered, rfl, delivers, all⟩ := Conversation.exists_delivers (same ▸ readable) lines w₁
  obtain ⟨new, last, events, turns, last', course, runs, fed⟩ := runs_of_delivers delivers opening calm all debug
  have begun : begin debug (conversation d items persona) w = .ok (afterTurn debug c₁ w₁) := by
    unfold begin Conversation.start
    rw [started]
    rfl
  refine ⟨c', w', last, .turn r :: events, ?_, last', ?_, ?_, ?_⟩
  · unfold Conversation.simulate Conversation.start
    rw [started]
    exact delivered
  · rw [turns]
    exact course
  · exact ⟨_, _, r, events, begun, (last?_afterTurn debug c₁ w₁).trans last₁, rfl, runs⟩
  · unfold run
    rw [begun]
    exact fed []

/-- The parrot is told one thing, and then the input ends. -/
example : (run false (conversation .parrot [] none) ["Hi"] ⟨[], [], .empty⟩).toOption.map Prod.fst =
    some "Agent: Yes?\nYou: Agent: Hi\nAgent: Yes?\nYou: \n" := by decide +kernel

end Colloquy.Console
