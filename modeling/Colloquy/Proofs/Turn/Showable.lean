import Colloquy.Proofs.Json.Limits
import Colloquy.Proofs.Turn.Encounter
import Colloquy.Proofs.Turn.Fault

/-!
# Values that a turn can write out

Nodes write values out in messages and prompts, in addresses and headers, where they compare or look up, and in what they
note. Every value has a text here (`Value.shown`, `Value.quoted`), but a program refuses to write an integer of too many
digits, and a value that is nested deeper than its stack. Within `Json.Limits.shown` no value is refused (`Value.Showable`). A
turn stores nothing but texts, so what its nodes find can all be written out if it can when the turn begins
(`Interpreter.showable_encounters`).
-/

namespace Colloquy

/-! ## Values -/

/-- The limits within which a value can be written out anywhere: a hundred levels leave room on every stack. -/
def Json.Limits.shown : Limits := ⟨some 4300, some 100⟩

namespace Value

/-- The value can be written out. -/
def Showable (v : Value) : Prop := Json.Limits.shown.Admits (Json.digits v) (Json.depth v)

theorem showable_iff {v : Value} : v.Showable ↔ Json.digits v ≤ 4300 ∧ Json.depth v ≤ 100 := by
  simp [Showable, Json.Limits.Admits, Json.Limits.shown]

instance (v : Value) : Decidable v.Showable := decidable_of_iff _ showable_iff.symm

theorem showable_null : null.Showable := Json.Limits.admits_zero _

theorem showable_str (text : Text) : (str text).Showable := Json.Limits.admits_zero _

theorem showable_texts (texts : List Text) : (list (texts.map str)).Showable :=
  (Json.check_eq_ok_iff _ _).mp (Json.checkItems_texts _ texts)

/-- Null stands for nothing, and so for nothing that is refused. -/
theorem showable_of_nonNull {v : Value} (h : ∀ v', v.nonNull? = some v' → v'.Showable) : v.Showable := by
  cases v with
  | null => exact showable_null
  | _ => exact h _ rfl

theorem eq_of_nonNull {v v' : Value} (h : v.nonNull? = some v') : v' = v := by
  cases v with
  | null => cases h
  | _ => exact (Option.some.inj h).symm

end Value

/-! ## Conversations -/

namespace Context

variable {c c' : Context}

/-- Every value that goes by a name can be written out. -/
def Showable (c : Context) : Prop := ∀ name v, c.lookup name = some v → v.Showable

/-- The history can be written out always, so only the ids and the variables matter; a variable under a reserved name is not
found. -/
theorem showable_iff : c.Showable ↔ c.currentNode.Showable ∧ c.waiting.Showable ∧
    ∀ name v, (∀ r ∈ reservedKeys, (name == (r : Key)) = false) → c.vars.get? name = some v → v.Showable := by
  constructor
  · intro h
    refine ⟨Value.showable_of_nonNull (h currentNodeKey), Value.showable_of_nonNull (h waitingKey), fun name v free hv => ?_⟩
    refine h name v ?_
    simp only [reservedKeys, List.forall_mem_cons] at free
    obtain ⟨history, current, waiting, -⟩ := free
    rw [lookup, history, current, waiting]
    exact hv
  · rintro ⟨current, waiting, vars⟩ name v hv
    unfold lookup at hv
    split at hv
    next => exact Option.some.inj hv ▸ Value.showable_texts c.history
    next history =>
      split at hv
      next => exact Value.eq_of_nonNull hv ▸ current
      next notCurrent =>
        split at hv
        next => exact Value.eq_of_nonNull hv ▸ waiting
        next notWaiting =>
          refine vars name v ?_ hv
          simp only [reservedKeys, List.forall_mem_cons]
          exact ⟨Bool.of_not_eq_true history, Bool.of_not_eq_true notCurrent, Bool.of_not_eq_true notWaiting,
            List.forall_mem_nil _⟩

theorem showable_empty : empty.Showable :=
  showable_iff.mpr ⟨Value.showable_null, Value.showable_null, nofun⟩

/-- New lines in the history change nothing. -/
theorem Showable.of_history (h : c.Showable) (history : List Text) : Showable { c with history } := by
  obtain ⟨current, waiting, vars⟩ := showable_iff.mp h
  exact showable_iff.mpr ⟨current, waiting, vars⟩

/-- The conversation may move to a node. -/
theorem Showable.of_currentNode (h : c.Showable) {v : Value} (hv : v.Showable) : Showable { c with currentNode := v } := by
  obtain ⟨-, waiting, vars⟩ := showable_iff.mp h
  exact showable_iff.mpr ⟨hv, waiting, vars⟩

/-- The conversation may wait at a node. -/
theorem Showable.of_waiting (h : c.Showable) {v : Value} (hv : v.Showable) : Showable { c with waiting := v } := by
  obtain ⟨current, -, vars⟩ := showable_iff.mp h
  exact showable_iff.mpr ⟨current, hv, vars⟩

/-- A value that can be written out may be stored. -/
theorem Showable.setVariable {name : Key} {v : Value} (h : c.Showable) (hv : v.Showable)
    (hs : c.setVariable name v = .ok c') : c'.Showable := by
  obtain ⟨-, rfl⟩ := setVariable_eq_ok hs
  obtain ⟨current, waiting, vars⟩ := showable_iff.mp h
  refine showable_iff.mpr ⟨current, waiting, fun other v' free hv' => ?_⟩
  rw [Entries.get?_set] at hv'
  split at hv'
  · cases hv'
    exact hv
  · exact vars other v' free hv'

end Context

/-! ## Nodes and walks -/

/-- What there is to write out in a scene can be written out: what goes by a name, and the status of every reply that is still
to come. -/
structure Scene.Showable (s : Scene) : Prop where
  context : s.context.Showable
  replies : ∀ status text, .reply status text ∈ s.world.outcomes → (Value.int status).Showable

namespace Node

variable {n : Node} {input : TurnInput} {s : Scene}

theorem Stores.showable {c c' : Context} (h : n.Stores c c') (hc : c.Showable) : c'.Showable := by
  cases h with
  | nothing => exact hc
  | text _ h => exact hc.setVariable (Value.showable_str _) h

theorem Does.showable {act : Act} (h : n.Does input s act) (hs : s.context.Showable) : act.scene.context.Showable := by
  cases h with
  | pass _ hc _ => exact hc.showable hs
  | accept _ _ _ hc _ => exact ((hc.showable hs).of_history _).of_waiting Value.showable_null
  | ask => exact hs.of_waiting (Value.showable_str n.id)
  | finish | fail | reject | stay => exact hs

/-- **A node leaves behind what can be written out**, if it finds nothing else. -/
theorem showable_run (hs : s.Showable) : (n.run input s).scene.Showable := by
  obtain ⟨taken, -⟩ := n.accounts_run input s
  exact ⟨(n.does_run input s).showable hs.context, fun status text hm => hs.replies status text (taken.mem hm)⟩

end Node

namespace Walk

variable {input : TurnInput} {n : Node} {w : Walk}

theorem showable_arrive (h : w.scene.Showable) : (w.arrive n).Showable :=
  ⟨h.context.of_currentNode (Value.showable_str n.id), h.replies⟩

theorem showable_pass (h : w.scene.Showable) : (w.pass input n).scene.Showable := by
  have left : (n.run input (w.arrive n)).scene.Showable := Node.showable_run (showable_arrive h)
  cases hr : n.run input (w.arrive n) with
  | mk result s =>
    rw [hr] at left
    cases result with
    | ok step =>
      rw [pass_of_ok hr, record_eq]
      exact ⟨left.context.of_history _, left.replies⟩
    | error f =>
      rw [pass_of_error hr]
      exact left

theorem showable_encounters {nodes : List Node} {e : Encounter} (h : w.scene.Showable)
    (he : e ∈ encounters input w nodes) : e.scene.Showable := by
  induction nodes generalizing w with
  | nil => cases he
  | cons n rest ih =>
    rcases List.mem_cons.mp he with rfl | he
    · exact showable_arrive h
    · exact ih (showable_pass h) he

end Walk

/-! ## Turns -/

namespace Interpreter

variable {it : Interpreter} {c : Context} {items : List KnowledgeItem} {call : TurnCall} {w : World} {e : Encounter}

/-- What a turn may have to write out can be written out when it begins: what goes by a name in the conversation, the status
of every reply, and the budget of steps. -/
structure Showable (it : Interpreter) (c : Context) (w : World) : Prop where
  scene : Scene.Showable ⟨c, false, w⟩
  budget : (Value.int it.settings.maxSteps).Showable

/-- **All that the nodes of a turn find can be written out**, if it can when the turn begins. -/
theorem showable_encounters (h : it.Showable c w) (he : e ∈ it.encounters c items call w) : e.scene.Showable :=
  Walk.showable_encounters h.scene he

end Interpreter

end Colloquy
