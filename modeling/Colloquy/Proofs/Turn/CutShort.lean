import Colloquy.Proofs.Flow.Bare
import Colloquy.Proofs.Turn.Growth

/-!
# The step budget cuts a turn short and changes nothing else

No node asks how many steps a turn may take (`Node.run_allowing`), so two walks that differ in this number alone go the same
way until the smaller number is used up. A walk that ends before that ends alike with any larger number; and one that is cut
short goes on from where it was cut (`walk_allowing_cases`). As a walk takes back nothing that it has gathered, what the
shorter turn tells and sends out is the beginning of what the longer one does (`Interpreter.executeTurn_allowing`).
-/

namespace Colloquy

/-! ## Walks -/

/-- The same work with another number of steps. -/
def TurnInput.allowing (input : TurnInput) (steps : Int) : TurnInput :=
  { input with settings := { input.settings with maxSteps := steps } }

/-- No node asks how many steps a turn may take. -/
theorem Node.run_allowing (n : Node) (input : TurnInput) (steps : Int) (s : Scene) :
    n.run (input.allowing steps) s = n.run input s := rfl

/-- One step of a walk with steps left: it ends the walk, or leads on to another place; either way it does so whatever the
number of steps is, and takes one visit at most. -/
theorem walk_succ_cases (d : Definition) (input : TurnInput) (id : Text) (w : Walk) :
    (∃ ending w', ending ≠ .outOfSteps ∧ w'.visits.length ≤ w.visits.length + 1 ∧
      ∀ steps left, walk d (input.allowing steps) (left + 1) id w = (ending, w')) ∨
    ∃ id' w', w'.visits.length = w.visits.length + 1 ∧ w.Grows w' ∧
      ∀ steps left, walk d (input.allowing steps) (left + 1) id w = walk d (input.allowing steps) left id' w' := by
  by_cases hid : id.isEmpty
  · refine .inl ⟨.idle, w, by simp, Nat.le_succ _, fun steps left => ?_⟩
    rw [walk, if_pos hid]
  cases hn : d.node? id with
  | none =>
    refine .inl ⟨.unknownNode (.str id), w, by simp, Nat.le_succ _, fun steps left => ?_⟩
    rw [walk, if_neg hid]
    simp only [hn]
  | some n =>
    obtain rfl := Definition.id_of_node? hn
    replace hid : n.id ≠ [] := by simpa using hid
    cases hr : n.run input (w.arrive n) with
    | mk result s =>
      -- the node does the same with any number of steps
      have same (steps : Int) : n.run (input.allowing steps) (w.arrive n) = ⟨result, s⟩ :=
        (n.run_allowing input steps _).trans hr
      cases result with
      | error f =>
        refine .inl ⟨.failed f, ({ w with scene := s } : Walk).visit n none, by simp, by simp [Walk.visit], fun steps left => ?_⟩
        exact walk_of_error hn hid (same steps) left
      | ok step =>
        have one : (w.record n s step).visits.length = w.visits.length + 1 := by simp [Walk.visits_record]
        cases hm : step.move with
        | await =>
          refine .inl ⟨.waiting n.id, w.record n s step, by simp, Nat.le_of_eq one, fun steps left => ?_⟩
          rw [walk_of_ok hn hid (same steps), hm]
        | finish =>
          refine .inl ⟨.finished, w.record n s step, by simp, Nat.le_of_eq one, fun steps left => ?_⟩
          rw [walk_of_ok hn hid (same steps), hm]
        | halt =>
          refine .inl ⟨.halted, (w.record n s step).halt n, by simp, Nat.le_of_eq one, fun steps left => ?_⟩
          rw [walk_of_ok hn hid (same steps), hm]
        | follow e =>
          refine .inr ⟨e.target, w.record n s step, one, .record hr, fun steps left => ?_⟩
          rw [walk_of_ok hn hid (same steps), hm]

section

variable (d : Definition) (input : TurnInput)

/-- A walk visits at most as many nodes as it has steps. -/
theorem length_visits_walk_le (steps : Int) (left : Nat) (id : Text) (w : Walk) :
    (walk d (input.allowing steps) left id w).2.visits.length ≤ w.visits.length + left := by
  induction left generalizing id w with
  | zero =>
    unfold walk
    split <;> exact Nat.le_refl _
  | succ left ih =>
    rcases walk_succ_cases d input id w with ⟨ending, w', -, few, ends⟩ | ⟨id', w', one, -, goes⟩
    · rw [ends]
      dsimp only
      omega
    · have rest := ih id' w'
      rw [goes]
      omega

/-- **With more steps a walk ends alike, or goes on from where it was cut short.** -/
theorem walk_allowing_cases (n m : Int) (left more : Nat) (id : Text) (w : Walk) :
    ((walk d (input.allowing n) left id w).1 ≠ .outOfSteps ∧
      walk d (input.allowing m) (left + more) id w = walk d (input.allowing n) left id w) ∨
    ∃ id' w', walk d (input.allowing n) left id w = (.outOfSteps, w'.exhaust n id') ∧ w.Grows w' ∧
      walk d (input.allowing m) (left + more) id w = walk d (input.allowing m) more id' w' := by
  induction left generalizing id w with
  | zero =>
    by_cases hid : id.isEmpty
    · left
      unfold walk
      rw [if_pos hid, if_pos hid]
      exact ⟨by simp, rfl⟩
    · refine .inr ⟨id, w, ?_, .refl w, by rw [Nat.zero_add]⟩
      unfold walk
      rw [if_neg hid]
      rfl
  | succ left ih =>
    rw [Nat.succ_add]
    rcases walk_succ_cases d input id w with ⟨ending, w', other, -, ends⟩ | ⟨id', w', -, grows, goes⟩
    · left
      rw [ends, ends]
      exact ⟨other, rfl⟩
    · rw [goes, goes]
      rcases ih id' w' with ended | ⟨id'', w'', cut, grows', onward⟩
      · exact .inl ended
      · exact .inr ⟨id'', w'', cut, grows.trans grows', onward⟩

/-- The same for a walk from wherever a turn enters the flow. -/
theorem walkFrom_allowing_cases {n m : Int} (h : n ≤ m) (entry : Value) (w : Walk) :
    ((walkFrom d (input.allowing n) entry w).1 ≠ .outOfSteps ∧
      walkFrom d (input.allowing m) entry w = walkFrom d (input.allowing n) entry w) ∨
    ∃ id w', walkFrom d (input.allowing n) entry w = (.outOfSteps, w'.exhaust n id) ∧ w.Grows w' ∧
      w'.Grows (walkFrom d (input.allowing m) entry w).2 := by
  cases entry with
  | str id =>
    obtain ⟨more, hmore⟩ : ∃ more, m.toNat = n.toNat + more := ⟨m.toNat - n.toNat, by omega⟩
    have cases := walk_allowing_cases d input n m n.toNat more id w
    rw [← hmore] at cases
    rcases cases with ended | ⟨id', w', cut, grows, onward⟩
    · exact .inl ended
    · refine .inr ⟨id', w', cut, grows, ?_⟩
      have rest := grows_walk d (input.allowing m) more id' w'
      rw [← onward] at rest
      exact rest
  | _ =>
    -- a place that is no text is looked up only if there is a step for it
    by_cases hn : n ≤ 0
    · exact .inr ⟨_, w, if_pos hn, .refl w, (Walk.tracks_grows d (input.allowing m) w).walkFrom _ (.refl w)⟩
    · left
      have fewer : ¬(input.allowing n).settings.maxSteps ≤ 0 := hn
      have more : ¬(input.allowing m).settings.maxSteps ≤ 0 := fun hm => hn (Int.le_trans h hm)
      unfold walkFrom
      dsimp only
      rw [if_neg fewer, if_neg more]
      exact ⟨by split <;> nofun, rfl⟩

end

/-! ## Turns -/

/-- **A turn that was cut short beside one that was allowed more steps**, on a context: what it tells and sends out is the
beginning of what the longer one does, but for the last line of its log, which says that it was cut short. -/
structure Turn.CutShort (steps : Int) (before : Context) (t t' : Turn) : Prop where
  messages : t.result.messages <+: t'.result.messages
  history : ∃ told told', t.result.context.history = before.history ++ told ∧
    t'.result.context.history = before.history ++ told' ∧ told <+: told'
  log : ∃ log id, t.result.debugLog =
    log ++ ["Step budget of " ++ Text.ofInt steps ++ " exhausted before node '" ++ id ++ "'"] ∧
    log <+: t'.result.debugLog
  visits : t.visits <+: t'.visits
  prompts : t.world.journal.prompts <+: t'.world.journal.prompts
  requests : t.world.journal.requests <+: t'.world.journal.requests
  sleeps : t.world.journal.sleeps <+: t'.world.journal.sleeps

namespace Interpreter

variable (it : Interpreter)

/-- The interpreter with another number of steps for a turn. -/
def allowing (steps : Int) : Interpreter := { it with settings := { it.settings with maxSteps := steps } }

variable (c : Context) (items : List KnowledgeItem) (call : TurnCall) (w : World)

theorem length_visits_outcome_le (n : Int) :
    (((it.allowing n).outcome c items call w).2.visits.length : Int) ≤ max n 0 := by
  have fresh : (it.opening c w).visits.length = 0 := rfl
  unfold outcome
  cases (it.allowing n).entry c call.startNode with
  | none => exact Int.le_max_right _ _
  | some entry =>
    cases entry with
    | str id =>
      have few := length_visits_walk_le it.definition (it.input items call) n n.toNat id (it.opening c w)
      show ((walk it.definition ((it.input items call).allowing n) n.toNat id (it.opening c w)).2.visits.length : Int) ≤ _
      omega
    | _ =>
      dsimp only [walkFrom]
      split
      · exact Int.le_max_right _ _
      · split <;> exact Int.le_max_right _ _

variable {n m : Int}

/-- With more steps the walk of a turn ends alike, or what it had gathered when it was cut short is the beginning of what it
gathers. -/
theorem outcome_allowing_cases (h : n ≤ m) :
    (((it.allowing n).outcome c items call w).1 ≠ .outOfSteps ∧
      (it.allowing m).outcome c items call w = (it.allowing n).outcome c items call w) ∨
    ∃ id w', (it.allowing n).outcome c items call w = (.outOfSteps, w'.exhaust n id) ∧
      (it.opening c w).Grows w' ∧ w'.Grows ((it.allowing m).outcome c items call w).2 := by
  have same (steps : Int) : (it.allowing steps).entry c call.startNode = it.entry c call.startNode := rfl
  unfold outcome
  rw [same n, same m]
  cases it.entry c call.startNode with
  | none => exact .inl ⟨nofun, rfl⟩
  | some entry => exact walkFrom_allowing_cases it.definition (it.input items call) h entry (it.opening c w)

theorem settle_log (ending : Ending) (done : Walk) : (settle ending done).debugLog = done.log := by
  cases ending <;> rfl

/-- A turn that was cut short is cut short of every turn that is allowed more steps. -/
theorem cutShort_take {id : Text} {w' : Walk}
    (cut : (it.allowing n).outcome c items call w = (.outOfSteps, w'.exhaust n id)) (begins : (it.opening c w).Grows w')
    (goes_on : w'.Grows ((it.allowing m).outcome c items call w).2) :
    ((it.allowing n).take c items call w).CutShort n c ((it.allowing m).take c items call w) := by
  obtain ⟨told, htold⟩ := begins.history
  obtain ⟨told', htold'⟩ := (begins.trans goes_on).history
  obtain ⟨messages, -, history⟩ := settle_keeps ((it.allowing m).outcome c items call w).1
    ((it.allowing m).outcome c items call w).2
  have log := settle_log ((it.allowing m).outcome c items call w).1 ((it.allowing m).outcome c items call w).2
  unfold take
  rw [cut]
  dsimp only
  constructor
  case messages =>
    rw [messages]
    exact goes_on.messages
  case history =>
    refine ⟨told, told', htold.symm, history.trans htold'.symm, ?_⟩
    have longer := goes_on.history
    rw [← htold, ← htold', List.prefix_append_right_inj] at longer
    exact longer
  case log =>
    refine ⟨w'.log, id, rfl, ?_⟩
    rw [log]
    exact goes_on.log
  case visits => exact goes_on.visits
  case prompts => exact goes_on.journal.prompts
  case requests => exact goes_on.journal.requests
  case sleeps => exact goes_on.journal.sleeps

/-- **The step budget only cuts, it never changes.** A turn that is allowed some steps and one that is allowed as many or
more, on equal calls and in equal worlds, are refused alike or both taken. The one with fewer steps runs no more nodes than
it has steps. If it is not stopped by its budget, the other has the same result and leaves the same world; and if it is, it
is cut short of the other. -/
theorem executeTurn_allowing (h : n ≤ m) :
    (∃ r, (it.allowing n).executeTurn call w = .error r ∧ (it.allowing m).executeTurn call w = .error r) ∨
    ∃ c t t', call.context.read = .ok c ∧ (it.allowing n).executeTurn call w = .ok t ∧
      (it.allowing m).executeTurn call w = .ok t' ∧ (t.visits.length : Int) ≤ max n 0 ∧
      (t.ending ≠ .outOfSteps → t'.result = t.result ∧ t'.world = t.world) ∧
      (t.ending = .outOfSteps → t.CutShort n c t') := by
  unfold executeTurn
  cases hc : call.context.read with
  | error e => exact .inl ⟨_, rfl, rfl⟩
  | ok c =>
    cases hi : call.knowledge.mapM GivenItem.read with
    | error issues => exact .inl ⟨_, rfl, rfl⟩
    | ok items =>
      refine .inr ⟨c, _, _, rfl, rfl, rfl, it.length_visits_outcome_le c items call w n, ?_⟩
      rcases it.outcome_allowing_cases c items call w h with ⟨ended, same⟩ | ⟨id, w', cut, begins, goes_on⟩
      · refine ⟨fun _ => ?_, fun stopped => absurd stopped ended⟩
        unfold take
        rw [same]
        exact ⟨rfl, rfl⟩
      · refine ⟨fun other => ?_, fun _ => it.cutShort_take c items call w cut begins goes_on⟩
        have stopped : ((it.allowing n).take c items call w).ending = .outOfSteps := congrArg Prod.fst cut
        exact absurd stopped other

/-- With one step the parrot's first turn is cut short of the turn in which it asks. -/
theorem cutShort_parrot : (1 : Int) ≤ 50 ∧ ∃ t t',
    ((make .parrot .default).allowing 1).executeTurn ⟨.fresh, none, none, [], none⟩ ⟨[], [], .empty⟩ = .ok t ∧
    ((make .parrot .default).allowing 50).executeTurn ⟨.fresh, none, none, [], none⟩ ⟨[], [], .empty⟩ = .ok t' ∧
    t.ending = .outOfSteps ∧ t'.ending = .waiting "ask" ∧ t.CutShort 1 .empty t' := by
  obtain ⟨t, ht, short⟩ : ∃ t, ((make .parrot .default).allowing 1).executeTurn ⟨.fresh, none, none, [], none⟩
      ⟨[], [], .empty⟩ = .ok t ∧ t.ending = .outOfSteps := ⟨_, rfl, rfl⟩
  obtain ⟨t', ht', long⟩ : ∃ t', ((make .parrot .default).allowing 50).executeTurn ⟨.fresh, none, none, [], none⟩
      ⟨[], [], .empty⟩ = .ok t' ∧ t'.ending = .waiting "ask" := ⟨_, rfl, rfl⟩
  refine ⟨by decide, t, t', ht, ht', short, long, ?_⟩
  rcases executeTurn_allowing (make .parrot .default) ⟨.fresh, none, none, [], none⟩ ⟨[], [], .empty⟩
    (show (1 : Int) ≤ 50 by decide) with ⟨r, hr, -⟩ | ⟨c, u, u', hc, hu, hu', -, -, cut⟩
  · rw [ht] at hr
    cases hr
  · cases hc
    cases ht.symm.trans hu
    cases ht'.symm.trans hu'
    exact cut short

end Interpreter

end Colloquy
