import Colloquy.Conversation
import Colloquy.Proofs.Turn.Walk
import Mathlib.Logic.Function.Basic

/-!
# Refused turns leave no trace

An office has one interpreter for all conversations, the contexts that they keep, and the world, and all of these are changed
while a turn is executed. Its steps are taken in order (`Order.execute`): the context is read, then the knowledge items one by
one, then the interpreter makes its report, and then the flow is walked. Only the first two can refuse a turn, which they do
exactly when the context or an item cannot be read (`Order.Unreadable`), and nothing has been changed by then. So the office
goes on as if it had not been asked for the turn, and a conversation that is led turn by turn stays as it is
(`Office.refusals_leave_no_trace`).
-/

namespace Colloquy

/-- The first element that fails makes a list fail. -/
theorem mapM_eq_error_iff {α β ε : Type} {f : α → Except ε β} {l : List α} {e : ε} : l.mapM f = .error e ↔
    ∃ before a after, l = before ++ a :: after ∧ (∀ x ∈ before, ∃ b, f x = .ok b) ∧ f a = .error e := by
  induction l with
  | nil => exact iff_of_false nofun fun ⟨_, _, _, split, _⟩ => by simp at split
  | cons x l ih =>
    rw [List.mapM_cons]
    constructor
    · intro h
      cases hx : f x with
      | error e' =>
        rw [hx] at h
        cases h
        exact ⟨[], x, l, rfl, nofun, hx⟩
      | ok b =>
        rw [hx] at h
        cases hl : l.mapM f with
        | ok bs =>
          rw [hl] at h
          cases h
        | error e' =>
          rw [hl] at h
          cases h
          obtain ⟨before, a, after, rfl, good, failed⟩ := ih.mp hl
          exact ⟨x :: before, a, after, rfl, List.forall_mem_cons.mpr ⟨⟨b, hx⟩, good⟩, failed⟩
    · rintro ⟨before, a, after, split, good, failed⟩
      cases before with
      | nil =>
        cases split
        rw [failed]
        rfl
      | cons y before =>
        cases split
        obtain ⟨⟨b, hb⟩, good⟩ := List.forall_mem_cons.mp good
        rw [hb, ih.mpr ⟨before, a, after, rfl, good, failed⟩]
        rfl

/-! ## Turns step by step -/

/-- What lasts from turn to turn: one interpreter, the contexts that conversations keep, and the world. -/
structure Office (κ : Type) where
  interpreter : Interpreter
  contexts : κ → Context
  world : World

/-- A turn that is asked for in a conversation. -/
structure Order (κ : Type) where
  conversation : κ
  /-- The context to take the turn on, if it is not the one that the conversation keeps. -/
  context : Option GivenContext
  message : Option Text
  startNode : Option Text
  knowledge : List GivenItem
  persona : Option Text

/-- A program that changes an office, and at a refusal stops with the office as it has left it. -/
abbrev Procedure (κ : Type) := EStateM TurnRefusal (Office κ)

namespace Order

/-! ### Reading -/

variable {κ : Type} (q : Order κ)

/-- The turn's arguments at the time of asking. -/
def call (o : Office κ) : TurnCall :=
  ⟨q.context.getD (.loaded (o.contexts q.conversation)), q.message, q.startNode, q.knowledge, q.persona⟩

/-- Goes on with what was read, or refuses the turn. -/
def accept {ε α : Type} (refusal : ε → TurnRefusal) : Except ε α → Procedure κ α
  | .ok a => pure a
  | .error e => throw (refusal e)

def readContext : Procedure κ Context := do
  accept .context (q.call (← get)).context.read

/-- Reads the knowledge items, one by one. -/
def readKnowledge : Procedure κ (List KnowledgeItem) :=
  q.knowledge.mapM fun item => accept .knowledge item.read

theorem readContext_eq (o : Office κ) : q.readContext o =
    match (q.call o).context.read with
    | .ok c => .ok c o
    | .error e => .error (.context e) o := by
  show accept TurnRefusal.context (q.call o).context.read o = _
  cases (q.call o).context.read <;> rfl

/-- Knowledge items that are read leave the office as it is, and so does the first one that cannot be read. -/
theorem readKnowledge_eq (o : Office κ) : q.readKnowledge o =
    match (q.call o).knowledge.mapM GivenItem.read with
    | .ok items => .ok items o
    | .error issues => .error (.knowledge issues) o := by
  show q.knowledge.mapM (fun item => accept TurnRefusal.knowledge item.read) o =
    match q.knowledge.mapM GivenItem.read with
    | .ok items => .ok items o
    | .error issues => .error (.knowledge issues) o
  induction q.knowledge with
  | nil => rfl
  | cons item rest ih =>
    rw [List.mapM_cons, List.mapM_cons]
    cases item.read with
    | error issues => rfl
    | ok read =>
      show (rest.mapM (fun item => accept TurnRefusal.knowledge item.read) >>= fun items => pure (read :: items)) o = _
      simp only [bind, EStateM.bind, ih, Except.bind]
      cases rest.mapM GivenItem.read <;> rfl

/-! ### Refusing -/

/-- **What cannot be read**, and why: the context that is given, or else the first knowledge item that cannot, wherever it
stands. -/
inductive Unreadable (q : Order κ) : TurnRefusal → Prop
  | context {v : Value} {e : LoadError} : q.context = some (.flat v) → Context.ofFlat v = .error e →
      Unreadable q (.context e)
  | item {before after : List GivenItem} {v : Value} {issues : List Schema.Issue} :
      (∀ v, q.context = some (.flat v) → ∃ c, Context.ofFlat v = .ok c) → q.knowledge = before ++ .raw v :: after →
      (∀ item ∈ before, ∃ read, item.read = .ok read) → (KnowledgeItem.read v).toExcept = .error issues →
      Unreadable q (.knowledge issues)

variable {q} {o : Office κ} {r : TurnRefusal}

theorem readItem_eq_error_iff {item : GivenItem} {issues : List Schema.Issue} : item.read = .error issues ↔
    ∃ v, item = .raw v ∧ (KnowledgeItem.read v).toExcept = .error issues := by
  cases item with
  | loaded => exact iff_of_false nofun nofun
  | raw v => exact ⟨fun h => ⟨v, rfl, h⟩, fun ⟨_, same, h⟩ => by cases same; exact h⟩

/-- A turn's context cannot be read only if it is given as a flat mapping. -/
theorem call_read_eq_error_iff {e : LoadError} : (q.call o).context.read = .error e ↔
    ∃ v, q.context = some (.flat v) ∧ Context.ofFlat v = .error e := by
  unfold call
  cases q.context with
  | none => exact iff_of_false nofun nofun
  | some given =>
    cases given with
    | fresh | loaded => exact iff_of_false nofun nofun
    | flat v => exact ⟨fun h => ⟨v, rfl, h⟩, fun ⟨_, same, h⟩ => by cases same; exact h⟩

theorem exists_call_read_iff : (∃ c, (q.call o).context.read = .ok c) ↔
    ∀ v, q.context = some (.flat v) → ∃ c, Context.ofFlat v = .ok c := by
  unfold call
  cases q.context with
  | none => exact iff_of_true ⟨_, rfl⟩ nofun
  | some given =>
    cases given with
    | fresh | loaded => exact iff_of_true ⟨_, rfl⟩ nofun
    | flat v => exact ⟨fun h _ same => by cases same; exact h, fun h => h v rfl⟩

/-- A turn is refused for what cannot be read, and for nothing else. -/
theorem executeTurn_eq_error_iff : o.interpreter.executeTurn (q.call o) o.world = .error r ↔ q.Unreadable r := by
  rw [Interpreter.executeTurn_eq_error_iff]
  constructor
  · rintro (⟨e, hc, rfl⟩ | ⟨c, issues, hc, hi, rfl⟩)
    · obtain ⟨v, given, unloadable⟩ := call_read_eq_error_iff.mp hc
      exact .context given unloadable
    · obtain ⟨before, item, after, split, good, failed⟩ := mapM_eq_error_iff.mp hi
      obtain ⟨v, rfl, unparsed⟩ := readItem_eq_error_iff.mp failed
      exact .item (exists_call_read_iff.mp ⟨c, hc⟩) split good unparsed
  · rintro (⟨given, unloadable⟩ | ⟨loads, split, good, unparsed⟩)
    · exact .inl ⟨_, call_read_eq_error_iff.mpr ⟨_, given, unloadable⟩, rfl⟩
    · obtain ⟨c, hc⟩ := exists_call_read_iff.mpr loads
      exact .inr ⟨c, _, hc, mapM_eq_error_iff.mpr ⟨_, _, _, split, good, unparsed⟩, rfl⟩

/-- Whether a turn can be read, whoever is asked for it. -/
def readable (q : Order κ) : Bool := (q.context.getD .fresh).read.isOk && (q.knowledge.mapM GivenItem.read).isOk

theorem isOk_executeTurn (q : Order κ) (o : Office κ) :
    (o.interpreter.executeTurn (q.call o) o.world).isOk = q.readable := by
  have context : (q.call o).context.read.isOk = (q.context.getD .fresh).read.isOk := by
    unfold call
    cases q.context <;> rfl
  have knowledge : (q.call o).knowledge = q.knowledge := rfl
  unfold readable Interpreter.executeTurn
  rw [← context, ← knowledge]
  cases (q.call o).context.read with
  | error e => rfl
  | ok c => cases (q.call o).knowledge.mapM GivenItem.read <;> rfl

/-- A number is no mapping, and so no context. -/
example : (⟨(), some (.flat (.int 1)), none, none, [], none⟩ : Order Unit).readable = false := rfl

/-! ### Executing -/

/-- The interpreter reports what was found in the definition, if it has not done so before. -/
def report : Procedure κ (List Text) := do
  let o ← get
  set { o with interpreter := { o.interpreter with reported := true } }
  return o.interpreter.openingLog

variable (q) [DecidableEq κ]

/-- Walks the flow and settles the turn; the conversation keeps the context that comes of it. -/
def walk (c : Context) (items : List KnowledgeItem) (log : List Text) : Procedure κ TurnResult := do
  let o ← get
  let it := o.interpreter
  let start : Walk := ⟨⟨c, false, o.world⟩, [], log, []⟩
  let (ending, done) := match it.entry c q.startNode with
    | some entry => walkFrom it.definition (it.input items (q.call o)) entry start
    | none => (.noStart, start)
  let result := Interpreter.settle ending done
  set { o with
    contexts := Function.update o.contexts q.conversation result.context
    world := done.scene.world }
  return result

/-- Executes a turn, step by step. -/
def execute : Procedure κ TurnResult := do
  let c ← q.readContext
  let items ← q.readKnowledge
  let log ← report
  q.walk c items log

/-- The office after a turn that was taken. -/
def after (o : Office κ) (t : Turn) : Office κ :=
  ⟨t.interpreter, Function.update o.contexts q.conversation t.result.context, t.world⟩

/-- **The steps make up a turn**: they give its result and leave the office as the turn does, and at a refusal they leave it
as it was. -/
theorem execute_eq (o : Office κ) : q.execute o =
    match o.interpreter.executeTurn (q.call o) o.world with
    | .ok t => .ok t.result (q.after o t)
    | .error r => .error r o := by
  unfold execute Interpreter.executeTurn
  simp only [bind, EStateM.bind, readContext_eq]
  cases (q.call o).context.read with
  | error e => rfl
  | ok c =>
    dsimp only
    rw [readKnowledge_eq]
    cases (q.call o).knowledge.mapM GivenItem.read <;> rfl

variable {q}

/-- At a refusal the office is as it was. -/
theorem execute_eq_error_iff {o' : Office κ} : q.execute o = .error r o' ↔ q.Unreadable r ∧ o' = o := by
  rw [execute_eq, ← executeTurn_eq_error_iff]
  cases o.interpreter.executeTurn (q.call o) o.world with
  | ok t => exact iff_of_false nofun fun h => by cases h.1
  | error r' => simp [eq_comm]

end Order

/-! ## Turns one after another -/

namespace Office

variable {κ : Type} [DecidableEq κ]

/-- The results of turns in order, or why they were refused, and the office after them. -/
def serve : List (Order κ) → Office κ → List (Except TurnRefusal TurnResult) × Office κ
  | [], o => ([], o)
  | q :: qs, o =>
    match q.execute o with
    | .ok result o =>
      let (results, o) := serve qs o
      (.ok result :: results, o)
    | .error r o =>
      let (results, o) := serve qs o
      (.error r :: results, o)

/-- All that is asked for after a refused turn is answered as if it had not been asked for. -/
theorem serve_cons_of_unreadable {q : Order κ} {r : TurnRefusal} (h : q.Unreadable r) (qs : List (Order κ))
    (o : Office κ) : serve (q :: qs) o = (.error r :: (serve qs o).1, (serve qs o).2) := by
  rw [serve, Order.execute_eq_error_iff.mpr ⟨h, rfl⟩]

/-- Leaving out all turns that are refused leaves out the refusals and changes nothing else. -/
theorem serve_filter_readable (qs : List (Order κ)) (o : Office κ) :
    serve (qs.filter Order.readable) o = ((serve qs o).1.filter Except.isOk, (serve qs o).2) := by
  induction qs generalizing o with
  | nil => rfl
  | cons q qs ih =>
    have read := q.isOk_executeTurn o
    have executed := q.execute_eq o
    cases ht : o.interpreter.executeTurn (q.call o) o.world with
    | error r =>
      rw [ht] at read executed
      rw [List.filter_cons_of_neg (by simp [← read, Except.isOk, Except.toBool]), ih, serve, executed]
      rfl
    | ok t =>
      rw [ht] at read executed
      rw [List.filter_cons_of_pos (by simp [← read, Except.isOk, Except.toBool]), serve, serve, executed]
      dsimp only
      rw [ih]
      rfl

end Office

/-! ## Conversations -/

namespace Conversation

/-- The office that a conversation has to itself. -/
def office (c : Conversation) (w : World) : Office Unit := ⟨c.interpreter, fun _ => c.context, w⟩

/-- The next turn of a conversation. -/
def order (c : Conversation) (message : Option Text) : Order Unit := ⟨(), none, message, c.next, c.knowledge, c.persona⟩

/-- A conversation that is led from turn to turn, and the world around it. -/
abbrev Leading := EStateM TurnRefusal (Conversation × World)

/-- Has something done in the conversation's office; whatever was changed there stays changed. -/
def within {α : Type} (p : Conversation → Procedure Unit α) : Leading α := fun (c, w) =>
  let back (o : Office Unit) : Conversation × World :=
    ({ c with interpreter := o.interpreter, context := o.contexts () }, o.world)
  match p c (c.office w) with
  | .ok a o => .ok a (back o)
  | .error r o => .error r (back o)

/-- Takes a turn, and then notes its result. -/
def step (message : Option Text) : Leading TurnResult := do
  let result ← within fun c => (c.order message).execute
  modify fun (c, w) =>
    ({ c with context := result.context, next := result.next, turns := c.turns ++ [result], handedOut := none }, w)
  return result

/-- **The steps make up a turn of the conversation.** -/
theorem step_eq (c : Conversation) (message : Option Text) (w : World) : step message (c, w) =
    match c.interpreter.executeTurn (c.call message) w with
    | .ok t => .ok t.result (c.afterTurn t, t.world)
    | .error r => .error r (c, w) := by
  have executed : (c.order message).execute (c.office w) =
      match c.interpreter.executeTurn (c.call message) w with
      | .ok t => .ok t.result ((c.order message).after (c.office w) t)
      | .error r => .error r (c.office w) := (c.order message).execute_eq (c.office w)
  unfold step within
  simp only [bind, EStateM.bind]
  rw [executed]
  cases c.interpreter.executeTurn (c.call message) w <;> rfl

/-- A turn that is refused leaves the conversation as it was. -/
theorem step_eq_error_iff {c c' : Conversation} {message : Option Text} {w w' : World} {r : TurnRefusal} :
    step message (c, w) = .error r (c', w') ↔ (c.order message).Unreadable r ∧ c' = c ∧ w' = w := by
  have refused : c.interpreter.executeTurn (c.call message) w = .error r ↔ (c.order message).Unreadable r :=
    Order.executeTurn_eq_error_iff (q := c.order message) (o := c.office w)
  rw [step_eq, ← refused]
  cases c.interpreter.executeTurn (c.call message) w with
  | ok t => exact iff_of_false nofun fun h => by cases h.1
  | error r' => simp [eq_comm]

end Conversation

/-- **A refused turn leaves no trace.** A turn is refused exactly for what cannot be read of its context or its knowledge
items, and then nothing has changed. So all that is asked for later is answered as if the turn had not been asked for, and of
any number of turns those that are refused can be left out. A conversation that is led turn by turn stays as it is, too. -/
theorem Office.refusals_leave_no_trace {κ : Type} [DecidableEq κ] :
    (∀ (q : Order κ) (o o' : Office κ) (r : TurnRefusal), q.execute o = .error r o' ↔ q.Unreadable r ∧ o' = o) ∧
    (∀ (q : Order κ) (r : TurnRefusal), q.Unreadable r → ∀ (qs : List (Order κ)) (o : Office κ),
      serve (q :: qs) o = (.error r :: (serve qs o).1, (serve qs o).2)) ∧
    (∀ (qs : List (Order κ)) (o : Office κ),
      serve (qs.filter Order.readable) o = ((serve qs o).1.filter Except.isOk, (serve qs o).2)) ∧
    ∀ (c c' : Conversation) (message : Option Text) (w w' : World) (r : TurnRefusal),
      Conversation.step message (c, w) = .error r (c', w') ↔ (c.order message).Unreadable r ∧ c' = c ∧ w' = w :=
  ⟨fun _ _ _ _ => Order.execute_eq_error_iff, fun _ _ => serve_cons_of_unreadable, serve_filter_readable,
    fun _ _ _ _ _ _ => Conversation.step_eq_error_iff⟩

end Colloquy
