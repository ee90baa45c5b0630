import Colloquy.Proofs.Turn.Log
import Colloquy.Proofs.Turn.Resume

/-!
# Silence while the conversation waits

A turn without a message, on a context that waits at a node that asks, goes on waiting there: it says nothing, sends nothing
out and changes nothing but the node that the conversation is at (`Interpreter.lingers_take`). No turn depends on that node,
for a walk that comes to a node overwrites it, and one that comes to none clears it (`Interpreter.take_placed`). So after
any number of silent turns, the turn that breaks the silence is the one that it would have been before them
(`Interpreter.silence_is_harmless`).
-/

namespace Colloquy

/-! ## Where the conversation is makes no difference -/

/-- The context with the conversation at another place. -/
def Context.placed (c : Context) (v : Value) : Context := { c with currentNode := v }

/-- Two ways to end of which a turn makes the same. -/
structure Alike (o o' : Ending × Walk) : Prop where
  ending : o.1 = o'.1
  result : Interpreter.settle o.1 o.2 = Interpreter.settle o'.1 o'.2
  world : o.2.scene.world = o'.2.scene.world
  visits : o.2.visits = o'.2.visits

theorem Alike.refl (o : Ending × Walk) : Alike o o := ⟨rfl, rfl, rfl, rfl⟩

/-- A walk that takes its first step overwrites the place, and one that does not take it fails. -/
theorem alike_walk (d : Definition) (input : TurnInput) (left : Nat) {id : Text} (hid : id ≠ []) (w : Walk) (v : Value) :
    Alike (walk d input left id { w with scene := w.scene.withContext (w.scene.context.placed v) })
      (walk d input left id w) := by
  have counts : ¬id.isEmpty = true := by simpa using hid
  unfold walk
  rw [if_neg counts, if_neg counts]
  cases left with
  | zero => exact ⟨rfl, rfl, rfl, rfl⟩
  | succ left =>
    dsimp only
    cases d.node? id with
    | none => exact ⟨rfl, rfl, rfl, rfl⟩
    | some n => exact .refl _

namespace Interpreter

theorem alike_outcome (it : Interpreter) (c : Context) (v : Value) (items : List KnowledgeItem) (call : TurnCall)
    (w : World) : Alike (it.outcome (c.placed v) items call w) (it.outcome c items call w) := by
  unfold Interpreter.outcome
  rw [show it.entry (c.placed v) call.startNode = it.entry c call.startNode from rfl]
  cases he : it.entry c call.startNode with
  | none => exact ⟨rfl, rfl, rfl, rfl⟩
  | some entry =>
    dsimp only
    unfold walkFrom
    split
    next id =>
      have counts : id ≠ [] := fun h => entry_ne_empty he (congrArg Value.str h)
      exact alike_walk it.definition _ _ counts (it.opening c w) v
    next =>
      split
      · exact ⟨rfl, rfl, rfl, rfl⟩
      · split <;> exact ⟨rfl, rfl, rfl, rfl⟩

/-- **No turn depends on the node that the conversation is at.** -/
theorem take_placed (it : Interpreter) (c : Context) (v : Value) (items : List KnowledgeItem) (call : TurnCall)
    (w : World) : it.take (c.placed v) items call w = it.take c items call w := by
  have alike := it.alike_outcome c v items call w
  unfold take
  dsimp only
  rw [alike.result, alike.world, alike.visits, alike.ending]

end Interpreter

/-! ## Silent turns -/

/-- The call with a context of its own. -/
def TurnCall.on (call : TurnCall) (given : GivenContext) : TurnCall := { call with context := given }

/-- A call without a message that starts at the id, if it says where. -/
structure TurnCall.Silent (call : TurnCall) (id : Text) : Prop where
  message : nonEmpty? call.message = none
  starts : call.StartsAt id
  readable : ∃ items, call.knowledge.mapM GivenItem.read = .ok items

/-- A turn that goes on waiting at the id: it says nothing, leaves the world as it was, and the conversation too, except that
it is at this node. -/
structure Turn.Lingers (t : Turn) (id : Text) (c : Context) (w : World) : Prop where
  messages : t.result.messages = []
  status : t.result.status = .waiting
  next : t.result.next = some id
  context : t.result.context = c.placed (.str id)
  world : t.world = w

/-- Turns one after another, each in a world of its own and on the context that the one before it left, in the form in which
contexts are given; and the interpreter and the context after them. -/
def Interpreter.takeTurns (give : Context → GivenContext) (it : Interpreter) (c : Context) :
    List (TurnCall × World) → Except TurnRefusal (List Turn × Interpreter × Context)
  | [] => .ok ([], it, c)
  | (call, w) :: rest => do
    let t ← it.executeTurn (call.on (give c)) w
    let (turns, after) ← t.interpreter.takeTurns give t.result.context rest
    return (t :: turns, after)

/-- The context is read back from the form in which it is given, wherever the conversation is. -/
def Context.ReadsBack (give : Context → GivenContext) (c : Context) : Prop :=
  ∀ v, (give (c.placed v)).read = .ok (c.placed v)

theorem Context.ReadsBack.read {give : Context → GivenContext} {c : Context} (hc : c.ReadsBack give) :
    (give c).read = .ok c :=
  hc c.currentNode

theorem Definition.Awaits.placed {d : Definition} {n : Node} {c : Context} (h : d.Awaits n c) (v : Value) :
    d.Awaits n (c.placed v) :=
  ⟨h.found, h.asks, h.waits, h.nonempty⟩

namespace Interpreter

variable {it : Interpreter} {n : Node} {c : Context} {call : TurnCall} {w : World} {give : Context → GivenContext}

/-- **A turn without a message goes on waiting.** -/
theorem lingers_take (h : it.definition.Awaits n c) (hstart : call.StartsAt n.id) (hsteps : 1 ≤ it.settings.maxSteps)
    (hm : nonEmpty? call.message = none) (items : List KnowledgeItem) (w : World) :
    (it.take c items call w).Lingers n.id c w := by
  obtain ⟨left, walks⟩ := outcome_of_awaits h hstart hsteps items w
  have run := Node.run_of_silence (it.input items call) ((it.opening c w).arrive n) h.asks h.waits hm
  rw [walk_of_ok h.found h.nonempty run, Walk.record_eq] at walks
  unfold take
  rw [walks]
  refine ⟨rfl, rfl, rfl, ?_, rfl⟩
  simp [settle, Walk.arrive, opening, Scene.withContext, Context.placed]

theorem executeTurn_on (it : Interpreter) (hread : (give c).read = .ok c) (call : TurnCall) (w : World) :
    it.executeTurn (call.on (give c)) w =
      match call.knowledge.mapM GivenItem.read with
      | .ok items => .ok (it.take c items call w)
      | .error issues => .error (.knowledge issues) := by
  unfold executeTurn TurnCall.on
  simp only [hread]
  cases call.knowledge.mapM GivenItem.read <;> rfl

/-- A turn is refused, or not, whatever node the conversation is at, and otherwise is the same. -/
theorem executeTurn_placed (it : Interpreter) (hc : c.ReadsBack give) (v : Value) (call : TurnCall) (w : World) :
    it.executeTurn (call.on (give (c.placed v))) w = it.executeTurn (call.on (give c)) w := by
  rw [it.executeTurn_on (hc v), it.executeTurn_on hc.read]
  simp only [it.take_placed c v]

/-- Silent turns are taken, all of them go on waiting, and of what they leave only the place and the log are other. -/
theorem takeTurns_silent (h : it.definition.Awaits n c) (hc : c.ReadsBack give) (hsteps : 1 ≤ it.settings.maxSteps)
    {silence : List (TurnCall × World)} (silent : ∀ s ∈ silence, s.1.Silent n.id) : ∃ turns it' v,
      it.takeTurns give c silence = .ok (turns, it', c.placed v) ∧
      List.Forall₂ (fun s t => t.Lingers n.id c s.2) silence turns ∧ it'.informed = it.informed := by
  induction silence generalizing it c with
  | nil => exact ⟨[], it, c.currentNode, rfl, .nil, rfl⟩
  | cons first rest ih =>
    obtain ⟨call, w⟩ := first
    obtain ⟨silent, rest_silent⟩ := List.forall_mem_cons.mp silent
    obtain ⟨items, hitems⟩ := silent.readable
    have lingers : (it.take c items call w).Lingers n.id c w :=
      lingers_take h silent.starts hsteps silent.message items w
    -- the next turn is the informed interpreter's, on the context with the place set, and sets the place again
    have waits_on : it.informed.definition.Awaits n (c.placed (.str n.id)) := h.placed _
    obtain ⟨turns, it', v, taken, all, informed⟩ := ih waits_on (fun v => hc v) hsteps rest_silent
    have all : List.Forall₂ (fun s t => t.Lingers n.id c s.2) rest turns :=
      all.imp fun _ _ t => ⟨t.messages, t.status, t.next, t.context, t.world⟩
    refine ⟨it.take c items call w :: turns, it', v, ?_, .cons lingers all, informed⟩
    have first_taken : it.executeTurn (call.on (give c)) w = .ok (it.take c items call w) := by
      rw [it.executeTurn_on hc.read, hitems]
    have rest_taken : (it.take c items call w).interpreter.takeTurns give (it.take c items call w).result.context rest =
        .ok (turns, it', c.placed v) := by
      rw [lingers.context]
      exact taken
    unfold takeTurns
    simp only [first_taken, rest_taken, bind, Except.bind]
    rfl

/-- **Silence is harmless.** On a context that waits at a node that asks, any number of turns without a message are taken,
and each goes on waiting there: no message, nothing sent out, and the conversation as it was. Whatever turn follows, it is
the turn that would be taken without them, with the same result and in the same world, but for the lines in which the
interpreter reports what it found in the definition. -/
theorem silence_is_harmless (h : it.definition.Awaits n c) (hc : c.ReadsBack give) (hsteps : 1 ≤ it.settings.maxSteps)
    {silence : List (TurnCall × World)} (silent : ∀ s ∈ silence, s.1.Silent n.id) : ∃ turns it' c',
      it.takeTurns give c silence = .ok (turns, it', c') ∧
      List.Forall₂ (fun s t => t.Lingers n.id c s.2) silence turns ∧
      ∀ (call : TurnCall) (w : World), ∃ said : Except TurnRefusal Turn,
        it.executeTurn (call.on (give c)) w = said.map (Turn.precede it.openingLog) ∧
        it'.executeTurn (call.on (give c')) w = said.map (Turn.precede it'.openingLog) := by
  obtain ⟨turns, it', v, taken, all, informed⟩ := takeTurns_silent h hc hsteps silent
  refine ⟨turns, it', c.placed v, taken, all, fun call w => ⟨it.informed.executeTurn (call.on (give c)) w, ?_, ?_⟩⟩
  · exact it.executeTurn_precede _ w
  · rw [it'.executeTurn_precede, informed, executeTurn_placed _ hc]

/-- The parrot bears with two silent turns, and then takes what it is told. -/
theorem parrot_bears_silence :
    let c : Context := ⟨[], [], .null, .str "ask"⟩
    let world : World := ⟨[], [], .empty⟩
    let silence : List (TurnCall × World) :=
      [(⟨.fresh, none, none, [], none⟩, world), (⟨.fresh, some "", some "ask", [], none⟩, world)]
    let call : TurnCall := ⟨.fresh, some "Hello", none, [], none⟩
    ∃ n, Definition.parrot.Awaits n c ∧ ∃ t₁ t₂ it' c',
      (make .parrot .default).takeTurns .loaded c silence = .ok ([t₁, t₂], it', c') ∧
      t₁.result.status = .waiting ∧ t₂.result.status = .waiting ∧
      ∃ said : Except TurnRefusal Turn,
        (make .parrot .default).executeTurn (call.on (.loaded c)) world =
          said.map (Turn.precede (make .parrot .default).openingLog) ∧
        it'.executeTurn (call.on (.loaded c')) world = said.map (Turn.precede it'.openingLog) := by
  intro c world silence call
  obtain ⟨n, here, -, waiting⟩ := Definition.awaits_parrot
  have awaits : (make .parrot .default).definition.Awaits n c := waiting c rfl
  have loaded : c.ReadsBack .loaded := fun _ => rfl
  have unsaid : TurnCall.Silent ⟨.fresh, none, none, [], none⟩ "ask" := ⟨rfl, nofun, [], rfl⟩
  have empty : TurnCall.Silent ⟨.fresh, some "", some "ask", [], none⟩ "ask" :=
    ⟨rfl, fun _ h => (Option.some.inj h).symm, [], rfl⟩
  have silent : ∀ s ∈ silence, s.1.Silent n.id :=
    here ▸ List.forall_mem_cons.mpr ⟨unsaid, List.forall_mem_singleton.mpr empty⟩
  obtain ⟨turns, it', c', taken, all, following⟩ := silence_is_harmless awaits loaded (by decide) silent
  obtain ⟨t₁, rest, first, others, rfl⟩ := List.forall₂_cons_left_iff.mp all
  obtain ⟨t₂, rest, second, none_left, rfl⟩ := List.forall₂_cons_left_iff.mp others
  obtain rfl := List.forall₂_nil_left_iff.mp none_left
  exact ⟨_, awaits, t₁, t₂, it', c', taken, first.status, second.status, following call world⟩

end Interpreter

end Colloquy
