import Colloquy.Proofs.Conversation.Run
import Colloquy.Proofs.Turn.Walk

/-!
# Persisting a conversation changes nothing

A controller keeps nothing between turns but the context, and that only as a flat mapping: before every turn it writes
the mapping and reads it back, and it never says where a turn starts. It replies to any cues as a conversation does that
keeps the context itself and the node to resume at (`Controller.replies_eq`).

What carries the proof is `Conversation.Resumable`: no variable goes by a reserved name, so that the mapping gives the
context back; and the node to resume at, if there is one, is the node that the context waits at, so that the next turn
finds it without being told. A turn keeps this however it ends (`Conversation.Resumable.afterTurn`).
-/

namespace Colloquy

/-! ## Turns -/

/-- What a later turn needs of a walk's end: no reserved variables, and the context waits where the walk does. -/
def Walk.Resumes (ending : Ending) (w : Walk) : Prop :=
  w.scene.context.Unreserved ∧ ∀ id, ending = .waiting id → id ≠ [] ∧ w.scene.context.waiting = .str id

theorem Walk.unreserved_record {input : TurnInput} {n : Node} {w : Walk} {step : Step} {s : Scene}
    (hw : w.scene.context.Unreserved) (hd : n.Does input (w.arrive n) ⟨.ok step, s⟩) :
    (w.record n s step).scene.context.Unreserved := by
  rw [Walk.record_eq]
  exact hd.unreserved hw

theorem Walk.keeps_resumes (d : Definition) (input : TurnInput) :
    Walk.Keeps d input (fun w => w.scene.context.Unreserved) Walk.Resumes where
  outside {e w} he hw := ⟨hw, fun id h => by subst h; cases he⟩
  outOfSteps _ hw := ⟨hw, fun _ h => by cases h⟩
  failed _ hw hd := ⟨hd.unreserved hw, fun _ h => by cases h⟩
  follows _ hw hd _ := Walk.unreserved_record hw hd
  waits _ hid hw hd hm := by
    refine ⟨Walk.unreserved_record hw hd, fun id h => ?_⟩
    cases h
    rw [Walk.record_eq]
    exact ⟨hid, hd.waiting_of_await hm⟩
  finishes _ hw hd _ := ⟨Walk.unreserved_record hw hd, fun _ h => by cases h⟩
  halts _ hw hd _ := ⟨Walk.unreserved_record hw hd, fun _ h => by cases h⟩

namespace Conversation

/-- The context holds all that the next turn needs. -/
structure Resumable (c : Conversation) : Prop where
  unreserved : c.context.Unreserved
  next : ∀ id, c.next = some id → id ≠ [] ∧ c.context.waiting = .str id

theorem resumable_make {it : Interpreter} {knowledge : List GivenItem} {persona : Option Text}
    {initial : Entries Text Value} {c : Conversation} (h : make it knowledge persona initial = .ok c) :
    c.Resumable := by
  obtain ⟨ctx, hctx, rfl⟩ := make_eq_ok_iff.mp h
  exact ⟨Context.unreserved_create hctx, fun _ h => by cases h⟩

/-- **A turn leaves the conversation resumable, however it ends.** -/
theorem Resumable.afterTurn {c : Conversation} (hc : c.Resumable) {call : TurnCall}
    (hctx : call.context = .loaded c.context) {w : World} {t : Turn} (ht : c.interpreter.executeTurn call w = .ok t) :
    (c.afterTurn t).Resumable := by
  obtain ⟨ctx, items, hread, -, rfl⟩ := Interpreter.executeTurn_eq_ok_iff.mp ht
  obtain rfl : c.context = ctx := by rw [hctx] at hread; exact Except.ok.inj hread
  have hr : Walk.Resumes (c.interpreter.outcome c.context items call w).1
      (c.interpreter.outcome c.context items call w).2 := (Walk.keeps_resumes _ _).outcome hc.unreserved
  obtain ⟨hu, hw⟩ := hr
  refine ⟨hu.of_vars (Interpreter.settle_keeps _ _).2.1, fun id hid => ?_⟩
  obtain ⟨he, hsame⟩ := Interpreter.settle_next hid
  have hctx : (c.afterTurn (c.interpreter.take c.context items call w)).context =
    (c.interpreter.outcome c.context items call w).2.scene.context := hsame
  rw [hctx]
  exact hw id he

/-- Setting a variable leaves the bookkeeping alone. -/
theorem Resumable.setVariable {c c' : Conversation} (hc : c.Resumable) {name : Key} {v : Value}
    (h : c.setVariable name v = .ok c') : c'.Resumable := by
  obtain ⟨ctx, hs, rfl⟩ := setVariable_eq_ok_iff.mp h
  obtain ⟨-, rfl⟩ := Context.setVariable_eq_ok hs
  exact ⟨hc.unreserved.setVariable hs, hc.next⟩

/-- A resumable conversation enters the flow at the same place when it does not say where. -/
theorem Resumable.entry_eq {c : Conversation} (hc : c.Resumable) :
    c.interpreter.entry c.context none = c.interpreter.entry c.context c.next := by
  cases hn : c.next with
  | none => rfl
  | some id =>
    obtain ⟨hid, hw⟩ := hc.next id hn
    simp [Interpreter.entry, nonEmpty?, hw, Value.isFalsy, hid]

theorem Resumable.executeTurn_eq {c : Conversation} (hc : c.Resumable) (message : Option Text) (w : World) :
    c.interpreter.executeTurn { c.call message with startNode := none } w =
      c.interpreter.executeTurn (c.call message) w := by
  simp only [Interpreter.executeTurn, Interpreter.take, Interpreter.outcome, call, GivenContext.read, hc.entry_eq]
  rfl

end Conversation

/-! ## The controller -/

/-- One who keeps only the context between turns. -/
structure Controller where
  interpreter : Interpreter
  knowledge : List GivenItem
  persona : Option Text
  context : Context

namespace Controller

/-- A controller that begins with a fresh context. -/
def make (it : Interpreter) (knowledge : List GivenItem) (persona : Option Text) (initial : Entries Text Value) :
    Except Refusal Controller :=
  (Context.create initial).map fun c => ⟨it, knowledge, persona, c⟩

/-- A turn on the context that the flat mapping of the kept one stands for, without a word on where to start. -/
def turn (message : Option Text) (k : Controller) (w : World) : Reply × Controller × World :=
  match Context.ofEntries k.context.toFlat with
  | .error e => (.unreadable e, k, w)
  | .ok c =>
    match k.interpreter.executeTurn ⟨.loaded c, message, none, k.knowledge, k.persona⟩ w.turnPage with
    | .error r => (.refused r, { k with context := c }, w)
    | .ok t =>
      (.turn (some t.result) t.world.journal,
        { k with interpreter := t.interpreter, context := t.result.context }, t.world)

/-- How a controller answers a cue. -/
def answer (cue : Cue) (k : Controller) (w : World) : Reply × Controller × World :=
  match cue with
  | .start => k.turn none w
  | .send message => k.turn (some message) w
  | .set name v =>
    match k.context.setVariable name v with
    | .ok c => (.stored, { k with context := c }, w)
    | .error r => (.reserved r, k, w)

/-- The controller keeps what the conversation keeps, but for the node to resume at. -/
structure Follows (k : Controller) (c : Conversation) : Prop where
  same : k = ⟨c.interpreter, c.knowledge, c.persona, c.context⟩
  resumable : c.Resumable

/-- What two leaders make of one cue agrees: the replies, the worlds, and what they keep. -/
def Agree (x : Reply × Controller × World) (y : Reply × Conversation × World) : Prop :=
  x.1 = y.1 ∧ x.2.1.Follows y.2.1 ∧ x.2.2 = y.2.2

theorem Follows.turn {k : Controller} {c : Conversation} (h : k.Follows c) (message : Option Text) (w : World) :
    Agree (k.turn message w) (c.told w (c.turn message w.turnPage)) := by
  obtain ⟨rfl, hc⟩ := h
  unfold Controller.turn
  rw [Context.ofEntries_toFlat hc.unreserved]
  dsimp only
  have heq := hc.executeTurn_eq message w.turnPage
  simp only [Conversation.call] at heq
  rw [heq]
  unfold Conversation.turn
  cases ht : c.interpreter.executeTurn (c.call message) w.turnPage with
  | error r =>
    simp only [Conversation.call] at ht
    rw [ht]
    exact ⟨rfl, ⟨rfl, hc⟩, rfl⟩
  | ok t =>
    have after : (c.afterTurn t).Resumable := hc.afterTurn rfl ht
    simp only [Conversation.call] at ht
    rw [ht]
    refine ⟨?_, ⟨rfl, after⟩, rfl⟩
    simp [Conversation.told, Except.map, Conversation.last?, Conversation.afterTurn]

/-- **The two reply alike to one cue.** -/
theorem Follows.answer {k : Controller} {c : Conversation} (h : k.Follows c) (cue : Cue) (w : World) :
    Agree (k.answer cue w) (c.answer cue w) := by
  cases cue with
  | start => exact h.turn none w
  | send message => exact h.turn (some message) w
  | set name v =>
    obtain ⟨rfl, hc⟩ := h
    unfold Controller.answer Conversation.answer
    cases hs : c.context.setVariable name v with
    | error r =>
      have hr : c.setVariable name v = .error r := by simp [Conversation.setVariable, hs, Except.map]
      simp only [hs, hr]
      exact ⟨rfl, ⟨rfl, hc⟩, rfl⟩
    | ok ctx =>
      have hok : c.setVariable name v = .ok { c with context := ctx } :=
        Conversation.setVariable_eq_ok_iff.mpr ⟨ctx, hs, rfl⟩
      simp only [hs, hok]
      exact ⟨rfl, ⟨rfl, hc.setVariable hok⟩, rfl⟩

/-- **Persisting the context before every turn changes no reply, and leaves the same context behind.** -/
theorem replies_eq (it : Interpreter) (knowledge : List GivenItem) (persona : Option Text)
    (initial : Entries Text Value) (cues : List Cue) (w : World) :
    ((make it knowledge persona initial).map fun k =>
      let (replies, k, _) := converse answer cues k w
      (replies, k.context)) =
    (Conversation.make it knowledge persona initial).map fun c =>
      let (replies, c, _) := converse Conversation.answer cues c w
      (replies, c.context) := by
  unfold make
  cases hc : Context.create initial with
  | error r => simp [Conversation.make, hc, Except.map]
  | ok ctx =>
    have hmake : Conversation.make it knowledge persona initial = .ok ⟨it, knowledge, persona, ctx, none, [], none⟩ :=
      Conversation.make_eq_ok_iff.mpr ⟨ctx, hc, rfl⟩
    have start : Follows ⟨it, knowledge, persona, ctx⟩ ⟨it, knowledge, persona, ctx, none, [], none⟩ :=
      ⟨rfl, Conversation.resumable_make hmake⟩
    obtain ⟨replies, states⟩ := converse_eq (R := Follows) (fun cue _ _ w h => h.answer cue w) cues w start
    rw [hmake]
    simp only [Except.map]
    rw [replies, states.same]

end Controller

end Colloquy
