import Colloquy.Proofs.Context.Flat
import Colloquy.Proofs.Turn.Outcome

/-!
# Where a conversation waits

Turns that one interpreter takes one after another, each on the context that the one before it left
(`Interpreter.Takes`). Wherever they start, the context waits at no node or at one that asks the user. If each starts
where the one before it left off, the context waits exactly after a turn that has ended waiting
(`Interpreter.waiting_of_takes`): no turn leaves a node behind that a later turn would go back to.

A turn that does not wait may end without a word about the waiting node, so this rests on where it started. On its way
the conversation waits nowhere, or at the very node that the turn has come to and that is about to take the message
(`Walk.Awaits`); started elsewhere, a turn passes the waiting node by.
-/

namespace Colloquy

/-! ## Turns one after another -/

/-- The turns, the latest first, that an interpreter takes one after another from a context on. Each is given, in one form
or another, the context that the one before it gave back, and starts where `starts` allows after a turn that named this
node to resume at. A turn that is refused leaves no trace, so it is not among them. -/
inductive Interpreter.Takes (it : Interpreter) (c : Context) (starts : Option Text → Option Text → Prop) :
    List Turn → Prop
  | nil : Takes it c starts []
  | cons {turns : List Turn} {call : TurnCall} {w : World} {t : Turn} : Takes it c starts turns →
      call.context.read = .ok (turns.head?.elim c (·.result.context)) →
      starts (turns.head?.bind (·.result.next)) call.startNode →
      (turns.head?.elim it (·.interpreter)).executeTurn call w = .ok t → Takes it c starts (t :: turns)

/-- A turn starts where the one before it left off when it is told so, or told nothing. -/
def Resuming (next start : Option Text) : Prop := start = none ∨ start = next

namespace Interpreter.Takes

variable {it : Interpreter} {c : Context} {starts : Option Text → Option Text → Prop} {turns : List Turn}

theorem definition_eq (h : it.Takes c starts turns) :
    (turns.head?.elim it (·.interpreter)).definition = it.definition := by
  induction h with
  | nil => rfl
  | cons _ _ _ ht ih =>
    obtain ⟨_, _, -, -, rfl⟩ := executeTurn_eq_ok_iff.mp ht
    exact ih

theorem coherent (h : it.Takes c starts turns) : ∀ t ∈ turns, t.result.Coherent it.definition := by
  induction h with
  | nil => exact List.forall_mem_nil _
  | cons hprev _ _ ht ih =>
    obtain ⟨_, _, -, -, rfl⟩ := executeTurn_eq_ok_iff.mp ht
    exact List.forall_mem_cons.mpr ⟨hprev.definition_eq ▸ coherent_take _ _ _ _ _, ih⟩

/-- What a turn has of itself when its context and the node to resume at are as the turns before it leave them, all turns
have. -/
theorem forall_turns (h : it.Takes c starts turns) {P : Option Text → Context → Prop} {Q : Turn → Prop} (start : P none c)
    (leaves : ∀ t, Q t → P t.result.next t.result.context)
    (turn : ∀ {it' : Interpreter} {next : Option Text} {ctx : Context} {call : TurnCall} {w : World} {t : Turn},
      it'.definition = it.definition → P next ctx → call.context.read = .ok ctx → starts next call.startNode →
      it'.executeTurn call w = .ok t → Q t) : ∀ t ∈ turns, Q t := by
  induction h with
  | nil => exact List.forall_mem_nil _
  | @cons turns _ _ _ hprev hread hstart ht ih =>
    have before : P (turns.head?.bind (·.result.next)) (turns.head?.elim c (·.result.context)) := by
      cases turns with
      | nil => exact start
      | cons last _ => exact leaves last (ih last List.mem_cons_self)
    exact List.forall_mem_cons.mpr ⟨turn hprev.definition_eq before hread hstart ht, ih⟩

/-- **What a turn keeps of its context, and of the node to resume at, holds after all turns.** -/
theorem rule (h : it.Takes c starts turns) {P : Option Text → Context → Prop} (start : P none c)
    (turn : ∀ {it' : Interpreter} {next : Option Text} {ctx : Context} {call : TurnCall} {w : World} {t : Turn},
      it'.definition = it.definition → P next ctx → call.context.read = .ok ctx → starts next call.startNode →
      it'.executeTurn call w = .ok t → P t.result.next t.result.context) :
    ∀ t ∈ turns, P t.result.next t.result.context :=
  h.forall_turns start (fun _ kept => kept) turn

end Interpreter.Takes

/-! ## Only where it asks -/

/-- A context that waits at no node, or at one that asks the user. -/
def Context.WaitsAtAsking (d : Definition) (c : Context) : Prop :=
  c.waiting = .null ∨ ∃ id, c.waiting = .str id ∧ d.AsksAt id

namespace Context.WaitsAtAsking

variable {d : Definition} {input : TurnInput} {n : Node} {w : Walk}

theorem does {act : Act} (hw : w.scene.context.WaitsAtAsking d) (hn : d.node? n.id = some n)
    (hd : n.Does input (w.arrive n) act) : act.scene.context.WaitsAtAsking d := by
  rcases hd.waiting_cases with same | null | ⟨hk, here⟩
  · unfold WaitsAtAsking
    rw [same]
    exact hw
  · exact .inl null
  · exact .inr ⟨n.id, here, n, hn, hk⟩

theorem record {step : Step} {s : Scene} (hw : w.scene.context.WaitsAtAsking d) (hn : d.node? n.id = some n)
    (hd : n.Does input (w.arrive n) ⟨.ok step, s⟩) : (w.record n s step).scene.context.WaitsAtAsking d := by
  rw [Walk.record_eq]
  exact hw.does hn hd

end Context.WaitsAtAsking

theorem Walk.keeps_waitsAtAsking (d : Definition) (input : TurnInput) :
    Walk.Keeps d input (fun w => w.scene.context.WaitsAtAsking d) (fun _ w => w.scene.context.WaitsAtAsking d) where
  outside _ hw := hw
  outOfSteps _ hw := hw
  failed hn hw hd := hw.does hn hd
  follows hn hw hd _ := hw.record hn hd
  waits hn _ hw hd _ := hw.record hn hd
  finishes hn hw hd _ := hw.record hn hd
  halts hn hw hd _ := hw.record hn hd

theorem Context.WaitsAtAsking.settle {d : Definition} {done : Walk} (h : done.scene.context.WaitsAtAsking d)
    (ending : Ending) : (Interpreter.settle ending done).context.WaitsAtAsking d := by
  cases ending with
  | waiting | halted | idle => exact h
  | finished | noStart | outOfSteps | unknownNode | unusableId | failed => exact .inl rfl

/-- **A turn waits at nodes that ask only**, wherever it starts. -/
theorem Context.WaitsAtAsking.executeTurn {it : Interpreter} {ctx : Context} (hc : ctx.WaitsAtAsking it.definition)
    {call : TurnCall} (hread : call.context.read = .ok ctx) {w : World} {t : Turn}
    (ht : it.executeTurn call w = .ok t) : t.result.context.WaitsAtAsking it.definition := by
  obtain ⟨c, items, hc', -, rfl⟩ := Interpreter.executeTurn_eq_ok_iff.mp ht
  obtain rfl : ctx = c := Except.ok.inj (hread.symm.trans hc')
  have done : (it.outcome ctx items call w).2.scene.context.WaitsAtAsking it.definition :=
    (Walk.keeps_waitsAtAsking it.definition (it.input items call)).outcome hc
  exact done.settle _

/-! ## Exactly after waiting turns -/

/-- The conversation waits nowhere, or at the node that the walk has come to, which asks. -/
def Walk.Awaits (d : Definition) (v : Value) (w : Walk) : Prop :=
  w.scene.context.waiting = .null ∨ ∃ id, v = .str id ∧ id ≠ [] ∧ d.AsksAt id

namespace Walk.Awaits

variable {d : Definition} {input : TurnInput} {n : Node} {w : Walk}

/-- A walk that goes on from a node, or ends there without waiting, leaves the conversation waiting nowhere. -/
theorem record {step : Step} {s : Scene} (hw : w.Awaits d (.str n.id)) (hn : d.node? n.id = some n)
    (hr : n.run input (w.arrive n) = ⟨.ok step, s⟩) (hm : step.move ≠ .await) :
    (w.record n s step).scene.context.waiting = .null := by
  have asks : (w.arrive n).context.waiting = .null ∨ n.kind? = some .getUserInput := by
    refine hw.imp_right ?_
    rintro ⟨id, hv, -, m, hm, hk⟩
    cases hv
    rw [hn] at hm
    cases hm
    exact hk
  rw [Walk.record_eq]
  exact (Node.Does.of_run hr).waiting_eq_null asks hm

end Walk.Awaits

theorem Walk.tracks_awaits (d : Definition) (input : TurnInput) : Walk.Tracks d input (Walk.Awaits d)
    (fun e w => (∀ id, e ≠ .waiting id) → (Interpreter.settle e w).context.waiting = .null) where
  idle hw _ := by
    refine hw.resolve_right ?_
    rintro ⟨id, hv, hid, -⟩
    exact hid (Value.str.inj hv).symm
  outOfSteps _ _ _ := rfl
  unknownNode _ _ _ _ := rfl
  unusableId _ _ _ := rfl
  failed _ _ _ _ _ := rfl
  follows hn _ hw hr hm := .inl (hw.record hn hr (by simp [hm]))
  waits _ _ _ _ _ h := absurd rfl (h _)
  finishes _ _ _ _ _ _ := rfl
  halts hn _ hw hr hm _ := hw.record hn hr (by simp [hm])

/-- The context waits at the node to resume at, and nowhere if there is none. -/
def Context.Poised (d : Definition) (next : Option Text) (c : Context) : Prop :=
  match next with
  | none => c.waiting = .null
  | some id => c.waiting = .str id ∧ id ≠ [] ∧ d.AsksAt id

namespace Context.Poised

variable {it : Interpreter} {next : Option Text} {ctx : Context}

theorem waiting_ne_null_iff {d : Definition} (hc : ctx.Poised d next) : ctx.waiting ≠ .null ↔ next ≠ none := by
  cases next with
  | none => exact ⟨fun h => absurd hc h, fun h => absurd rfl h⟩
  | some id =>
    obtain ⟨hw, -, -⟩ := hc
    exact ⟨nofun, fun _ => by simp [hw]⟩

/-- A turn that resumes comes first to the node that the context waits at. -/
theorem awaits (hc : ctx.Poised it.definition next) {start : Option Text} (hs : Resuming next start) {entry : Value}
    (he : it.entry ctx start = some entry) (world : World) : (it.opening ctx world).Awaits it.definition entry := by
  cases next with
  | none => exact .inl hc
  | some id =>
    obtain ⟨hw, hid, ha⟩ := hc
    refine .inr ⟨id, ?_, hid, ha⟩
    rcases hs with rfl | rfl
    · simp [Interpreter.entry, nonEmpty?, hw, Value.isFalsy, hid] at he
      exact he.symm
    · simp [Interpreter.entry, nonEmpty?, hid] at he
      exact he.symm

/-- **A turn that resumes leaves the context waiting where the next one is to resume.** -/
theorem executeTurn (hc : ctx.Poised it.definition next) {call : TurnCall} (hread : call.context.read = .ok ctx)
    (hs : Resuming next call.startNode) {w : World} {t : Turn} (ht : it.executeTurn call w = .ok t) :
    t.result.context.Poised it.definition t.result.next := by
  obtain ⟨c, items, hc', -, rfl⟩ := Interpreter.executeTurn_eq_ok_iff.mp ht
  obtain rfl : ctx = c := Except.ok.inj (hread.symm.trans hc')
  cases hn : (it.take ctx items call w).result.next with
  | some id =>
    obtain ⟨hid, -, hw, ha⟩ := (Interpreter.coherent_take it ctx items call w).of_next id hn
    exact ⟨hw, hid, ha⟩
  | none =>
    have cleared := (Walk.tracks_awaits it.definition (it.input items call)).outcome ctx w
      (fun entry he => hc.awaits hs he w) (fun _ _ => rfl)
    refine cleared fun id he => ?_
    have named : (Interpreter.settle (it.outcome ctx items call w).1 (it.outcome ctx items call w).2).next = none := hn
    rw [he] at named
    cases named

end Context.Poised

namespace Interpreter

/-- **Where a conversation waits between turns.** After every turn of a run from a fresh context, wherever the turns
start, the context waits nowhere or at a node that asks the user. When each starts where the one before it left off, the
context waits exactly after a turn with the status `waiting`. -/
theorem waiting_of_takes (it : Interpreter) {initial : Entries Text Value} {c : Context}
    (hc : Context.create initial = .ok c) :
    (∀ starts turns, it.Takes c starts turns → ∀ t ∈ turns, t.result.context.WaitsAtAsking it.definition) ∧
    (∀ turns, it.Takes c Resuming turns →
      ∀ t ∈ turns, (t.result.context.waiting ≠ .null ↔ t.result.status = .waiting)) := by
  have fresh := Context.waiting_create hc
  constructor
  · intro starts turns h
    refine h.rule (P := fun _ ctx => ctx.WaitsAtAsking it.definition) (.inl fresh) fun hd hctx hread _ ht => ?_
    rw [← hd] at hctx ⊢
    exact hctx.executeTurn hread ht
  · intro turns h t hm
    have poised := h.rule (P := fun next ctx => ctx.Poised it.definition next) fresh
      (fun hd hctx hread hs ht => by
        rw [← hd] at hctx ⊢
        exact hctx.executeTurn hread hs ht) t hm
    exact poised.waiting_ne_null_iff.trans (h.coherent t hm).next_iff

/-- A run of two turns with the parrot: it asks, and asks again after it has repeated what it was told. -/
theorem waiting_parrot : ∃ t₁ t₂, (make .parrot .default).Takes .empty Resuming [t₂, t₁] ∧
    t₂.result.context.WaitsAtAsking .parrot ∧ (t₂.result.context.waiting ≠ .null ↔ t₂.result.status = .waiting) := by
  obtain ⟨t₁, h₁, -⟩ := waits_parrot
  let again : TurnCall := ⟨.loaded t₁.result.context, some "Hello", t₁.result.next, [], none⟩
  obtain ⟨t₂, h₂⟩ : ∃ t₂, t₁.interpreter.executeTurn again ⟨[], [], .empty⟩ = .ok t₂ :=
    ⟨_, executeTurn_eq_ok_iff.mpr ⟨_, [], rfl, rfl, rfl⟩⟩
  have takes : (make .parrot .default).Takes .empty Resuming [t₂, t₁] :=
    .cons (.cons .nil rfl (.inl rfl) h₁) rfl (.inr rfl) h₂
  have fresh : Context.create [] = .ok .empty := rfl
  obtain ⟨anywhere, resuming⟩ := waiting_of_takes (make .parrot .default) fresh
  exact ⟨t₁, t₂, takes, anywhere _ _ takes t₂ List.mem_cons_self, resuming _ takes t₂ List.mem_cons_self⟩

end Interpreter

end Colloquy
