import Colloquy.Proofs.Flow.Bare
import Colloquy.Proofs.Turn.Walk

/-!
# What a turn writes

A node stores texts only, and only in the variable that it declares (`Node.target?`). So a turn, however it ends, leaves
every variable alone that no visited node declares, removes none, and leaves a text wherever it has changed a value
(`Context.Writes`, `Interpreter.writes_executeTurn`).
-/

namespace Colloquy

/-! ## Writing to some names only -/

/-- From one context to the other, texts were stored under some of the target names and nothing else became of the
variables. -/
structure Context.Writes (targets : List Text) (before after : Context) : Prop where
  /-- A name that is no target stands for the same as before, or for nothing as before. -/
  others : ∀ name : Key, (∀ target ∈ targets, name ≠ target) → after.vars.get? name = before.vars.get? name
  /-- No variable is removed, and those that were there keep their order. -/
  kept : before.vars.keys <+: after.vars.keys
  texts : ∀ name : Key, after.vars.get? name ≠ before.vars.get? name → ∃ text, after.vars.get? name = some (.str text)

namespace Context.Writes

variable {targets targets' : List Text} {a b c : Context}

theorem of_vars (h : b.vars = a.vars) : a.Writes targets b := by
  have keys : a.vars.keys = b.vars.keys := congrArg Entries.keys h.symm
  refine ⟨fun name _ => by rw [h], keys ▸ List.prefix_refl a.vars.keys, fun name hne => ?_⟩
  rw [h] at hne
  exact absurd rfl hne

theorem refl (c : Context) : c.Writes targets c := of_vars rfl

theorem trans (h : a.Writes targets b) (h' : b.Writes targets c) : a.Writes targets c := by
  refine ⟨fun name hname => (h'.others name hname).trans (h.others name hname), h.kept.trans h'.kept, ?_⟩
  intro name hne
  by_cases last : c.vars.get? name = b.vars.get? name
  · -- the value was changed on the way to `b` and is still there
    rw [last] at hne ⊢
    exact h.texts name hne
  · exact h'.texts name last

theorem mono (h : a.Writes targets b) (sub : targets ⊆ targets') : a.Writes targets' b where
  others name hname := h.others name fun target hm => hname target (sub hm)
  kept := h.kept
  texts := h.texts

/-- Setting a variable to a text. -/
theorem setVariable {name text : Text} (h : a.setVariable name (.str text) = .ok b) : a.Writes [name] b := by
  obtain ⟨-, rfl⟩ := setVariable_eq_ok h
  have value (other : Key) : (a.vars.set (name : Key) (.str text)).get? other =
      if (name : Key) == other then some (.str text) else a.vars.get? other := Entries.get?_set ..
  refine ⟨fun other hother => ?_, ?_, fun other hne => ?_⟩
  · have apart : ((name : Key) == other) = false := by
      rw [BEq.comm, Bool.eq_false_iff]
      exact fun he => hother name (by simp) (Key.beq_text_iff.mp he)
    simp [value, apart]
  · show a.vars.keys <+: (a.vars.set (name : Key) (.str text)).keys
    rw [Entries.keys_set]
    split
    · exact List.prefix_refl _
    · exact List.prefix_append _ _
  · by_cases he : ((name : Key) == other) = true
    · exact ⟨text, by simp [value, he]⟩
    · exact absurd (by simp [value, he]) hne

end Context.Writes

/-! ## Nodes -/

namespace Node

variable {n : Node} {input : TurnInput} {s : Scene}

theorem Stores.writes {c c' : Context} (h : n.Stores c c') : c.Writes n.target?.toList c' := by
  cases h with
  | nothing => exact .refl c
  | text ht hs =>
    rw [ht]
    exact .setVariable hs

/-- A node writes to the variable that it declares, if to any. -/
theorem Does.writes {act : Act} (h : n.Does input s act) : s.context.Writes n.target?.toList act.scene.context := by
  cases h with
  | pass _ hc _ => exact hc.writes
  | accept _ _ _ hc _ => exact hc.writes.trans (.of_vars rfl)
  | finish | fail | reject | stay | ask => exact .of_vars rfl

end Node

/-! ## Walks and turns -/

/-- The names of the variables that visited nodes declare. -/
def Visit.targets (visits : List Visit) : List Text := visits.filterMap fun v => v.node.target?

theorem Visit.targets_concat (visits : List Visit) (n : Node) (move : Option Move) :
    targets (visits ++ [⟨n, move⟩]) = targets visits ++ n.target?.toList := by
  cases h : n.target? <;> simp [targets, h]

/-- A walk that began on a context has written to variables only that the nodes visited so far declare. -/
def Walk.WroteTo (c : Context) (w : Walk) : Prop := c.Writes (Visit.targets w.visits) w.scene.context

namespace Walk.WroteTo

variable {c : Context} {w : Walk} {n : Node} {input : TurnInput} {s : Scene}

/-- What a node has done, the walk has done with it. -/
theorem visit {act : Act} (h : w.WroteTo c) (hd : n.Does input (w.arrive n) act) (move : Option Move) :
    c.Writes (Visit.targets (w.visits ++ [⟨n, move⟩])) act.scene.context := by
  have here : (w.arrive n).context.Writes n.target?.toList act.scene.context := hd.writes
  have arrived : w.scene.context.Writes n.target?.toList (w.arrive n).context := .of_vars rfl
  rw [Visit.targets_concat]
  apply Context.Writes.trans (h.mono (List.subset_append_left _ _))
  exact (arrived.trans here).mono (List.subset_append_right _ _)

theorem record {step : Step} (h : w.WroteTo c) (hd : n.Does input (w.arrive n) ⟨.ok step, s⟩) :
    (w.record n s step).WroteTo c := by
  unfold WroteTo
  rw [record_eq]
  exact (h.visit hd (some step.move)).trans (.of_vars rfl)

end Walk.WroteTo

theorem Walk.keeps_wroteTo (d : Definition) (input : TurnInput) (c : Context) :
    Walk.Keeps d input (Walk.WroteTo c) (fun _ => Walk.WroteTo c) where
  outside _ hw := hw
  outOfSteps _ hw := hw
  failed _ hw hd := hw.visit hd none
  follows _ hw hd _ := hw.record hd
  waits _ _ hw hd _ := hw.record hd
  finishes _ hw hd _ := hw.record hd
  halts _ hw hd _ := (hw.record hd).trans (.of_vars rfl)

namespace Interpreter

variable {it : Interpreter} {call : TurnCall} {c : Context} {w : World} {t : Turn}

/-- **Only declared targets are written**, on any context, message, start node and knowledge, in any world, and however the
turn ends. -/
theorem writes_executeTurn (hread : call.context.read = .ok c) (ht : it.executeTurn call w = .ok t) :
    c.Writes (Visit.targets t.visits) t.result.context := by
  obtain ⟨c', items, hc', -, rfl⟩ := executeTurn_eq_ok_iff.mp ht
  obtain rfl : c = c' := Except.ok.inj (hread.symm.trans hc')
  have wrote : (it.outcome c items call w).2.WroteTo c :=
    (Walk.keeps_wroteTo it.definition (it.input items call) c).outcome (.refl c)
  exact wrote.trans (.of_vars (settle_keeps _ _).2.1)

/-- The parrot takes an answer, repeats it and asks again: it writes its one variable and leaves the other. -/
theorem writes_parrot :
    let c : Context := ⟨[(("mood" : Text), .int 1)], [], .str "ask", .str "ask"⟩
    let call : TurnCall := ⟨.loaded c, some "Hello", none, [], none⟩
    ∃ t, call.context.read = .ok c ∧ (make .parrot .default).executeTurn call ⟨[], [], .empty⟩ = .ok t ∧
      t.visits.length = 3 ∧ c.Writes (Visit.targets t.visits) t.result.context ∧
      t.result.context.vars.get? ("mood" : Text) = some (.int 1) := by
  intro c call
  obtain ⟨t, ht, three, declared⟩ : ∃ t, (make .parrot .default).executeTurn call ⟨[], [], .empty⟩ = .ok t ∧
      t.visits.length = 3 ∧ ∀ target ∈ Visit.targets t.visits, target = "answer" :=
    ⟨_, rfl, by decide +kernel, by decide +kernel⟩
  have writes : c.Writes (Visit.targets t.visits) t.result.context := writes_executeTurn rfl ht
  have free : ∀ target ∈ Visit.targets t.visits, (("mood" : Text) : Key) ≠ target := by
    intro target hm he
    rw [declared target hm] at he
    exact absurd (Key.text.inj he) (by decide)
  exact ⟨t, rfl, ht, three, writes, writes.others _ free⟩

end Interpreter

end Colloquy
