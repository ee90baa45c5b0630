import Colloquy.Proofs.Conversation.Persistence

/-!
# However a context is handled

Authors and drivers create contexts, load them from whatever was persisted, set variables, add lines, mark them as waiting,
put them away and take turns on them (`Handling`), in any order; and some of this fails, which leaves the context as it was
(`Context.after`). A copy is the context itself, for contexts are values. After all of it no variable goes by a reserved
name (`Context.unreserved_handled`), and so the flat mapping always stands for the very context that it was made from, name
by name and as a whole (`Context.flat_handled`).
-/

namespace Colloquy

/-- What can be done with a context. -/
inductive Handling where
  /-- Goes on with a fresh context with variables. -/
  | create (initial : Entries Text Value)
  /-- Goes on with the context that a persisted value stands for. -/
  | load (v : Value)
  /-- Goes on with the context that a JSON text stands for. -/
  | loadJson (text : Text)
  | setVariable (name : Key) (v : Value)
  | addUserMessage (text : Text)
  | addAgentMessage (text : Text)
  | setWaiting (id : Value)
  | clearWaiting
  | clearPosition
  /-- Puts the context away as a flat mapping and takes it up again. -/
  | persist
  /-- Takes a turn on the context. -/
  | turn (it : Interpreter) (message startNode : Option Text) (knowledge : List GivenItem) (persona : Option Text)
      (world : World)

namespace Context

/-! ## Contexts that are read -/

/-- A context that is read from a mapping has no reserved variables: reading takes their entries away. -/
theorem unreserved_ofEntries {es : Entries Key Value} {c : Context} (h : ofEntries es = .ok c) : c.Unreserved := by
  unfold ofEntries at h
  cases hh : historyOf ((es.get? (historyKey : Key)).getD .null) with
  | error e =>
    rw [hh] at h
    cases h
  | ok history =>
    rw [hh] at h
    cases h
    intro name hm
    dsimp only
    simp only [Entries.get?_erase, Key.text_beq_text, beq_iff_eq]
    simp only [reservedKeys, List.mem_cons, List.not_mem_nil, or_false] at hm
    rcases hm with rfl | rfl | rfl <;> simp

theorem unreserved_ofFlat {v : Value} {c : Context} (h : ofFlat v = .ok c) : c.Unreserved := by
  unfold ofFlat at h
  cases hm : mappingOf v with
  | error e =>
    rw [hm] at h
    cases h
  | ok es =>
    rw [hm] at h
    exact unreserved_ofEntries h

theorem unreserved_ofJson {text : Text} {c : Context} (h : ofJson text = .ok c) : c.Unreserved := by
  unfold ofJson at h
  cases hj : Json.read .standard text with
  | error e =>
    rw [hj] at h
    cases h
  | ok v =>
    rw [hj] at h
    exact unreserved_ofFlat h

/-- A turn leaves no reserved variables, however it ends. -/
theorem Unreserved.executeTurn {it : Interpreter} {call : TurnCall} {w : World} {t : Turn} {c : Context}
    (hc : c.Unreserved) (hread : call.context.read = .ok c) (ht : it.executeTurn call w = .ok t) :
    t.result.context.Unreserved := by
  obtain ⟨c', items, hread', -, rfl⟩ := Interpreter.executeTurn_eq_ok_iff.mp ht
  cases hread.symm.trans hread'
  obtain ⟨hu, -⟩ := (Walk.keeps_resumes it.definition (it.input items call)).outcome hc
  exact hu.of_vars (Interpreter.settle_keeps _ _).2.1

/-! ## Sequences of handlings -/

/-- The context that something gives, or this one if it fails. -/
def orElse {ε : Type} (c : Context) : Except ε Context → Context
  | .ok c' => c'
  | .error _ => c

/-- The context after it was handled. What fails leaves the context as it was. -/
def after (c : Context) : Handling → Context
  | .create initial => c.orElse (create initial)
  | .load v => c.orElse (ofFlat v)
  | .loadJson text => c.orElse (ofJson text)
  | .setVariable name v => c.orElse (c.setVariable name v)
  | .addUserMessage text => c.addUserMessage text
  | .addAgentMessage text => c.addAgentMessage text
  | .setWaiting id => c.setWaiting id
  | .clearWaiting => c.clearWaiting
  | .clearPosition => c.clearPosition
  | .persist => c.orElse (ofEntries c.toFlat)
  | .turn it message startNode knowledge persona world =>
    c.orElse ((it.executeTurn ⟨.loaded c, message, startNode, knowledge, persona⟩ world).map fun t => t.result.context)

/-- A context after all that was done with it since it was a fresh one. -/
def handled (hs : List Handling) : Context := hs.foldl after empty

theorem Unreserved.orElse {ε : Type} {c : Context} (hc : c.Unreserved) {r : Except ε Context}
    (h : ∀ c', r = .ok c' → c'.Unreserved) : (c.orElse r).Unreserved := by
  cases r with
  | ok c' => exact h c' rfl
  | error e => exact hc

/-- **Nothing that is done with a context sets a reserved variable.** -/
theorem Unreserved.after {c : Context} (hc : c.Unreserved) (h : Handling) : (c.after h).Unreserved := by
  cases h with
  | create initial => exact hc.orElse fun _ h => unreserved_create h
  | load v => exact hc.orElse fun _ h => unreserved_ofFlat h
  | loadJson text => exact hc.orElse fun _ h => unreserved_ofJson h
  | setVariable name v => exact hc.orElse fun _ h => hc.setVariable h
  | persist => exact hc.orElse fun _ h => unreserved_ofEntries h
  | turn it message startNode knowledge persona world =>
    refine hc.orElse fun c' h => ?_
    cases ht : it.executeTurn ⟨.loaded c, message, startNode, knowledge, persona⟩ world with
    | error r =>
      rw [ht] at h
      cases h
    | ok t =>
      rw [ht] at h
      cases h
      exact hc.executeTurn rfl ht
  | addUserMessage | addAgentMessage | setWaiting | clearWaiting | clearPosition => exact hc.of_vars rfl

theorem unreserved_handled (hs : List Handling) : (handled hs).Unreserved := by
  have from_ : ∀ (hs : List Handling) (c : Context), c.Unreserved → (hs.foldl Context.after c).Unreserved := by
    intro hs
    induction hs with
    | nil => exact fun _ hc => hc
    | cons h hs ih => exact fun c hc => ih (c.after h) (hc.after h)
  exact from_ hs empty unreserved_empty

theorem Unreserved.notMem_keys {c : Context} (hc : c.Unreserved) {name : Text} (hm : name ∈ reservedKeys) :
    (name : Key) ∉ c.vars.keys := by
  intro hk
  have none := Entries.get?_eq_none_iff _ _ |>.mp (hc name hm)
  rw [List.any_eq_false] at none
  exact none _ hk BEq.rfl

/-- **However a context was handled, its flat mapping stands for it.** No variable goes by a reserved name; reading the
mapping gives the context back, with its variables in their order; and a name stands for the same in both. -/
theorem flat_handled (hs : List Handling) :
    (∀ name ∈ reservedKeys, (name : Key) ∉ (handled hs).vars.keys) ∧
    ofEntries (handled hs).toFlat = .ok (handled hs) ∧
    ∀ name default, (handled hs).getD name default = ((handled hs).toFlat.get? name).getD default := by
  have free := unreserved_handled hs
  refine ⟨fun name hm => free.notMem_keys hm, ofEntries_toFlat free, fun name default => ?_⟩
  rw [get?_toFlat free]
  rfl

/-- A mapping with bookkeeping of the wrong sort is loaded, and a variable is refused. -/
theorem flat_handled_stray :
    let hs : List Handling :=
      [.load (.object [("conversationHistory", .str "ab"), ("currentNodeId", .int 3), ("x", .null)]),
        .setVariable (historyKey : Key) (.bool true), .addUserMessage "hi", .persist]
    (handled hs).history = [("a" : Text), ("b" : Text), ("User: hi" : Text)] ∧ (handled hs).currentNode = .int 3 ∧ historyKey ∈ reservedKeys ∧
      (historyKey : Key) ∉ (handled hs).vars.keys ∧ ofEntries (handled hs).toFlat = .ok (handled hs) ∧
      (handled hs).getD ("x" : Text) (.int 0) = ((handled hs).toFlat.get? ("x" : Text)).getD (.int 0) := by
  intro hs
  obtain ⟨free, back, same⟩ := flat_handled hs
  have kept : (handled hs).history = [("a" : Text), ("b" : Text), ("User: hi" : Text)] ∧ (handled hs).currentNode = .int 3 := ⟨rfl, rfl⟩
  exact ⟨kept.1, kept.2, by decide, free historyKey (by decide), back, same _ _⟩

end Context

end Colloquy
