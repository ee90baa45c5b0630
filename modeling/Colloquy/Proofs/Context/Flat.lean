import Colloquy.Context.Flat

/-!
# The flat mapping gives the context back

No variable goes by a reserved name (`Context.Unreserved`): a fresh context has none, and setting variables keeps it so.
Then the reserved names in the flat mapping stand for the bookkeeping alone, and reading the mapping gives the very
context that was written (`Context.ofEntries_toFlat`).
-/

namespace Colloquy

namespace Entries

variable {κ α : Type} [BEq κ] {es : Entries κ α} {name : κ}

theorem set_of_get?_eq_none (h : es.get? name = none) (v : α) : es.set name v = es ++ [(name, v)] := by
  induction es with
  | nil => rfl
  | cons e es ih =>
    obtain ⟨k, w⟩ := e
    by_cases hk : k == name
    · simp [get?, hk] at h
    · simp only [get?, hk, Bool.false_eq_true, if_false] at h
      simp [set, hk, ih h]

theorem erase_of_get?_eq_none (h : es.get? name = none) : es.erase name = es := by
  induction es with
  | nil => rfl
  | cons e es ih =>
    obtain ⟨k, w⟩ := e
    by_cases hk : k == name
    · simp [get?, hk] at h
    · simp only [get?, hk, Bool.false_eq_true, if_false] at h
      have tail : es.filter (fun e => !(e.1 == name)) = es := ih h
      simp [erase, hk, tail]

theorem erase_append (fs : Entries κ α) : (es ++ fs).erase name = es.erase name ++ fs.erase name :=
  List.filter_append ..

theorem get?_append (h : es.get? name = none) (fs : Entries κ α) : (es ++ fs).get? name = fs.get? name := by
  induction es with
  | nil => rfl
  | cons e es ih =>
    obtain ⟨k, w⟩ := e
    by_cases hk : k == name
    · simp [get?, hk] at h
    · simp only [get?, hk, Bool.false_eq_true, if_false] at h
      simp [get?, hk, ih h]

end Entries

/-- A key equals a text only by being it. -/
theorem Key.beq_text_iff {k : Key} {s : Text} : (k == (s : Key)) = true ↔ k = s := by
  rw [beq_eq, beq_iff_eq]
  cases k with
  | float x =>
    unfold essence
    dsimp only
    split <;> simp
  | _ => simp [essence]

namespace Context

/-- No variable goes by a reserved name. -/
def Unreserved (c : Context) : Prop := ∀ name ∈ reservedKeys, c.vars.get? (name : Key) = none

theorem unreserved_empty : empty.Unreserved := fun _ _ => rfl

theorem Unreserved.of_vars {c c' : Context} (hc : c.Unreserved) (h : c'.vars = c.vars) : c'.Unreserved :=
  fun name hm => h ▸ hc name hm

/-- What a variable is set under is no reserved name. -/
theorem setVariable_eq_ok {c c' : Context} {name : Key} {v : Value} (h : c.setVariable name v = .ok c') :
    (∀ r ∈ reservedKeys, (name == (r : Key)) = false) ∧ c' = { c with vars := c.vars.set name v } := by
  unfold setVariable at h
  split at h
  · cases h
  next hr =>
    refine ⟨fun r hm => ?_, (Except.ok.inj h).symm⟩
    simpa using fun e => hr (List.any_eq_true.mpr ⟨r, hm, e⟩)

/-- Only reserved names are refused. -/
theorem setVariable_eq_error {c : Context} {name : Text} {v : Value} {r : Refusal}
    (h : c.setVariable name v = .error r) : name ∈ reservedKeys ∧ r = .reserved name := by
  unfold setVariable at h
  split at h
  next hr =>
    cases h
    obtain ⟨key, hm, he⟩ := List.any_eq_true.mp hr
    rw [Key.text_beq_text, beq_iff_eq] at he
    exact ⟨he ▸ hm, rfl⟩
  · cases h

theorem Unreserved.setVariable {c c' : Context} {name : Key} {v : Value} (hc : c.Unreserved)
    (h : c.setVariable name v = .ok c') : c'.Unreserved := by
  obtain ⟨hr, rfl⟩ := setVariable_eq_ok h
  intro r hm
  rw [Entries.get?_set, hr r hm]
  exact hc r hm

/-- What setting variables keeps holds of a fresh context. -/
theorem create_rule {P : Context → Prop} (start : P empty)
    (set : ∀ {c c' : Context} {name : Key} {v : Value}, P c → c.setVariable name v = .ok c' → P c')
    {initial : Entries Text Value} {c : Context} (h : create initial = .ok c) : P c := by
  have from_ : ∀ (es : Entries Text Value) {c c' : Context}, P c →
      es.foldlM (fun c e => c.setVariable e.1 e.2) c = .ok c' → P c' := by
    intro es
    induction es with
    | nil => intro c c' hc h; cases h; exact hc
    | cons e es ih =>
      intro c c' hc h
      rw [List.foldlM_cons] at h
      cases he : c.setVariable (e.1 : Key) e.2 with
      | error r => rw [he] at h; cases h
      | ok d =>
        rw [he] at h
        exact ih (set hc he) h
  exact from_ initial start h

/-- A fresh context has no reserved variables. -/
theorem unreserved_create {initial : Entries Text Value} {c : Context} (h : create initial = .ok c) : c.Unreserved :=
  create_rule unreserved_empty Unreserved.setVariable h

/-- A fresh context waits at no node. -/
theorem waiting_create {initial : Entries Text Value} {c : Context} (h : create initial = .ok c) : c.waiting = .null := by
  refine create_rule (P := fun c => c.waiting = .null) rfl (fun hc hs => ?_) h
  obtain ⟨-, rfl⟩ := setVariable_eq_ok hs
  exact hc

/-! ## The round trip -/

theorem historyOf_historyValue (c : Context) : historyOf c.historyValue = .ok c.history := by
  unfold historyOf historyValue
  cases hh : c.history with
  | nil => rfl
  | cons line lines =>
    have plain : ((line :: lines).map Value.str).map Value.plain = line :: lines := by
      rw [List.map_map]
      exact List.map_id _
    simp only [Value.isFalsy, Value.elements?, List.map_cons, List.isEmpty_cons, Bool.false_eq_true, if_false]
      at plain ⊢
    rw [plain]

/-- The bookkeeping entry of an id: none when it is null. -/
def idEntry (key : Text) (id : Value) : Entries Key Value := if id.isNull then [] else [((key : Key), id)]

theorem get?_idEntry_of_ne {key other : Text} (h : key ≠ other) (id : Value) :
    (idEntry key id).get? (other : Key) = none := by
  unfold idEntry
  split
  · rfl
  · simp [Entries.get?, Key.text_beq_text, h]

theorem erase_idEntry (key : Text) (id : Value) : (idEntry key id).erase (key : Key) = [] := by
  unfold idEntry
  split
  · rfl
  · simp [Entries.erase]

theorem set_idEntry {es : Entries Key Value} {key : Text} (h : es.get? (key : Key) = none) (id : Value) :
    (if id.isNull then es else es.set key id) = es ++ idEntry key id := by
  unfold idEntry
  split
  · simp
  · exact Entries.set_of_get?_eq_none h id

theorem history_ne_currentNode : historyKey ≠ currentNodeKey := by decide

theorem history_ne_waiting : historyKey ≠ waitingKey := by decide

theorem currentNode_ne_waiting : currentNodeKey ≠ waitingKey := by decide

/-- Without reserved variables the bookkeeping stands after the variables, in fixed order. -/
theorem toFlat_eq {c : Context} (hc : c.Unreserved) : c.toFlat =
    c.vars ++ [((historyKey : Key), c.historyValue)] ++ idEntry currentNodeKey c.currentNode
      ++ idEntry waitingKey c.waiting := by
  have hh : c.vars.get? (historyKey : Key) = none := hc _ (by simp [reservedKeys])
  have hn : (c.vars ++ [((historyKey : Key), c.historyValue)]).get? (currentNodeKey : Key) = none := by
    rw [Entries.get?_append (hc _ (by simp [reservedKeys]))]
    simp [Entries.get?, Key.text_beq_text, history_ne_currentNode]
  have hw : (c.vars ++ [((historyKey : Key), c.historyValue)] ++ idEntry currentNodeKey c.currentNode).get?
      (waitingKey : Key) = none := by
    rw [List.append_assoc, Entries.get?_append (hc _ (by simp [reservedKeys]))]
    rw [List.singleton_append, Entries.get?, Key.text_beq_text]
    simp [history_ne_waiting, get?_idEntry_of_ne currentNode_ne_waiting]
  unfold toFlat
  rw [Entries.set_of_get?_eq_none hh]
  dsimp only
  rw [set_idEntry hn, set_idEntry hw]

theorem get?_set_id (es : Entries Key Value) (key : Text) (id : Value) (name : Key) :
    (if id.isNull then es else es.set key id).get? name =
      if (key : Key) == name then id.nonNull?.or (es.get? name) else es.get? name := by
  cases id <;> simp [Value.isNull, Value.nonNull?, Entries.get?_set]

/-- Looking a name up in the flat mapping is looking it up in the context. -/
theorem get?_toFlat {c : Context} (hc : c.Unreserved) (name : Key) : c.toFlat.get? name = c.lookup name := by
  have free (key : Text) (hm : key ∈ reservedKeys) := hc key hm
  unfold toFlat lookup
  dsimp only
  rw [get?_set_id, get?_set_id, Entries.get?_set, BEq.comm (a := (historyKey : Key)),
    BEq.comm (a := (currentNodeKey : Key)), BEq.comm (a := (waitingKey : Key))]
  by_cases hh : name = historyKey
  · subst hh
    simp [Key.text_beq_text, history_ne_currentNode, history_ne_waiting]
  by_cases hn : name = currentNodeKey
  · subst hn
    simp [Key.text_beq_text, history_ne_currentNode.symm, currentNode_ne_waiting, free currentNodeKey (by decide)]
  by_cases hw : name = waitingKey
  · subst hw
    simp [Key.text_beq_text, history_ne_waiting.symm, currentNode_ne_waiting.symm, free waitingKey (by decide)]
  · simp [Key.beq_text_iff, hh, hn, hw]

/-- What is left of the flat mapping without its reserved names are the variables, in their order. -/
theorem erase_toFlat {c : Context} (hc : c.Unreserved) :
    ((c.toFlat.erase (historyKey : Key)).erase (currentNodeKey : Key)).erase (waitingKey : Key) = c.vars := by
  have keep (key : Text) (hm : key ∈ reservedKeys) : c.vars.erase (key : Key) = c.vars :=
    Entries.erase_of_get?_eq_none (hc key hm)
  have other {key name : Text} (h : key ≠ name) (id : Value) : (idEntry key id).erase (name : Key) = idEntry key id :=
    Entries.erase_of_get?_eq_none (get?_idEntry_of_ne h id)
  have history : Entries.erase [((historyKey : Key), c.historyValue)] (historyKey : Key) = [] := by
    simp [Entries.erase]
  rw [toFlat_eq hc]
  simp only [Entries.erase_append, history, erase_idEntry, other history_ne_currentNode.symm,
    other history_ne_waiting.symm, other currentNode_ne_waiting.symm, List.append_nil]
  rw [keep _ (by simp [reservedKeys]), keep _ (by simp [reservedKeys]), keep _ (by simp [reservedKeys])]

/-- **Reading the flat mapping of a context gives the context back.** -/
theorem ofEntries_toFlat {c : Context} (hc : c.Unreserved) : ofEntries c.toFlat = .ok c := by
  have id (v : Value) : v.nonNull?.getD .null = v := by cases v <;> rfl
  have history : (c.toFlat.get? (historyKey : Key)).getD .null = c.historyValue := by
    rw [get?_toFlat hc]
    simp [lookup]
  have current : (c.toFlat.get? (currentNodeKey : Key)).getD .null = c.currentNode := by
    rw [get?_toFlat hc]
    simp [lookup, Key.text_beq_text, history_ne_currentNode.symm, id]
  have waiting : (c.toFlat.get? (waitingKey : Key)).getD .null = c.waiting := by
    rw [get?_toFlat hc]
    simp [lookup, Key.text_beq_text, history_ne_waiting.symm, currentNode_ne_waiting.symm, id]
  unfold ofEntries
  rw [history, historyOf_historyValue, current, waiting, erase_toFlat hc]
  rfl

end Context

end Colloquy
