import Colloquy.Proofs.Schema.Codecs

/-!
# Records come back from their editor form

Written entries are read back field by field (`read_wire`), when the fields have names of their own (`Separate`), each value
comes back from what is written of it (`Written.Returns`), and no extra entry goes by the name of a field (`Foreign`). The
extra entries of a record that was read are such, if the record gave no field under both its names (`foreign_extras`); all of
them come back but those that hold null, for these are not written (`extras_wire`).
-/

namespace Colloquy

namespace Entries

variable {κ α : Type} [BEq κ] [LawfulBEq κ] {es : Entries κ α} {name : κ}

theorem get?_eq_none_of_notMem (h : name ∉ es.keys) : es.get? name = none := by
  rw [get?_eq_none_iff, List.any_eq_false]
  intro k hk e
  exact h (beq_iff_eq.mp e ▸ hk)

theorem mem_keys_of_get?_ne_none (h : es.get? name ≠ none) : name ∈ es.keys :=
  Decidable.byContradiction fun hn => h (get?_eq_none_of_notMem hn)

end Entries

namespace Schema

/-! ## Names -/

/-- Fields with names of their own: no two share an editor name, and a plain name that is an editor name is the field's
own. -/
structure Separate (fs : List (Text × Text)) : Prop where
  distinct : (fs.map Prod.fst).Nodup
  plain : ∀ f ∈ fs, ∀ g ∈ fs, f.2 = g.1 → f.2 = f.1
  unicode : ∀ f ∈ fs, f.1.isUnicode = true

/-- The spellings of the names of fields. Names are compared by their spellings, which takes less than comparing texts. -/
inductive Spelled : List (Text × Text) → List (String × String) → Prop
  | nil : Spelled [] []
  | cons (key plainKey : String) {fs : List (Text × Text)} {ss : List (String × String)} :
      Spelled fs ss → Spelled ((key, plainKey) :: fs) ((key, plainKey) :: ss)

theorem Spelled.eq_map {fs : List (Text × Text)} {ss : List (String × String)} (h : Spelled fs ss) :
    fs = ss.map fun s => ((s.1 : Text), (s.2 : Text)) := by
  induction h with
  | nil => rfl
  | cons key plainKey h ih => rw [List.map_cons, ← ih]

theorem isUnicode_ofString (s : String) : Text.isUnicode s = true := by
  simp [Text.isUnicode, Text.ofString, Text.ofChars, CodePoint.char?]

theorem Spelled.separate {fs : List (Text × Text)} {ss : List (String × String)} (h : Spelled fs ss)
    (distinct : (ss.map Prod.fst).Nodup) (plain : ∀ f ∈ ss, ∀ g ∈ ss, f.2 = g.1 → f.2 = f.1) : Separate fs := by
  rw [h.eq_map]
  refine ⟨?_, fun f hf g hg e => ?_, fun f hf => ?_⟩
  · have keys : (ss.map fun s => ((s.1 : Text), (s.2 : Text))).map Prod.fst = (ss.map Prod.fst).map Text.ofString := by
      rw [List.map_map, List.map_map]
      rfl
    rw [keys]
    exact List.Pairwise.map Text.ofString (fun _ _ other same => other (Text.ofString_inj.mp same)) distinct
  · obtain ⟨s, hs, rfl⟩ := List.mem_map.mp hf
    obtain ⟨t, ht, rfl⟩ := List.mem_map.mp hg
    exact congrArg Text.ofString (plain s hs t ht (Text.ofString_inj.mp e))
  · obtain ⟨s, -, rfl⟩ := List.mem_map.mp hf
    exact isUnicode_ofString s.1

/-- Entries that go by no name of a field. -/
def Foreign (fs : List (Text × Text)) (es : Entries Text Value) : Prop :=
  ∀ e ∈ es, e.1.isUnicode = true ∧ ∀ f ∈ fs, e.1 ≠ f.1 ∧ e.1 ≠ f.2

/-- An object gives no field under both of its names. -/
def GivesOnce (fs : List (Text × Text)) : Value → Prop
  | .object es => ∀ f ∈ fs, f.1 ≠ f.2 → ¬(f.1 ∈ Entries.keys es ∧ f.2 ∈ Entries.keys es)
  | _ => True

theorem Spelled.givesOnce {fs : List (Text × Text)} {ss : List (String × String)} {es : Entries Text Value}
    (keys : List String) (hk : es.keys = keys.map Text.ofString) (h : Spelled fs ss)
    (once : ∀ s ∈ ss, s.1 ≠ s.2 → ¬(s.1 ∈ keys ∧ s.2 ∈ keys)) : GivesOnce fs (.object es) := by
  have given {s : String} (hm : (s : Text) ∈ es.keys) : s ∈ keys := by
    rw [hk] at hm
    obtain ⟨key, hkey, same⟩ := List.mem_map.mp hm
    exact Text.ofString_inj.mp same ▸ hkey
  intro f hf other both
  rw [h.eq_map] at hf
  obtain ⟨s, hs, rfl⟩ := List.mem_map.mp hf
  exact once s hs (fun same => other (congrArg Text.ofString same)) ⟨given both.1, given both.2⟩

variable {fs : List (Text × Text)} {es fields others : Entries Text Value}

/-- The extra entries of a record go by no name of a field, if no field is given under both. -/
theorem foreign_extras (unicode : es.all (·.1.isUnicode) = true) (once : GivesOnce fs (.object es)) :
    Foreign fs (extras fs es) := by
  intro e he
  obtain ⟨hm, unused⟩ := List.mem_filter.mp he
  refine ⟨List.all_eq_true.mp unicode e hm, fun f hf => ?_⟩
  simp only [Bool.not_eq_true', List.any_eq_false] at unused
  have free := unused f hf
  simp only [Bool.or_eq_true, beq_iff_eq, Bool.and_eq_true, not_or, not_and, Option.isNone_iff_eq_none] at free
  refine ⟨free.1, fun plain => ?_⟩
  have other : f.1 ≠ f.2 := fun same => free.1 (plain.trans same.symm)
  exact once f hf other ⟨Entries.mem_keys_of_get?_ne_none (free.2 plain), plain ▸ List.mem_map_of_mem hm⟩

/-! ## What is written -/

/-- The entries that do not hold null. -/
def withoutNulls (es : Entries Text Value) : Entries Text Value := es.filter fun e => !e.2.isNull

theorem wire_withoutNulls (fields others : Entries Text Value) : wire fields (withoutNulls others) = wire fields others := by
  unfold wire withoutNulls
  rw [List.filter_append, List.filter_append, List.filter_filter]
  simp only [Bool.and_self]

theorem mem_wire {e : Text × Value} (h : e ∈ wire fields others) : e ∈ fields ∨ e ∈ others :=
  List.mem_append.mp (List.mem_filter.mp h).1

theorem get?_wire_eq_none {key : Text} (hf : key ∉ fields.keys) (ho : key ∉ others.keys) :
    (wire fields others).get? key = none := by
  refine Entries.get?_eq_none_of_notMem fun hm => ?_
  obtain ⟨e, he, rfl⟩ := List.mem_map.mp hm
  rcases mem_wire he with he | he
  · exact hf (List.mem_map_of_mem he)
  · exact ho (List.mem_map_of_mem he)

/-- What is written under the name of a field is its value, unless that is null. -/
theorem get?_wire {key : Text} {v : Value} (hm : (key, v) ∈ fields) (distinct : fields.keys.Nodup)
    (ho : key ∉ others.keys) : (wire fields others).get? key = v.nonNull? := by
  induction fields with
  | nil => cases hm
  | cons e fields ih =>
    obtain ⟨name, w⟩ := e
    obtain ⟨fresh, distinct⟩ := List.nodup_cons.mp distinct
    have skipped (hm : (key, v) ∈ fields) : name ≠ key := by
      rintro rfl
      exact fresh (List.mem_map.mpr ⟨_, hm, rfl⟩)
    have step : wire ((name, w) :: fields) others =
        if w.isNull then wire fields others else (name, w) :: wire fields others := by
      unfold wire
      cases hw : w.isNull <;> simp [hw]
    rw [step]
    rcases List.mem_cons.mp hm with same | hm
    · cases same
      have rest : (wire fields others).get? key = none := get?_wire_eq_none fresh ho
      cases v <;> simp [Value.isNull, Value.nonNull?, Entries.get?, rest]
    · split
      · exact ih hm distinct
      · rw [Entries.get?, if_neg (by simpa using skipped hm)]
        exact ih hm distinct

/-- Of what is written, the extra entries are extra again. -/
theorem extras_wire (keys : fields.keys = fs.map Prod.fst) (foreign : Foreign fs others) :
    extras fs (wire fields others) = withoutNulls others := by
  let used (e : Text × Value) : Bool :=
    fs.any fun f => e.1 == f.1 || (e.1 == f.2 && ((wire fields others).get? f.1).isNone)
  have field : ∀ e ∈ fields, used e = true := by
    intro e he
    have hk : e.1 ∈ fs.map Prod.fst := keys ▸ List.mem_map_of_mem he
    obtain ⟨f, hf, hfk⟩ := List.mem_map.mp hk
    exact List.any_eq_true.mpr ⟨f, hf, by simp [hfk]⟩
  have other : ∀ e ∈ others, used e = false := by
    intro e he
    refine List.any_eq_false.mpr fun f hf => ?_
    obtain ⟨hkey, hplain⟩ := (foreign e he).2 f hf
    simp [hkey, hplain]
  show ((fields ++ others).filter fun e => !e.2.isNull).filter (fun e => !used e) = _
  rw [List.filter_append, List.filter_append, List.filter_eq_nil_iff.mpr, List.filter_eq_self.mpr, List.nil_append]
  · rfl
  · exact fun e he => by simp [other e (List.mem_filter.mp he).1]
  · exact fun e he => by simp [field e (List.mem_filter.mp he).1]

/-! ## Records -/

/-- A field with the value that is written for it and the value that comes back. -/
structure Written where
  {α : Type}
  spec : FieldSpec α
  value : α
  back : α

namespace Written

/-- A field whose value comes back as it is. -/
def same {α : Type} (spec : FieldSpec α) (a : α) : Written := ⟨spec, a, a⟩

def names (w : Written) : Text × Text := w.spec.names

def entry (w : Written) : Text × Value := w.spec.entry w.value

def Returns (w : Written) : Prop := w.spec.Returns w.value w.back

section

variable {α : Type} {c : Codec α} (h : c.Lawful) (key plainKey : Text)

include h

theorem returns_required (a : α) : (same (.required key plainKey c) a).Returns := FieldSpec.returns_of_lawful h a

theorem returns_withDefault (absent a : α) : (same (.withDefault key plainKey c absent) a).Returns :=
  FieldSpec.returns_of_lawful h a

theorem returns_optional (a : Option α) : (same (.optional key plainKey c) a).Returns :=
  FieldSpec.returns_optional h key plainKey a

end

end Written

theorem keys_entries (ws : List Written) :
    Entries.keys (ws.map Written.entry) = (ws.map Written.names).map Prod.fst := by
  rw [Entries.keys, List.map_map, List.map_map]
  rfl

/-- **Every field is read back from what was written.** -/
theorem read_wire {ws : List Written} (separate : Separate (ws.map Written.names))
    (foreign : Foreign (ws.map Written.names) others) (returns : ∀ w ∈ ws, w.Returns) :
    ∀ w ∈ ws, w.spec.read (wire (ws.map Written.entry) others) = .value w.back := by
  intro w hw
  have hn : w.names ∈ ws.map Written.names := List.mem_map_of_mem hw
  have keys := keys_entries ws
  have free (key : Text) (h : key = w.spec.key ∨ key = w.spec.plainKey) : key ∉ others.keys := by
    intro hm
    obtain ⟨e, he, rfl⟩ := List.mem_map.mp hm
    rcases h with h | h
    · exact ((foreign e he).2 _ hn).1 h
    · exact ((foreign e he).2 _ hn).2 h
  have found : (wire (ws.map Written.entry) others).get? w.spec.key = (w.spec.codec.write w.value).nonNull? :=
    get?_wire (List.mem_map_of_mem hw) (keys ▸ separate.distinct) (free _ (.inl rfl))
  have plain (absent : (wire (ws.map Written.entry) others).get? w.spec.key = none) :
      (wire (ws.map Written.entry) others).get? w.spec.plainKey = none := by
    by_cases hk : w.spec.plainKey = w.spec.key
    · rw [hk, absent]
    · refine get?_wire_eq_none (fun hm => hk ?_) (free _ (.inr rfl))
      rw [keys] at hm
      obtain ⟨g, hg, hgk⟩ := List.mem_map.mp hm
      exact separate.plain _ hn g hg hgk.symm
  have back := returns w hw
  unfold Written.Returns FieldSpec.Returns at back
  unfold FieldSpec.read
  cases hv : w.spec.codec.write w.value with
  | null =>
    rw [hv] at back found
    rw [found, plain found]
    dsimp only [Value.nonNull?]
    rw [show w.spec.absent = some w.back from back]
  | _ =>
    rw [hv] at back found
    rw [found]
    dsimp only [Value.nonNull?]
    rw [show w.spec.codec.read _ = .value w.back from back]
    rfl

/-- A written record is read as its entries. -/
theorem readRecord_wire {α : Type} (read : Entries Text Value → Reading α) (separate : Separate fs)
    (keys : fields.keys = fs.map Prod.fst) (foreign : Foreign fs others) :
    readRecord read (.object (wire fields others)) = read (wire fields others) := by
  have unicode : (wire fields others).all (·.1.isUnicode) = true := by
    rw [List.all_eq_true]
    intro e he
    rcases mem_wire he with he | he
    · have hk : e.1 ∈ fs.map Prod.fst := keys ▸ List.mem_map_of_mem he
      obtain ⟨f, hf, hfk⟩ := List.mem_map.mp hk
      exact hfk ▸ separate.unicode f hf
    · exact (foreign e he).1
  rw [readRecord, if_pos unicode]

/-- **A written record is read** as what its fields that come back and its extra entries that do not hold null make. -/
theorem readRecord_written {α : Type} (ofEntries : Entries Text Value → Reading α) (ws : List Written)
    (separate : Separate (ws.map Written.names)) (foreign : Foreign (ws.map Written.names) others)
    (returns : ∀ w ∈ ws, w.Returns) {a : α}
    (make : ∀ es, (∀ w ∈ ws, w.spec.read es = .value w.back) →
      extras (ws.map Written.names) es = withoutNulls others → ofEntries es = .value a) :
    readRecord ofEntries (.object (wire (ws.map Written.entry) others)) = .value a := by
  have keys : Entries.keys (ws.map Written.entry) = (ws.map Written.names).map Prod.fst := keys_entries ws
  rw [readRecord_wire ofEntries separate keys foreign]
  exact make _ (read_wire separate foreign returns) (extras_wire keys foreign)

/-- A record is read from an object without surrogate halves in its names. -/
theorem readRecord_eq_value {α : Type} {ofEntries : Entries Text Value → Reading α} {v : Value} {a : α}
    (h : readRecord ofEntries v = .value a) :
    ∃ es, v = .object es ∧ es.all (·.1.isUnicode) = true ∧ ofEntries es = .value a := by
  unfold readRecord at h
  split at h
  next es =>
    split at h
    next unicode => exact ⟨es, rfl, unicode, h⟩
    next => cases h
  next => cases h

/-- The extra entries that a record keeps go by no name of a field, if no field is given under both its names. -/
theorem foreign_of_readRecord {α : Type} {ofEntries : Entries Text Value → Reading α} {others : α → Entries Text Value}
    (kept : ∀ es, (ofEntries es).All fun a => others a = extras fs es) {v : Value} {a : α}
    (h : readRecord ofEntries v = .value a) (once : GivesOnce fs v) : Foreign fs (others a) := by
  obtain ⟨es, rfl, unicode, h⟩ := readRecord_eq_value h
  rw [(kept es).of_eq_value h]
  exact foreign_extras unicode once

/-- The elements of a list field are read from the elements of the list that is given. -/
theorem exists_of_read_list {α : Type} {key : Text} {c : Codec α} {as : List α}
    (h : (FieldSpec.withDefault key key c.list []).read es = .value as) {a : α} (ha : a ∈ as) :
    ∃ items, es.get? key = some (.list items) ∧ ∃ v ∈ items, c.read v = .value a := by
  unfold FieldSpec.read FieldSpec.withDefault at h
  cases hv : es.get? key with
  | none =>
    rw [hv] at h
    cases h
    cases ha
  | some v =>
    rw [hv] at h
    have read := Reading.under_eq_value.mp h
    cases v with
    | list items => exact ⟨items, rfl, Reading.exists_of_sequence read a ha⟩
    | _ => cases read

end Schema

end Colloquy
