import Colloquy.Proofs.Context.Flat
import Colloquy.Proofs.Json.RoundTrip

/-!
# JSON text gives a context back

A context whose variables go by texts and hold values that JSON text keeps all of (`Context.Portable`) comes back from its
JSON text as it was, with the order of its variables and of the entries inside them (`Context.ofJson_toJson`). A reader with
limits gives the context back as well, unless the flat mapping holds an integer with too many digits or is nested too deep
(`Context.ofJsonWithin_toJson`).
-/

namespace Colloquy

/-- An id that JSON text keeps all of: none, or a text. -/
inductive Value.PortableId : Value → Prop
  | none : PortableId .null
  | some {id : Text} : id.isUnicode = true → PortableId (.str id)

namespace Entries

variable {α : Type} (es : Entries Text α)

theorem get?_toKeyed (name : Text) : (toKeyed es).get? (name : Key) = es.get? name := by
  induction es with
  | nil => rfl
  | cons e es ih => rw [toKeyed, List.map_cons, get?, get?, Key.text_beq_text, ← toKeyed, ih]

/-- Texts as keys are distinct if the texts are, and stand for themselves. -/
theorem toObject_toKeyed (h : es.keys.Nodup) : (toKeyed es).toObject = es := by
  have names : (toKeyed es).map (fun e => (e.1.plain, e.2)) = es := (List.map_map ..).trans (List.map_id es)
  rw [toObject, names, ofPairs_of_nodup h]

end Entries

namespace Context

/-- A context that JSON text keeps all of. -/
structure Portable (c : Context) : Prop where
  vars : ∃ vars : Entries Text Value, c.vars = Entries.toKeyed vars ∧ (Value.object vars).Portable ∧
    ∀ name ∈ reservedKeys, name ∉ vars.keys
  history : ∀ line ∈ c.history, line.isUnicode = true
  currentNode : c.currentNode.PortableId
  waiting : c.waiting.PortableId

variable {c : Context}

theorem Portable.unreserved (hc : c.Portable) : c.Unreserved := by
  obtain ⟨vars, hvars, -, free⟩ := hc.vars
  intro name hm
  rw [hvars, Entries.get?_toKeyed, Entries.get?_eq_none_iff, List.any_eq_false]
  intro k hk e
  exact free name hm (beq_iff_eq.mp e ▸ hk)

/-! ## The flat mapping as an object -/

/-- The entry of an id beside the variables: none when it is null. -/
def idField (key : Text) (id : Value) : Entries Text Value := if id.isNull then [] else [(key, id)]

/-- The entries of the bookkeeping beside the variables. -/
def bookkeeping (c : Context) : Entries Text Value :=
  (historyKey, c.historyValue) :: (idField currentNodeKey c.currentNode ++ idField waitingKey c.waiting)

theorem toKeyed_idField (key : Text) (id : Value) : Entries.toKeyed (idField key id) = idEntry key id := by
  unfold idField idEntry
  split <;> rfl

theorem keys_idField (key : Text) (id : Value) : (idField key id).keys.Sublist [key] := by
  unfold idField
  split
  · exact List.nil_sublist _
  · exact List.Sublist.refl _

theorem keys_bookkeeping (c : Context) : c.bookkeeping.keys.Sublist reservedKeys := by
  rw [bookkeeping, Entries.keys, List.map_cons, List.map_append]
  exact ((keys_idField _ _).append (keys_idField _ _)).cons_cons _

theorem portable_idField {key : Text} (hk : key.isUnicode = true) {id : Value} (hid : id.PortableId) :
    ∀ e ∈ idField key id, e.1.isUnicode = true ∧ e.2.Portable := by
  intro e hm
  cases hid with
  | none => cases hm
  | some hs =>
    rw [List.mem_singleton.mp hm]
    exact ⟨hk, .str hs⟩

theorem Portable.bookkeeping (hc : c.Portable) : ∀ e ∈ c.bookkeeping, e.1.isUnicode = true ∧ e.2.Portable := by
  intro e hm
  rcases List.mem_cons.mp hm with rfl | hm
  · have key : historyKey.isUnicode = true := by decide
    refine ⟨key, .list fun v hv => ?_⟩
    obtain ⟨line, hl, rfl⟩ := List.mem_map.mp hv
    exact .str (hc.history line hl)
  · rcases List.mem_append.mp hm with hm | hm
    · exact portable_idField (by decide) hc.currentNode e hm
    · exact portable_idField (by decide) hc.waiting e hm

/-- The flat mapping of a portable context is a portable object. -/
theorem Portable.exists_flat (hc : c.Portable) :
    ∃ flat : Entries Text Value, c.toFlat = Entries.toKeyed flat ∧ (Value.object flat).Portable := by
  have flat := toFlat_eq hc.unreserved
  obtain ⟨vars, hvars, portable, free⟩ := hc.vars
  refine ⟨vars ++ c.bookkeeping, ?_, ?_⟩
  · rw [flat, hvars, ← toKeyed_idField, ← toKeyed_idField]
    simp [Entries.toKeyed, Context.bookkeeping]
  · cases portable with
    | object distinct names values =>
      have reserved := keys_bookkeeping c
      refine .object ?_ (fun e hm => ?_) fun e hm => ?_
      · rw [List.map_append]
        refine List.nodup_append.mpr ⟨distinct, reserved.nodup (by decide), fun name hv other hb => ?_⟩
        rintro rfl
        exact free name (reserved.subset hb) hv
      · rcases List.mem_append.mp hm with hm | hm
        · exact names e hm
        · exact (hc.bookkeeping e hm).1
      · rcases List.mem_append.mp hm with hm | hm
        · exact values e hm
        · exact (hc.bookkeeping e hm).2

/-! ## The round trip -/

/-- The context that a JSON text stands for, read within limits. -/
def ofJsonWithin (l : Json.Limits) (text : Text) : Except LoadError Context := do
  ofFlat (← (Json.read l text).mapError .json)

theorem ofJson_eq (text : Text) : ofJson text = ofJsonWithin .standard text := rfl

theorem mappingOf_object (es : Entries Text Value) : mappingOf (.object es) = .ok (Entries.toKeyed es) := by
  unfold mappingOf
  cases es <;> rfl

/-- The JSON text of a context is read as the context, or as the error of the first limit that it passes. -/
theorem ofJsonWithin_toJson (hc : c.Portable) (l : Json.Limits) :
    ofJsonWithin l c.toJson = ((Json.check l c.toObject).mapError LoadError.json).map fun _ => c := by
  obtain ⟨flat, hflat, portable⟩ := hc.exists_flat
  have distinct : flat.keys.Nodup := by
    cases portable with
    | object distinct => exact distinct
  have text : c.toJson = Json.write (.object flat) := by
    have names : (Entries.toKeyed flat).map (fun e => (Json.keyText e.1, e.2)) = flat :=
      (List.map_map ..).trans (List.map_id flat)
    rw [toJson, Json.writeKeyed, hflat, names]
  have back : ofFlat (.object flat) = .ok c := by
    rw [ofFlat, mappingOf_object, ← hflat]
    exact ofEntries_toFlat hc.unreserved
  rw [toObject, hflat, Entries.toObject_toKeyed flat distinct, text, ofJsonWithin, Json.read_write portable]
  cases Json.check l (.object flat) with
  | error => rfl
  | ok => exact back

/-- **A portable context comes back from its JSON text.** Without limits on the text it always does; with the limits of texts
from outside it does exactly if the digits of no integer and the depth of the flat mapping pass them. The limits are the
reader's: here writing has none, and a writer that has some refuses such a mapping before there is a text to read. -/
theorem ofJson_toJson (hc : c.Portable) : ofJsonWithin .unlimited c.toJson = .ok c ∧
    (ofJson c.toJson = .ok c ↔ Json.Limits.standard.Admits (Json.digits c.toObject) (Json.depth c.toObject)) := by
  have back (l : Json.Limits) : ofJsonWithin l c.toJson = .ok c ↔
      l.Admits (Json.digits c.toObject) (Json.depth c.toObject) := by
    rw [ofJsonWithin_toJson hc, ← Json.check_eq_ok_iff]
    cases Json.check l c.toObject <;> simp [Except.mapError, Except.map]
  exact ⟨(back .unlimited).mpr (Json.unlimited_admits _ _), ofJson_eq c.toJson ▸ back .standard⟩

/-- Quotes, controls, characters beyond the basic plane and containers inside one another, in keys and in values. -/
theorem ofJson_toJson_nested :
    let items : List Value := [.int (-18446744073709551616), .list [], .null]
    let entries : Entries Text Value := [("\\", .list items), ("", .object [])]
    let vars : Entries Text Value := [("päck\"et😀", .object entries), ("done\x7f", .bool false)]
    let c : Context := ⟨Entries.toKeyed vars, ["User: \x08\x1f/", "Agent: \t😀\n"], .null, .str "ask\x0c"⟩
    c.Portable ∧ ofJsonWithin .unlimited c.toJson = .ok c ∧ ofJson c.toJson = .ok c := by
  intro items entries vars c
  have empty : (Value.list []).Portable ∧ (Value.object []).Portable := ⟨.list nofun, .object (by decide) nofun nofun⟩
  have hitems : (Value.list items).Portable := .list (by simp [items, Value.Portable.int, Value.Portable.null, empty])
  have hentries : (Value.object entries).Portable :=
    .object (by decide) (by decide) (by simp [entries, hitems, empty])
  have hvars : (Value.object vars).Portable :=
    .object (by decide) (by decide) (by simp [vars, hentries, Value.Portable.bool])
  have portable : c.Portable := ⟨⟨vars, rfl, hvars, by decide⟩, by decide, .none, .some (by decide)⟩
  obtain ⟨unlimited, within⟩ := ofJson_toJson portable
  refine ⟨portable, unlimited, within.mpr ⟨fun limit h => ?_, fun limit h => ?_⟩⟩
  · cases h
    decide +kernel
  · cases h
    decide +kernel

end Context

end Colloquy
