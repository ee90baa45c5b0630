import Colloquy.Proofs.Json.Integers
import Colloquy.Proofs.Json.Limits
import Colloquy.Proofs.Json.Strings

/-!
# JSON text gives the value back

JSON text keeps all of a value without floating-point numbers, halves of surrogate pairs and repeated names
(`Value.Portable`), to any depth. Reading the text gives the value, whatever follows it that ends a value, or the error of
the first limit that it passes (`readValue_write`); a text alone is read likewise (`read_write`), and it passes no limit if
no integer has too many digits and nothing is nested too deep (`check_eq_ok_iff`).
-/

namespace Colloquy

/-- A value that JSON text keeps all of. -/
inductive Value.Portable : Value → Prop
  | null : Portable .null
  | bool (b : Bool) : Portable (.bool b)
  | int (n : Int) : Portable (.int n)
  | str {s : Text} : s.isUnicode = true → Portable (.str s)
  | list {items : List Value} : (∀ v ∈ items, Portable v) → Portable (.list items)
  | object {entries : List (Text × Value)} : (entries.map Prod.fst).Nodup → (∀ e ∈ entries, e.1.isUnicode = true) →
      (∀ e ∈ entries, Portable e.2) → Portable (.object entries)

namespace Entries

variable {κ α : Type} [BEq κ] [LawfulBEq κ]

theorem set_of_notMem_keys {es : Entries κ α} {name : κ} (h : name ∉ es.keys) (v : α) :
    es.set name v = es ++ [(name, v)] := by
  induction es with
  | nil => rfl
  | cons e es ih =>
    simp only [keys, List.map_cons, List.mem_cons, not_or] at h
    rw [set, if_neg (by simpa using Ne.symm h.1), ih h.2, List.cons_append]

/-- Pairs with distinct names are entries as they are. -/
theorem ofPairs_of_nodup {ps : List (κ × α)} (h : (ps.map Prod.fst).Nodup) : ofPairs ps = ps := by
  have append (ps : List (κ × α)) : ∀ es : Entries κ α, ((es ++ ps).map Prod.fst).Nodup →
      ps.foldl (fun es p => es.set p.1 p.2) es = es ++ ps := by
    induction ps with
    | nil => exact fun es _ => (List.append_nil es).symm
    | cons p ps ih =>
      intro es distinct
      have fresh : p.1 ∉ es.keys := by
        rw [List.map_append, List.map_cons] at distinct
        exact fun hm => (List.nodup_append.mp distinct).2.2 _ hm _ List.mem_cons_self rfl
      have shifted := List.append_cons es p ps
      rw [List.foldl_cons, set_of_notMem_keys fresh, ih _ (shifted ▸ distinct), shifted]
  exact append ps [] h

end Entries

namespace Json

variable {v : Value} {items : List Value} {entries : List (Text × Value)} {l : Limits} {fuel : Nat} {rest t : Text}

/-! ## Where a value begins -/

/-- The text begins neither with a space nor with the end of a list or of an object. -/
def Opens (t : Text) : Prop := ∃ c more, t = c :: more ∧ isSpace c = false ∧ c ≠ .char ']' ∧ c ≠ .char '\x7d'

theorem Opens.append (h : Opens t) (rest : Text) : Opens (t ++ rest) := by
  obtain ⟨c, more, rfl, hc⟩ := h
  exact ⟨c, more ++ rest, rfl, hc⟩

theorem Opens.skipSpace (h : Opens t) : skipSpace t = t := by
  obtain ⟨c, more, rfl, hc, -⟩ := h
  exact skipSpace_cons hc more

theorem skipSpace_space (t : Text) : skipSpace (.char ' ' :: t) = skipSpace t := rfl

theorem opens_writeText (s : Text) : Opens (writeText s) := by
  have quote := writeText_append s []
  rw [List.append_nil] at quote
  exact ⟨_, _, quote, by decide, by decide, by decide⟩

theorem opens_write (hv : v.Portable) : Opens (write v) := by
  cases hv with
  | null => exact ⟨_, _, rfl, by decide, by decide, by decide⟩
  | bool b => cases b <;> exact ⟨_, _, rfl, by decide, by decide, by decide⟩
  | int n =>
    rcases ofInt_cases n with ⟨written, -⟩ | ⟨written, -⟩
    · obtain ⟨c, more, hds, hc⟩ := (numeral_ofNat n.natAbs).exists_cons
      exact ⟨c, more, written.trans hds, isSpace_of_isDigit hc, ne_of_isDigit hc _ (by decide),
        ne_of_isDigit hc _ (by decide)⟩
    · exact ⟨_, _, written, by decide, by decide, by decide⟩
  | str => exact opens_writeText _
  | list | object => exact ⟨_, _, rfl, by decide, by decide, by decide⟩

theorem commaSeparated_cons_cons (part next : Text) (parts : List Text) (t : Text) :
    Value.commaSeparated (part :: next :: parts) ++ t =
      part ++ .char ',' :: .char ' ' :: (Value.commaSeparated (next :: parts) ++ t) := by
  rw [Value.commaSeparated, List.append_assoc, List.append_assoc]
  · rfl
  · exact List.cons_ne_nil next parts

/-- Parts begin as the first of them does. -/
theorem opens_commaSeparated {part : Text} (h : Opens part) (parts : List Text) (rest : Text) :
    Opens (Value.commaSeparated (part :: parts) ++ rest) := by
  cases parts with
  | nil => exact h.append rest
  | cons next parts =>
    rw [commaSeparated_cons_cons]
    exact h.append _

theorem opens_writeItems (h : Opens (write v)) (vs : List Value) (rest : Text) :
    Opens (Value.commaSeparated (writeItems (v :: vs)) ++ rest) :=
  opens_commaSeparated h (writeItems vs) rest

theorem opens_writeEntries (e : Text × Value) (es : List (Text × Value)) (rest : Text) :
    Opens (Value.commaSeparated (writeEntries (e :: es)) ++ rest) := by
  rw [writeEntries]
  refine opens_commaSeparated ?_ _ _
  rw [List.append_assoc]
  exact (opens_writeText e.1).append _

/-! ## One value -/

theorem readValue_scalar {c : CodePoint} (hq : c ≠ .char '"') (hl : c ≠ .char '[') (ho : c ≠ .char '\x7b') :
    readValue (fuel + 1) l (c :: rest) = readScalar l (c :: rest) := by
  rw [readValue, if_neg hq, if_neg hl, if_neg ho]

theorem readValue_int (h : Delimits rest) (n : Int) :
    readValue (fuel + 1) l (write (.int n) ++ rest) = (check l (.int n)).map fun _ => (.int n, rest) := by
  have scalar : readValue (fuel + 1) l (Text.ofInt n ++ rest) = readScalar l (Text.ofInt n ++ rest) := by
    rcases ofInt_cases n with ⟨written, -⟩ | ⟨written, -⟩
    · obtain ⟨c, more, hds, hc⟩ := (numeral_ofNat n.natAbs).exists_cons
      have other (d : Char) (hd : d.isDigit = false) : c ≠ .char d := ne_of_isDigit hc d hd
      rw [written, hds]
      exact readValue_scalar (other _ (by decide)) (other _ (by decide)) (other _ (by decide))
    · rw [written]
      exact readValue_scalar (by decide) (by decide) (by decide)
  rw [write, scalar, readScalar_ofInt l n h, check]
  unfold integer
  rw [integer_value]
  split
  · split <;> rfl
  · rfl

theorem readValue_str {s : Text} (hs : s.isUnicode = true) :
    readValue (fuel + 1) l (write (.str s) ++ rest) = .ok (.str s, rest) := by
  rw [write, writeText_append, readValue, if_pos rfl, readString_escaped hs]
  rfl

theorem readValue_list (opens : ∀ v ∈ items, Opens (write v))
    (hitems : items ≠ [] → ∀ l, readItems fuel l (Value.commaSeparated (writeItems items) ++ .char ']' :: rest) =
      (checkItems l items).map fun _ => (items, rest)) :
    readValue (fuel + 1) l (write (.list items) ++ rest) = (check l (.list items)).map fun _ => (.list items, rest) := by
  have written : write (.list items) ++ rest =
      .char '[' :: (Value.commaSeparated (writeItems items) ++ .char ']' :: rest) := by
    rw [write]
    simp [Text.ofString, Text.ofChars]
  rw [written, readValue, if_neg (by decide), if_pos rfl, check]
  cases l.inside? with
  | none => rfl
  | some l =>
    cases items with
    | nil => rfl
    | cons v vs =>
      have body := opens_writeItems (opens v List.mem_cons_self) vs (.char ']' :: rest)
      have read := hitems (List.cons_ne_nil v vs) l
      dsimp only
      rw [body.skipSpace]
      obtain ⟨c, more, hb, -, hc, -⟩ := body
      rw [hb] at read ⊢
      split
      next h => exact absurd (List.cons.inj h).1 hc
      next =>
        rw [read]
        cases checkItems l (v :: vs) <;> rfl

/-! ## Items -/

theorem readItems_error {e : ReadError} (h : readValue fuel l t = .error e) : readItems (fuel + 1) l t = .error e := by
  rw [readItems, h]
  rfl

theorem readItems_last (h : readValue fuel l t = .ok (v, .char ']' :: rest)) :
    readItems (fuel + 1) l t = .ok ([v], rest) := by
  rw [readItems, h]
  rfl

theorem readItems_more (h : readValue fuel l t = .ok (v, .char ',' :: rest)) :
    readItems (fuel + 1) l t = (readItems fuel l (skipSpace rest)).map fun r => (v :: r.1, r.2) := by
  rw [readItems, h]
  show (readItems fuel l (skipSpace rest) >>= fun r => pure (v :: r.1, r.2)) = _
  cases readItems fuel l (skipSpace rest) <;> rfl

theorem readItems_writeItems {vs : List Value} (opens : ∀ v ∈ vs, Opens (write v))
    (hv : ∀ rest, Delimits rest → readValue fuel l (write v ++ rest) = (check l v).map fun _ => (v, rest))
    (hvs : vs ≠ [] → readItems fuel l (Value.commaSeparated (writeItems vs) ++ .char ']' :: rest) =
      (checkItems l vs).map fun _ => (vs, rest)) :
    readItems (fuel + 1) l (Value.commaSeparated (writeItems (v :: vs)) ++ .char ']' :: rest) =
      (checkItems l (v :: vs)).map fun _ => (v :: vs, rest) := by
  cases vs with
  | nil =>
    have read := hv _ (delimits_cons (.inr (.inl rfl)) rest)
    rw [writeItems, writeItems, Value.commaSeparated, checkItems]
    cases hc : check l v with
    | error e =>
      rw [hc] at read
      exact readItems_error read
    | ok _ =>
      rw [hc] at read
      exact readItems_last read
  | cons next vs =>
    have body := opens_writeItems (opens next List.mem_cons_self) vs (.char ']' :: rest)
    have read := hv (.char ',' :: .char ' ' :: (Value.commaSeparated (writeItems (next :: vs)) ++ .char ']' :: rest))
      (delimits_cons (.inl rfl) _)
    have items : readItems fuel l (skipSpace (.char ' ' :: (Value.commaSeparated (writeItems (next :: vs)) ++
        .char ']' :: rest))) = (checkItems l (next :: vs)).map fun _ => (next :: vs, rest) := by
      rw [skipSpace_space, body.skipSpace, hvs (List.cons_ne_nil _ _)]
    rw [writeItems, writeItems, commaSeparated_cons_cons, checkItems, ← writeItems]
    cases hc : check l v with
    | error e =>
      rw [hc] at read
      exact readItems_error read
    | ok _ =>
      rw [hc] at read
      rw [readItems_more read, items]
      cases checkItems l (next :: vs) <;> rfl

/-! ## Members -/

section

variable {k : Text} (hk : k.isUnicode = true)

include hk

/-- The text of a member after its key. -/
theorem readMembers_key : readMembers (fuel + 1) l (writeText k ++ .char ':' :: t) = (do
    let (v, rest) ← readValue fuel l (skipSpace t)
    match skipSpace rest with
    | .char '\x7d' :: rest => return ([(k, v)], rest)
    | .char ',' :: rest => do
      let (members, rest) ← readMembers fuel l (skipSpace rest)
      return ((k, v) :: members, rest)
    | _ => .error .malformed) := by
  rw [writeText_append, readMembers, readString_escaped hk]
  rfl

theorem readMembers_error {e : ReadError} (h : readValue fuel l (skipSpace t) = .error e) :
    readMembers (fuel + 1) l (writeText k ++ .char ':' :: t) = .error e := by
  rw [readMembers_key hk, h]
  rfl

theorem readMembers_last (h : readValue fuel l (skipSpace t) = .ok (v, .char '\x7d' :: rest)) :
    readMembers (fuel + 1) l (writeText k ++ .char ':' :: t) = .ok ([(k, v)], rest) := by
  rw [readMembers_key hk, h]
  rfl

theorem readMembers_more (h : readValue fuel l (skipSpace t) = .ok (v, .char ',' :: rest)) :
    readMembers (fuel + 1) l (writeText k ++ .char ':' :: t) =
      (readMembers fuel l (skipSpace rest)).map fun r => ((k, v) :: r.1, r.2) := by
  rw [readMembers_key hk, h]
  show (readMembers fuel l (skipSpace rest) >>= fun r => pure ((k, v) :: r.1, r.2)) = _
  cases readMembers fuel l (skipSpace rest) <;> rfl

theorem readMembers_writeEntries {es : List (Text × Value)} (opens : Opens (write v))
    (hv : ∀ rest, Delimits rest → readValue fuel l (write v ++ rest) = (check l v).map fun _ => (v, rest))
    (hes : es ≠ [] → readMembers fuel l (Value.commaSeparated (writeEntries es) ++ .char '\x7d' :: rest) =
      (checkEntries l es).map fun _ => (es, rest)) :
    readMembers (fuel + 1) l (Value.commaSeparated (writeEntries ((k, v) :: es)) ++ .char '\x7d' :: rest) =
      (checkEntries l ((k, v) :: es)).map fun _ => ((k, v) :: es, rest) := by
  have member (rest : Text) : writeText k ++ ": " ++ write v ++ rest =
      writeText k ++ .char ':' :: .char ' ' :: (write v ++ rest) := by
    rw [List.append_assoc, List.append_assoc]
    rfl
  have value {rest : Text} (h : Delimits rest) : readValue fuel l (skipSpace (.char ' ' :: (write v ++ rest))) =
      (check l v).map fun _ => (v, rest) := by
    rw [skipSpace_space, (opens.append rest).skipSpace, hv rest h]
  cases es with
  | nil =>
    have read := value (delimits_cons (.inr (.inr rfl)) rest)
    rw [writeEntries, writeEntries, Value.commaSeparated, checkEntries, member]
    cases hc : check l v with
    | error e =>
      rw [hc] at read
      exact readMembers_error hk read
    | ok _ =>
      rw [hc] at read
      exact readMembers_last hk read
  | cons next es =>
    obtain ⟨name, w⟩ := next
    have body := opens_writeEntries (name, w) es (.char '\x7d' :: rest)
    have read := value (delimits_cons (.inl rfl)
      (.char ' ' :: (Value.commaSeparated (writeEntries ((name, w) :: es)) ++ .char '\x7d' :: rest)))
    have members : readMembers fuel l (skipSpace (.char ' ' :: (Value.commaSeparated (writeEntries ((name, w) :: es)) ++
        .char '\x7d' :: rest))) = (checkEntries l ((name, w) :: es)).map fun _ => ((name, w) :: es, rest) := by
      rw [skipSpace_space, body.skipSpace, hes (List.cons_ne_nil _ _)]
    rw [writeEntries, writeEntries, commaSeparated_cons_cons, checkEntries, member, ← writeEntries]
    cases hc : check l v with
    | error e =>
      rw [hc] at read
      exact readMembers_error hk read
    | ok _ =>
      rw [hc] at read
      rw [readMembers_more hk read, members]
      cases checkEntries l ((name, w) :: es) <;> rfl

end

theorem readValue_object (distinct : (entries.map Prod.fst).Nodup)
    (hentries : entries ≠ [] → ∀ l, readMembers fuel l (Value.commaSeparated (writeEntries entries) ++
      .char '\x7d' :: rest) = (checkEntries l entries).map fun _ => (entries, rest)) :
    readValue (fuel + 1) l (write (.object entries) ++ rest) =
      (check l (.object entries)).map fun _ => (.object entries, rest) := by
  have written : write (.object entries) ++ rest =
      .char '\x7b' :: (Value.commaSeparated (writeEntries entries) ++ .char '\x7d' :: rest) := by
    rw [write]
    simp [Text.ofString, Text.ofChars]
  rw [written, readValue, if_neg (by decide), if_neg (by decide), if_pos rfl, check]
  cases l.inside? with
  | none => rfl
  | some l =>
    cases entries with
    | nil => rfl
    | cons e es =>
      have body := opens_writeEntries e es (.char '\x7d' :: rest)
      have read := hentries (List.cons_ne_nil e es) l
      dsimp only
      rw [body.skipSpace]
      obtain ⟨c, more, hb, -, -, hc⟩ := body
      rw [hb] at read ⊢
      split
      next h => exact absurd (List.cons.inj h).1 hc
      next =>
        rw [read]
        cases checkEntries l (e :: es) with
        | error => rfl
        | ok => exact congrArg (fun es => Except.ok (Value.object es, rest)) (Entries.ofPairs_of_nodup distinct)

/-! ## Whole values -/

theorem length_add_le_commaSeparated (part : Text) (parts : List Text) :
    part.length + (Value.commaSeparated parts).length ≤ (Value.commaSeparated (part :: parts)).length := by
  cases parts with
  | nil => exact Nat.le_refl _
  | cons next parts =>
    have split := commaSeparated_cons_cons part next parts []
    rw [List.append_nil, List.append_nil] at split
    rw [split, List.length_append, List.length_cons, List.length_cons]
    omega

theorem Opens.length_pos (h : Opens t) : 0 < t.length := by
  obtain ⟨c, more, rfl, -⟩ := h
  exact Nat.succ_pos _

-- The recursion is on the value. Fuel for two steps a code point is enough: one step takes a value to its first item or
-- member, and one an item or a member to the next.
mutual

/-- **A value that was written is read back**, or the first limit that it passes is reported. -/
theorem readValue_write : ∀ {v : Value}, v.Portable → ∀ {fuel : Nat} (l : Limits) {rest : Text},
    2 * (write v).length ≤ fuel → Delimits rest →
      readValue fuel l (write v ++ rest) = (check l v).map fun _ => (v, rest)
  | v, hv, 0, l, rest, enough, h => absurd (opens_write hv).length_pos (by omega)
  | .null, _, fuel + 1, l, rest, _, _ | .bool true, _, fuel + 1, l, rest, _, _ | .bool false, _, fuel + 1, l, rest, _, _ =>
    (readValue_scalar (by decide) (by decide) (by decide)).trans rfl
  | .int n, _, fuel + 1, l, rest, _, h => readValue_int h n
  | .float _, hv, _, _, _, _, _ => nomatch hv
  | .str s, .str hs, fuel + 1, l, rest, _, _ => readValue_str hs
  | .list items, .list hv, fuel + 1, l, rest, enough, h => by
    refine readValue_list (fun v hm => opens_write (hv v hm)) fun nonempty l => ?_
    refine readItems_write hv nonempty l rest ?_
    simp only [write, List.length_append] at enough
    have brackets : List.length ("[" : Text) = 1 ∧ List.length ("]" : Text) = 1 := ⟨rfl, rfl⟩
    omega
  | .object entries, .object distinct names hv, fuel + 1, l, rest, enough, h => by
    refine readValue_object distinct fun nonempty l => ?_
    refine readMembers_write names hv nonempty l rest ?_
    simp only [write, List.length_append] at enough
    have braces : List.length ("\x7b" : Text) = 1 ∧ List.length ("\x7d" : Text) = 1 := ⟨rfl, rfl⟩
    omega

theorem readItems_write : ∀ {items : List Value}, (∀ v ∈ items, v.Portable) → items ≠ [] →
    ∀ {fuel : Nat} (l : Limits) (rest : Text), 2 * (Value.commaSeparated (writeItems items)).length < fuel →
      readItems fuel l (Value.commaSeparated (writeItems items) ++ .char ']' :: rest) =
        (checkItems l items).map fun _ => (items, rest)
  | v :: vs, hv, _, fuel + 1, l, rest, enough => by
    have one := (opens_write (hv v List.mem_cons_self)).length_pos
    have both := length_add_le_commaSeparated (write v) (writeItems vs)
    rw [writeItems] at enough
    refine readItems_writeItems (fun w hm => opens_write (hv w (List.mem_cons_of_mem v hm)))
      (fun rest h => readValue_write (hv v List.mem_cons_self) l (by omega) h) fun nonempty => ?_
    exact readItems_write (fun w hm => hv w (List.mem_cons_of_mem v hm)) nonempty l rest (by omega)

theorem readMembers_write : ∀ {entries : List (Text × Value)}, (∀ e ∈ entries, e.1.isUnicode = true) →
    (∀ e ∈ entries, e.2.Portable) → entries ≠ [] → ∀ {fuel : Nat} (l : Limits) (rest : Text),
      2 * (Value.commaSeparated (writeEntries entries)).length < fuel →
        readMembers fuel l (Value.commaSeparated (writeEntries entries) ++ .char '\x7d' :: rest) =
          (checkEntries l entries).map fun _ => (entries, rest)
  | (k, v) :: es, hk, hv, _, fuel + 1, l, rest, enough => by
    have value : v.Portable := hv (k, v) List.mem_cons_self
    have one := (opens_write value).length_pos
    have both := length_add_le_commaSeparated (writeText k ++ ": " ++ write v) (writeEntries es)
    rw [writeEntries] at enough
    rw [List.length_append] at both
    refine readMembers_writeEntries (hk (k, v) List.mem_cons_self) (opens_write value)
      (fun rest h => readValue_write value l (by omega) h) fun nonempty => ?_
    exact readMembers_write (fun e hm => hk e (List.mem_cons_of_mem _ hm))
      (fun e hm => hv e (List.mem_cons_of_mem _ hm)) nonempty l rest (by omega)

end

/-- **Reading the text of a value gives the value**, or the error of the first limit that the text passes. -/
theorem read_write (hv : v.Portable) (l : Limits) : read l (write v) = (check l v).map fun _ => v := by
  have value : readValue (2 * (write v).length + 2) l (write v ++ []) = (check l v).map fun _ => (v, []) :=
    readValue_write hv l (by omega) delimits_nil
  rw [List.append_nil] at value
  rw [read, (opens_write hv).skipSpace, value]
  cases check l v <;> rfl

end Json

end Colloquy
