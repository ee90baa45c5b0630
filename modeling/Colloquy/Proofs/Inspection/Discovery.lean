import Colloquy.Proofs.Inspection.Search

/-!
# What a search discovers

What following ids does to the list of discoveries, said once and by induction on the relation: older discoveries stay
and new ones hang below the path (`Follows.found_eq`), every path is that of an older discovery (`Follows.grown`), every
edge of a new id has been looked at (`Follows.handled`), and what is entered below an id is entered in a row
(`Follows.rounded`). Cycles are noted on trails only (`Follows.cycle_origin`). A whole search has all of this at once
(`exists_explored`).
-/

namespace Colloquy.Inspection

variable {d : Definition} {path nexts : List Text} {t t' : Tour}

/-! ## Older discoveries stay -/

namespace Follows

/-- The discoveries grow by some below the path. -/
theorem found_eq (h : Follows d path nexts t t') :
    ∃ new, t'.found = new ++ t.found ∧ ∀ x ∈ new, path <:+ x.path := by
  induction h with
  | done => exact ⟨[], rfl, by simp⟩
  | undeclared _ _ ih | back _ _ _ ih | known _ _ _ ih => exact ih
  | @enter path _ next _ _ _ _ _ _ _ _ deep rest =>
    obtain ⟨below, hb, hbelow⟩ := deep
    obtain ⟨after, ha, hafter⟩ := rest
    refine ⟨after ++ below ++ [⟨next, path⟩], ?_, fun x hx => ?_⟩
    · rw [ha, hb]
      simp [Tour.enter]
    · rcases List.mem_append.mp hx with hx | hx
      · rcases List.mem_append.mp hx with hx | hx
        · exact hafter x hx
        · exact (List.suffix_cons _ _).trans (hbelow x hx)
      · cases List.mem_singleton.mp hx
        exact List.suffix_rfl

theorem keeps_found (h : Follows d path nexts t t') {x : Discovery} (hx : x ∈ t.found) : x ∈ t'.found := by
  obtain ⟨new, hn, -⟩ := h.found_eq
  exact hn ▸ List.mem_append_right new hx

theorem keeps_ids (h : Follows d path nexts t t') {id : Text} (hid : id ∈ t.ids) : id ∈ t'.ids := by
  obtain ⟨x, hx, rfl⟩ := List.mem_map.mp hid
  exact List.mem_map_of_mem (h.keeps_found hx)

end Follows

/-- A cycle that never asks is among those noted, up to the order of its ids. -/
def Tour.Noted (d : Definition) (t : Tour) (cycle : List Text) : Prop :=
  cycle.any (asksUser d) = true ∨ ∃ c ∈ t.cycles, sameIds cycle c = true

theorem sameIds_self (ids : List Text) : sameIds ids ids = true := by
  simp [sameIds]

theorem Tour.cycles_note (t : Tour) (cycle : List Text) : (t.note d cycle).cycles = t.cycles ∨
    cycle.any (asksUser d) = false ∧ (t.note d cycle).cycles = t.cycles ++ [cycle] := by
  unfold note Search.note
  split
  · exact .inl rfl
  · next h =>
    simp only [Bool.or_eq_true, not_or, Bool.not_eq_true] at h
    exact .inr ⟨h.1, rfl⟩

theorem Tour.noted_note (t : Tour) (cycle : List Text) : (t.note d cycle).Noted d cycle := by
  unfold Noted note Search.note
  split
  · next h =>
    rcases Bool.or_eq_true _ _ ▸ h with h | h
    · exact .inl h
    · exact .inr (by simpa using h)
  · exact .inr ⟨cycle, by simp, sameIds_self cycle⟩

theorem Tour.mem_cycles_note {cycle c : List Text} (hc : c ∈ t.cycles) : c ∈ (t.note d cycle).cycles := by
  rcases t.cycles_note cycle with h | ⟨-, h⟩ <;> rw [h]
  · exact hc
  · exact List.mem_append_left _ hc

theorem Follows.keeps_cycles (h : Follows d path nexts t t') {c : List Text} (hc : c ∈ t.cycles) : c ∈ t'.cycles := by
  induction h with
  | done => exact hc
  | undeclared _ _ ih | known _ _ _ ih => exact ih hc
  | back _ _ _ ih => exact ih (Tour.mem_cycles_note hc)
  | enter _ _ _ _ _ deep rest => exact rest (deep hc)

theorem Follows.keeps_noted (h : Follows d path nexts t t') {cycle : List Text} (hc : t.Noted d cycle) :
    t'.Noted d cycle :=
  hc.imp id fun ⟨c, hm, hs⟩ => ⟨c, h.keeps_cycles hm, hs⟩

/-! ## Paths are those of older discoveries -/

/-- The path is empty, or the trail of an id found already, from which an edge leads to the next id. -/
def Hangs (d : Definition) (found : List Discovery) (path : List Text) (next : Text) : Prop :=
  ∀ top below, path = top :: below → ⟨top, below⟩ ∈ found ∧ d.Leads top next

theorem Hangs.mono {found found' : List Discovery} {next : Text} (h : Hangs d found path next)
    (sub : ∀ x ∈ found, x ∈ found') : Hangs d found' path next :=
  fun top below he => ⟨sub _ (h top below he).1, (h top below he).2⟩

/-- Declared ids, each entered once, and each from an older one. -/
inductive Grown (d : Definition) : List Discovery → Prop
  | nil : Grown d []
  | cons {x : Discovery} {older : List Discovery} (below : Grown d older) (declared : d.Declares x.id)
      (fresh : x.id ∉ older.map Discovery.id) (hangs : Hangs d older x.path x.id) : Grown d (x :: older)

/-- The ids to which an entered id leads hang from it. -/
theorem hangs_successors {id next : Text} (hn : next ∈ successors d id) :
    Hangs d (t.enter id path).found (id :: path) next := by
  rintro top below he
  cases he
  exact ⟨List.mem_cons_self, (mem_successors_iff.mp hn).2⟩

theorem Follows.grown (h : Follows d path nexts t t') (grown : Grown d t.found)
    (hangs : ∀ next ∈ nexts, Hangs d t.found path next) : Grown d t'.found := by
  induction h with
  | done => exact grown
  | undeclared _ _ ih | back _ _ _ ih | known _ _ _ ih => exact ih grown (List.forall_mem_cons.mp hangs).2
  | enter declared _ fresh hdeep _ deep rest =>
    obtain ⟨first, others⟩ := List.forall_mem_cons.mp hangs
    refine rest (deep (.cons grown declared fresh first) fun _ => hangs_successors) fun next hn => ?_
    exact (others next hn).mono fun x hx => hdeep.keeps_found (List.mem_cons_of_mem _ hx)

namespace Grown

variable {found older : List Discovery} {x y : Discovery}

theorem nodup (h : Grown d found) : (found.map Discovery.id).Nodup := by
  induction h with
  | nil => exact List.nodup_nil
  | cons _ _ fresh _ ih => exact List.nodup_cons.mpr ⟨fresh, ih⟩

/-- The discovery of an id is unique. -/
theorem eq_of_id (h : Grown d found) (hx : x ∈ found) (hy : y ∈ found) (he : x.id = y.id) : x = y :=
  List.inj_on_of_nodup_map h.nodup hx hy he

theorem of_append {newer : List Discovery} (h : Grown d (newer ++ older)) : Grown d older := by
  induction newer with
  | nil => exact h
  | cons _ _ ih =>
    cases h with
    | cons below _ _ _ => exact ih below

theorem hangs_of_mem (h : Grown d found) (hx : x ∈ found) : d.Declares x.id ∧ Hangs d found x.path x.id := by
  obtain ⟨newer, older, rfl⟩ := List.append_of_mem hx
  cases h.of_append with
  | cons _ declared _ hangs => exact ⟨declared, hangs.mono fun y hy => by simp [hy]⟩

/-- Every id on a trail was found, with the rest of the trail as its path. -/
theorem mem_of_suffix (h : Grown d found) (hx : x ∈ found) (hs : y.trail <:+ x.trail) : y ∈ found := by
  obtain ⟨id, path⟩ := x
  induction path generalizing id with
  | nil =>
    rcases List.suffix_cons_iff.mp hs with he | he
    · exact Discovery.eq_of_trail he ▸ hx
    · cases List.suffix_nil.mp he
  | cons top path ih =>
    rcases List.suffix_cons_iff.mp hs with he | he
    · exact Discovery.eq_of_trail he ▸ hx
    · exact ih top ((h.hangs_of_mem hx).2 top path rfl).1 he

/-- Every id on a trail is found. -/
theorem exists_of_mem_trail (h : Grown d found) (hx : x ∈ found) {id : Text} (hid : id ∈ x.trail) :
    ∃ y ∈ found, y.id = id ∧ y.trail <:+ x.trail := by
  obtain ⟨newer, rest, hr⟩ := List.append_of_mem hid
  have hs : (Discovery.mk id rest).trail <:+ x.trail := ⟨newer, hr.symm⟩
  exact ⟨⟨id, rest⟩, h.mem_of_suffix hx hs, rfl, hs⟩

/-- The path of a discovery consists of older ones. -/
theorem mem_older (h : Grown d (x :: older)) {id : Text} (hid : id ∈ x.path) : ∃ y ∈ older, y.id = id := by
  cases h with
  | cons below _ _ hangs =>
    cases hp : x.path with
    | nil => simp [hp] at hid
    | cons top rest =>
      obtain ⟨hm, -⟩ := hangs top rest hp
      obtain ⟨y, hy, he, -⟩ := below.exists_of_mem_trail hm (hp ▸ hid)
      exact ⟨y, hy, he⟩

theorem trail_chain (h : Grown d found) (hx : x ∈ found) : d.Trail x.trail := by
  obtain ⟨id, path⟩ := x
  induction path generalizing id with
  | nil => exact .singleton id
  | cons top path ih =>
    obtain ⟨hm, hl⟩ := (h.hangs_of_mem hx).2 top path rfl
    exact .cons_cons hl (ih top hm)

theorem declares_of_mem_trail (h : Grown d found) (hx : x ∈ found) {id : Text} (hid : id ∈ x.trail) :
    d.Declares id := by
  obtain ⟨y, hy, rfl, -⟩ := h.exists_of_mem_trail hx hid
  exact (h.hangs_of_mem hy).1

end Grown

/-! ## Every edge is looked at -/

/-- An edge from the last id of a trail has been looked at: the id to which it leads is entered, and if it is on the
trail, the cycle that it closes is noted. -/
structure Handled (d : Definition) (t : Tour) (trail : List Text) (next : Text) : Prop where
  entered : next ∈ t.ids
  noted : next ∈ trail → t.Noted d (closing trail next)

theorem Follows.keeps_handled (h : Follows d path nexts t t') {trail : List Text} {next : Text}
    (hh : Handled d t trail next) : Handled d t' trail next :=
  ⟨h.keeps_ids hh.entered, fun hm => h.keeps_noted (hh.noted hm)⟩

theorem Tour.mem_ids_enter {next : Text} (h : ∀ id ∈ path, id ∈ t.ids) :
    ∀ id ∈ next :: path, id ∈ (t.enter next path).ids :=
  List.forall_mem_cons.mpr ⟨List.mem_cons_self, fun id hid => List.mem_cons_of_mem _ (h id hid)⟩

/-- The declared ids that are followed are handled, and so are those to which the edges of new ids lead. -/
theorem Follows.handled (h : Follows d path nexts t t') (on_tour : ∀ id ∈ path, id ∈ t.ids) :
    (∀ next ∈ nexts, d.Declares next → Handled d t' path next) ∧ ∀ new, t'.found = new ++ t.found →
      ∀ x ∈ new, ∀ next ∈ successors d x.id, d.Declares next → Handled d t' x.trail next := by
  induction h with
  | done =>
    refine ⟨by simp, fun new hn x hx => ?_⟩
    cases List.self_eq_append_left.mp hn
    cases hx
  | undeclared undeclared rest ih =>
    obtain ⟨followed, found⟩ := ih on_tour
    exact ⟨List.forall_mem_cons.mpr ⟨fun hd => absurd hd undeclared, followed⟩, found⟩
  | back _ on_path rest ih =>
    obtain ⟨followed, found⟩ := ih on_tour
    refine ⟨List.forall_mem_cons.mpr ⟨fun _ => ?_, followed⟩, found⟩
    exact ⟨rest.keeps_ids (on_tour _ on_path), fun _ => rest.keeps_noted (Tour.noted_note _ _)⟩
  | known off_path known rest ih =>
    obtain ⟨followed, found⟩ := ih on_tour
    refine ⟨List.forall_mem_cons.mpr ⟨fun _ => ?_, followed⟩, found⟩
    exact ⟨rest.keeps_ids known, fun hm => absurd hm off_path⟩
  | @enter path _ next t _ _ _ off_path _ hdeep hrest deep rest =>
    have on_tour' : ∀ id ∈ next :: path, id ∈ (t.enter next path).ids := Tour.mem_ids_enter on_tour
    obtain ⟨edges, found_below⟩ := deep on_tour'
    obtain ⟨followed, found_after⟩ := rest fun id hid => hdeep.keeps_ids (on_tour' id (List.mem_cons_of_mem _ hid))
    refine ⟨List.forall_mem_cons.mpr ⟨fun _ => ?_, followed⟩, fun new hn x hx => ?_⟩
    · exact ⟨hrest.keeps_ids (hdeep.keeps_ids List.mem_cons_self), fun hm => absurd hm off_path⟩
    · -- a new id is the one that is entered here, or new below it, or new after it
      obtain ⟨below, hb, -⟩ := hdeep.found_eq
      obtain ⟨after, ha, -⟩ := hrest.found_eq
      have split : new ++ t.found = after ++ (below ++ [⟨next, path⟩]) ++ t.found := by
        rw [← hn, ha, hb]
        simp [Tour.enter]
      rw [List.append_cancel_right split] at hx
      rcases List.mem_append.mp hx with hx | hx
      · exact found_after after ha x hx
      · rcases List.mem_append.mp hx with hx | hx
        · exact fun next hn hd => hrest.keeps_handled (found_below below hb x hx next hn hd)
        · cases List.mem_singleton.mp hx
          exact fun next hn hd => hrest.keeps_handled (edges next hn hd)

/-! ## What is entered below an id is entered in a row -/

/-- When the search left the id, it had entered what the edges of the id and of the ids below it lead to. -/
def Rounded (d : Definition) (found : List Discovery) (x : Discovery) : Prop :=
  ∃ later inner older, found = later ++ (inner ++ x :: older) ∧ (∀ y ∈ inner, x.trail <:+ y.path) ∧
    ∀ y ∈ inner ++ [x], ∀ next ∈ successors d y.id, d.Declares next → ∃ z ∈ inner ++ x :: older, z.id = next

theorem Rounded.append {found : List Discovery} {x : Discovery} (h : Rounded d found x) (newer : List Discovery) :
    Rounded d (newer ++ found) x := by
  obtain ⟨later, inner, older, rfl, below, closed⟩ := h
  exact ⟨newer ++ later, inner, older, (List.append_assoc _ _ _).symm, below, closed⟩

/-- Entering an id and following its edges rounds it off. -/
theorem Follows.rounded_entered {next : Text} (h : Follows d (next :: path) (successors d next) (t.enter next path) t')
    (on_tour : ∀ id ∈ path, id ∈ t.ids) : Rounded d t'.found ⟨next, path⟩ := by
  obtain ⟨inner, hi, below⟩ := h.found_eq
  obtain ⟨edges, found⟩ := h.handled (Tour.mem_ids_enter on_tour)
  refine ⟨[], inner, t.found, hi, below, fun y hy following hf hd => ?_⟩
  have entered : following ∈ t'.ids := by
    rcases List.mem_append.mp hy with hy | hy
    · exact (found inner hi y hy following hf hd).entered
    · cases List.mem_singleton.mp hy
      exact (edges following hf hd).entered
  obtain ⟨z, hz, he⟩ := List.mem_map.mp entered
  exact ⟨z, hi ▸ hz, he⟩

theorem Follows.rounded (h : Follows d path nexts t t') (on_tour : ∀ id ∈ path, id ∈ t.ids) :
    ∀ x ∈ t'.found, x ∈ t.found ∨ Rounded d t'.found x := by
  induction h with
  | done => exact fun x hx => .inl hx
  | undeclared _ _ ih | back _ _ _ ih | known _ _ _ ih => exact ih on_tour
  | enter _ _ _ hdeep hrest deep rest =>
    obtain ⟨after, ha, -⟩ := hrest.found_eq
    intro x hx
    rcases rest (fun id hid => hdeep.keeps_ids (List.mem_cons_of_mem _ (on_tour id hid))) x hx with hx | hx
    · rcases deep (Tour.mem_ids_enter on_tour) x hx with hx | hx
      · rcases List.mem_cons.mp hx with rfl | hx
        · exact .inr (ha ▸ (hdeep.rounded_entered on_tour).append after)
        · exact .inl hx
      · exact .inr (ha ▸ hx.append after)
    · exact .inr hx

/-! ## Where cycles come from -/

/-- The cycle closes where an edge of a found id leads back to the id's trail, and it never asks. -/
def Closes (d : Definition) (found : List Discovery) (cycle : List Text) : Prop :=
  ∃ x ∈ found, ∃ next ∈ x.trail, d.Leads x.id next ∧ cycle = closing x.trail next ∧ cycle.any (asksUser d) = false

theorem Follows.cycle_origin (h : Follows d path nexts t t') (hangs : ∀ next ∈ nexts, Hangs d t.found path next) :
    ∀ c ∈ t'.cycles, c ∈ t.cycles ∨ Closes d t'.found c := by
  induction h with
  | done => exact fun c hc => .inl hc
  | undeclared _ _ ih | known _ _ _ ih => exact ih (List.forall_mem_cons.mp hangs).2
  | @back path _ next t _ _ on_path hrest ih =>
    obtain ⟨first, others⟩ := List.forall_mem_cons.mp hangs
    intro c hc
    rcases ih others c hc with hc | hc
    · rcases t.cycles_note (closing path next) (d := d) with he | ⟨quiet, he⟩ <;> rw [he] at hc
      · exact .inl hc
      · rcases List.mem_append.mp hc with hc | hc
        · exact .inl hc
        · -- the cycle noted here closes at the last id of the path
          cases path with
          | nil => cases on_path
          | cons top below =>
            obtain ⟨hm, hl⟩ := first top below rfl
            exact .inr ⟨⟨top, below⟩, hrest.keeps_found hm, next, on_path, hl, List.mem_singleton.mp hc,
              List.mem_singleton.mp hc ▸ quiet⟩
    · exact .inr hc
  | enter _ _ _ hdeep hrest deep rest =>
    obtain ⟨first, others⟩ := List.forall_mem_cons.mp hangs
    intro c hc
    rcases rest (fun next hn => (others next hn).mono fun x hx => hdeep.keeps_found (List.mem_cons_of_mem _ hx)) c hc
      with hc | hc
    · rcases deep (fun _ => hangs_successors) c hc with hc | ⟨x, hx, hr⟩
      · exact .inl hc
      · exact .inr ⟨x, hrest.keeps_found hx, hr⟩
    · exact .inr hc

/-! ## The whole search -/

/-- The discoveries of the whole search of a definition. -/
structure Explored (d : Definition) (found : List Discovery) : Prop where
  entered : (searchLoops d).entered = found.map Discovery.id
  grown : Grown d found
  complete : ∀ id, d.Declares id → ∃ x ∈ found, x.id = id
  rounded : ∀ x ∈ found, Rounded d found x
  noted : ∀ x ∈ found, ∀ next ∈ x.trail, d.Leads x.id next →
    (closing x.trail next).any (asksUser d) = true ∨
      ∃ c ∈ (searchLoops d).cycles, sameIds (closing x.trail next) c = true
  origin : ∀ c ∈ (searchLoops d).cycles, Closes d found c

theorem exists_explored (d : Definition) : ∃ found, Explored d found := by
  obtain ⟨t, hs, h⟩ := follows_searchLoops d
  have grown : Grown d t.found := h.grown .nil fun _ _ _ _ he => nomatch he
  obtain ⟨followed, found⟩ := h.handled (by simp)
  have complete : ∀ id, d.Declares id → ∃ x ∈ t.found, x.id = id := by
    rintro id ⟨n, hn, rfl⟩
    have entered := (followed n.id (List.mem_map_of_mem hn) ⟨n, hn, rfl⟩).entered
    exact List.mem_map.mp entered
  have rounded : ∀ x ∈ t.found, Rounded d t.found x := by
    intro x hx
    rcases h.rounded (by simp) x hx with hx | hx
    · cases hx
    · exact hx
  have noted : ∀ x ∈ t.found, ∀ next ∈ x.trail, d.Leads x.id next → t.Noted d (closing x.trail next) := by
    intro x hx next hm hl
    have declared : d.Declares next := grown.declares_of_mem_trail hx hm
    have edge : next ∈ successors d x.id := mem_successors_iff.mpr ⟨(grown.hangs_of_mem hx).1, hl⟩
    exact (found t.found (by simp) x hx next edge declared).noted hm
  have origin : ∀ c ∈ t.cycles, Closes d t.found c := by
    intro c hc
    rcases h.cycle_origin (fun _ _ _ _ he => nomatch he) c hc with hc | hc
    · cases hc
    · exact hc
  refine ⟨t.found, ?_, grown, complete, rounded, ?_, ?_⟩
  · rw [← hs]
    rfl
  · rw [← hs]
    exact noted
  · rw [← hs]
    exact origin

end Colloquy.Inspection
