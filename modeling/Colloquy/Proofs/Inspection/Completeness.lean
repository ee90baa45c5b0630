import Colloquy.Proofs.Inspection.Soundness

/-!
# Which loops without input are found

The search looks at one trail when it meets an edge back to an id on it. A loop that never asks is overlooked when an
asking node stands on that trail, although the loop itself goes another way (`overlooks_detour`). Exactly the exposed
loops lead to a finding: those that no asking node separates in the search (`Exposed`, `loop_reported_iff`). A loop with
no asking node around it is exposed whatever the order of the edges (`loop_reported_of_nowhere_asked`).

What carries the proof: an id is on the trail of another exactly when the other can be reached from it through ids that
the search enters later (`Explored.under_iff`).
-/

namespace Colloquy

namespace Inspection

variable {d : Definition}

/-! ## The order of the search -/

/-- The search enters one id before the other. -/
def Before (d : Definition) (a b : Text) : Prop := (searchLoops d).entered.idxOf b < (searchLoops d).entered.idxOf a

/-- From one id the other is reached through declared ids that are not entered before the first one. -/
def Under (d : Definition) (a b : Text) : Prop :=
  Relation.ReflTransGen (fun x y => d.Leads x y ∧ d.Declares y ∧ ¬Before d y a) a b

theorem Before.asymm {a b : Text} (h : Before d a b) : ¬Before d b a := Nat.lt_asymm h

theorem Before.trans {a b c : Text} (h : Before d a b) (h' : Before d b c) : Before d a c := Nat.lt_trans h' h

theorem not_before_self {a : Text} : ¬Before d a a := Nat.lt_irrefl _

theorem Under.not_before {a b : Text} (h : Under d a b) : ¬Before d b a := by
  cases h with
  | refl => exact not_before_self
  | tail _ step => exact step.2.2

theorem Under.leads {a b : Text} (h : Under d a b) : Relation.ReflTransGen d.Leads a b :=
  Relation.ReflTransGen.mono (fun _ _ step => step.1) _ _ h

theorem Under.declares {a b : Text} (h : Under d a b) (ha : d.Declares a) : d.Declares b := by
  cases h with
  | refl => exact ha
  | tail _ step => exact step.2.1

/-- Every id of a closed walk is under its first one, if none of them is entered before. -/
theorem under_of_chain {cycle : List Text} {first : Text} (hc : d.ClosedWalk cycle) (hfirst : cycle.head? = some first)
    (late : ∀ id ∈ cycle, ¬Before d id first) {id : Text} (hid : id ∈ cycle) : Under d first id := by
  have steps : cycle.IsChain fun x y => d.Leads x y ∧ d.Declares y ∧ ¬Before d y first :=
    hc.chain.imp_of_mem_imp fun _ y _ hy hl => ⟨hl, hc.declared y hy, late y hy⟩
  obtain ⟨rest, rfl⟩ : ∃ rest, cycle = first :: rest := List.head?_eq_some_iff.mp hfirst
  exact steps.induction (Under d first) _ (fun _ _ step h => h.tail step) (fun _ => .refl) id hid

theorem idxOf_lt_idxOf {newer older : List Text} {a b : Text} (nodup : (newer ++ a :: older).Nodup) (hb : b ∈ older) :
    (newer ++ a :: older).idxOf a < (newer ++ a :: older).idxOf b := by
  obtain ⟨-, hcons, apart⟩ := List.nodup_append.mp nodup
  have hne : a ≠ b := fun he => (List.nodup_cons.mp hcons).1 (he ▸ hb)
  have ha : a ∉ newer := fun h => apart a h a List.mem_cons_self rfl
  have hb' : b ∉ newer := fun h => apart b h b (List.mem_cons_of_mem _ hb) rfl
  rw [List.idxOf_append_of_notMem ha, List.idxOf_append_of_notMem hb', List.idxOf_cons_self, List.idxOf_cons_ne _ hne]
  omega

namespace Explored

variable {found : List Discovery} {x : Discovery}

theorem before_of_mem_older (h : Explored d found) {newer older : List Discovery} (hf : found = newer ++ x :: older)
    {z : Discovery} (hz : z ∈ older) : Before d z.id x.id := by
  have nodup := h.grown.nodup
  have hids : found.map Discovery.id = newer.map Discovery.id ++ x.id :: older.map Discovery.id := by simp [hf]
  unfold Before
  rw [h.entered, hids]
  exact idxOf_lt_idxOf (hids ▸ nodup) (List.mem_map_of_mem hz)

/-- The ids on the path above an id are entered before it. -/
theorem before_of_mem_path (h : Explored d found) (hx : x ∈ found) {id : Text} (hid : id ∈ x.path) :
    Before d id x.id := by
  obtain ⟨newer, older, hf⟩ := List.append_of_mem hx
  obtain ⟨z, hz, rfl⟩ := (hf ▸ h.grown).of_append.mem_older hid
  exact h.before_of_mem_older hf hz

/-- What is reached under an id was entered in a row after it. -/
theorem exists_row_of_under (h : Explored d found) {later inner older : List Discovery}
    (hf : found = later ++ (inner ++ x :: older))
    (closed : ∀ y ∈ inner ++ [x], ∀ next ∈ successors d y.id, d.Declares next → ∃ z ∈ inner ++ x :: older, z.id = next)
    {b : Text} (hu : Under d x.id b) : ∃ y ∈ inner ++ [x], y.id = b := by
  induction hu with
  | refl => exact ⟨x, by simp, rfl⟩
  | tail _ hstep ih =>
    obtain ⟨y, hy, rfl⟩ := ih
    obtain ⟨hl, hd, late⟩ := hstep
    have hyf : y ∈ found := by
      rw [hf]
      simp only [List.mem_append, List.mem_cons, List.not_mem_nil, or_false] at hy ⊢
      tauto
    have edge := mem_successors_iff.mpr ⟨(h.grown.hangs_of_mem hyf).1, hl⟩
    obtain ⟨z, hz, rfl⟩ := closed y hy _ edge hd
    refine ⟨z, ?_, rfl⟩
    rcases List.mem_append.mp hz with hz | hz
    · exact List.mem_append_left _ hz
    · rcases List.mem_cons.mp hz with rfl | hz
      · simp
      · -- an older id is entered before, and is not reached under this one
        have split : found = later ++ inner ++ x :: older := by rw [hf, List.append_assoc]
        exact absurd (h.before_of_mem_older split hz) late

theorem mem_trail_of_under (h : Explored d found) {a b : Text} (ha : d.Declares a) (hu : Under d a b) :
    ∃ y ∈ found, y.id = b ∧ a ∈ y.trail := by
  obtain ⟨x, hx, rfl⟩ := h.complete a ha
  obtain ⟨later, inner, older, hf, below, closed⟩ := h.rounded x hx
  obtain ⟨y, hy, rfl⟩ := h.exists_row_of_under hf closed hu
  rcases List.mem_append.mp hy with hy | hy
  · have hyf : y ∈ found := hf ▸ List.mem_append_right _ (List.mem_append_left _ hy)
    have on_path : x.id ∈ y.path := (below y hy).subset List.mem_cons_self
    exact ⟨y, hyf, rfl, List.mem_cons_of_mem _ on_path⟩
  · cases List.mem_singleton.mp hy
    exact ⟨x, hx, rfl, List.mem_cons_self⟩

theorem under_of_mem_trail (h : Explored d found) {a : Text} (hx : x ∈ found) (ha : a ∈ x.trail) : Under d a x.id := by
  obtain ⟨id, path⟩ := x
  -- along the path, from the id to the root
  induction path generalizing id with
  | nil => exact List.mem_singleton.mp ha ▸ .refl
  | cons top path ih =>
    rcases List.mem_cons.mp ha with rfl | ha
    · exact .refl
    · obtain ⟨declared, hangs⟩ := h.grown.hangs_of_mem hx
      obtain ⟨htop, hl⟩ := hangs top path rfl
      exact (ih top htop ha).tail ⟨hl, declared, (h.before_of_mem_path hx ha).asymm⟩

/-- An id is on the trail of another exactly when the other is reached from it through ids not entered before it. -/
theorem under_iff (h : Explored d found) {a b : Text} (ha : d.Declares a) :
    Under d a b ↔ ∃ y ∈ found, y.id = b ∧ a ∈ y.trail := by
  constructor
  · exact h.mem_trail_of_under ha
  · rintro ⟨y, hy, rfl, hm⟩
    exact h.under_of_mem_trail hy hm

end Explored

/-! ## Exposed loops -/

/-- A closed walk without input that the search cannot overlook: the search enters none of its ids before the first, and
no asking node is reached from the first id, and reaches the last, through ids that the search enters later. -/
structure Exposed (d : Definition) (cycle : List Text) : Prop where
  closed : d.ClosedWalk cycle
  input_free : d.InputFree cycle
  first_entered : ∀ first ∈ cycle.head?, ∀ id ∈ cycle, ¬Before d id first
  never_apart : ∀ first ∈ cycle.head?, ∀ last ∈ cycle.getLast?, ∀ n ∈ d.nodes, Under d first n.id → Under d n.id last →
    n.kind? ≠ some .getUserInput

namespace Explored

variable {found : List Discovery} {x : Discovery} {next : Text}

/-- The ids from one on a trail to the trail's end are those under the one and above the end. -/
theorem mem_closing_iff (h : Explored d found) (hx : x ∈ found) (hm : next ∈ x.trail) {id : Text} :
    id ∈ closing x.trail next ↔ Under d next id ∧ Under d id x.id := by
  have declared : d.Declares next := h.grown.declares_of_mem_trail hx hm
  obtain ⟨rest, hr⟩ := exists_takeWhile_ne hm
  constructor
  · intro hid
    refine ⟨?_, h.under_of_mem_trail hx (closing_subset hm hid)⟩
    rcases List.mem_cons.mp hid with rfl | hid
    · exact .refl
    · -- the id has the first one on its own trail, which is the rest of this one
      obtain ⟨newer, between, hb⟩ := List.append_of_mem (List.mem_reverse.mp hid)
      let own : Discovery := ⟨id, between ++ next :: rest⟩
      have suffix : own.trail <:+ x.trail := ⟨newer, by rw [hr, hb]; simp [own, Discovery.trail]⟩
      have on_own : next ∈ own.trail := by simp [own, Discovery.trail]
      exact h.under_of_mem_trail (h.grown.mem_of_suffix hx suffix) on_own
  · rintro ⟨hu, hu'⟩
    obtain ⟨y, hy, he, on_trail⟩ := h.mem_trail_of_under (hu.declares declared) hu'
    rw [h.grown.eq_of_id hy hx he, hr] at on_trail
    rcases List.mem_append.mp on_trail with hid | hid
    · exact List.mem_cons_of_mem _ (List.mem_reverse.mpr hid)
    · rcases List.mem_cons.mp hid with rfl | hid
      · exact List.mem_cons_self
      · -- above the first id are the ids entered before it
        have suffix : (Discovery.mk next rest).trail <:+ x.trail := ⟨_, hr.symm⟩
        exact absurd (h.before_of_mem_path (h.grown.mem_of_suffix hx suffix) hid) hu.not_before

/-- A cycle that the search notes is exposed. -/
theorem exposed_of_closes (h : Explored d found) (distinct : d.Distinct) {cycle : List Text}
    (hc : Closes d found cycle) : Exposed d cycle := by
  have loop := h.grown.silentLoop_of_closes distinct hc
  obtain ⟨x, hx, next, hm, -, rfl, -⟩ := hc
  refine ⟨loop.closed, loop.input_free, ?_, ?_⟩
  · rintro first ⟨⟩ id hid
    exact ((h.mem_closing_iff hx hm).mp hid).1.not_before
  · intro first hfirst last hlast n hn under above
    cases hfirst
    rw [getLast?_closing hm] at hlast
    cases hlast
    exact loop.input_free n hn ((h.mem_closing_iff hx hm).mpr ⟨under, above⟩)

/-- An exposed loop makes the search note a cycle. -/
theorem noted_of_exposed (h : Explored d found) (distinct : d.Distinct) {cycle : List Text} (hc : Exposed d cycle) :
    (searchLoops d).cycles ≠ [] := by
  obtain ⟨first, last, hfirst, hlast, hl⟩ := hc.closed.closes
  have declared : d.Declares first := hc.closed.declared first (List.mem_of_head? hfirst)
  have under : Under d first last :=
    under_of_chain hc.closed hfirst (hc.first_entered first hfirst) (List.mem_of_getLast? hlast)
  obtain ⟨x, hx, rfl, hm⟩ := h.mem_trail_of_under declared under
  have quiet : (closing x.trail first).any (asksUser d) = false := by
    refine (any_asksUser_eq_false_iff distinct fun id hid => ?_).mpr fun n hn hid => ?_
    · exact h.grown.declares_of_mem_trail hx (closing_subset hm hid)
    · obtain ⟨below, above⟩ := (h.mem_closing_iff hx hm).mp hid
      exact hc.never_apart first hfirst x.id hlast n hn below above
  rcases h.noted x hx first hm hl with asks | ⟨c, hc, -⟩
  · rw [quiet] at asks
    cases asks
  · exact List.ne_nil_of_mem hc

end Explored

/-- The search notes a cycle exactly when some loop is exposed. -/
theorem cycles_ne_nil_iff (distinct : d.Distinct) : (searchLoops d).cycles ≠ [] ↔ ∃ cycle, Exposed d cycle := by
  obtain ⟨found, h⟩ := exists_explored d
  constructor
  · intro hne
    obtain ⟨cycle, hc⟩ := List.exists_mem_of_ne_nil _ hne
    exact ⟨cycle, h.exposed_of_closes distinct (h.origin cycle hc)⟩
  · rintro ⟨cycle, hc⟩
    exact h.noted_of_exposed distinct hc

/-! ## Loops that are exposed whatever the order -/

/-- Among the ids of a closed walk, the search enters one first. -/
theorem exists_first_entered {ids : List Text} (hne : ids ≠ []) : ∃ first ∈ ids, ∀ id ∈ ids, ¬Before d id first := by
  induction ids with
  | nil => exact absurd rfl hne
  | cons a ids ih =>
    by_cases h : ids = []
    · subst h
      refine ⟨a, List.mem_cons_self, fun id hid => ?_⟩
      rw [List.mem_singleton.mp hid]
      exact not_before_self
    · obtain ⟨first, hf, late⟩ := ih h
      by_cases ha : Before d a first
      · refine ⟨a, List.mem_cons_self, List.forall_mem_cons.mpr ⟨not_before_self, fun id hid hb => ?_⟩⟩
        exact late id hid (hb.trans ha)
      · exact ⟨first, List.mem_cons_of_mem _ hf, List.forall_mem_cons.mpr ⟨ha, late⟩⟩

/-- A loop without input is exposed, from some id on, if no asking node is both reached from it and reaches it. -/
theorem exists_exposed_of_nowhere_asked {cycle : List Text} (closed : d.ClosedWalk cycle)
    (input_free : d.InputFree cycle) (nowhere : ∀ n ∈ d.nodes, n.kind? = some .getUserInput → ∀ a ∈ cycle, ∀ b ∈ cycle,
      Relation.ReflTransGen d.Leads a n.id → ¬Relation.ReflTransGen d.Leads n.id b) :
    ∃ cycle', Exposed d cycle' := by
  obtain ⟨first, hm, late⟩ := exists_first_entered (d := d) closed.ne_nil
  obtain ⟨before, after, rfl⟩ := List.append_of_mem hm
  have rotated : ∀ id, id ∈ first :: after ++ before ↔ id ∈ before ++ first :: after := fun id => by
    simp only [List.mem_append, List.mem_cons]
    tauto
  refine ⟨first :: after ++ before, closed.rotate, fun n hn hid => input_free n hn ((rotated _).mp hid), ?_, ?_⟩
  · rintro _ ⟨⟩ id hid
    exact late id ((rotated id).mp hid)
  · rintro _ ⟨⟩ last hlast n hn under above asks
    exact nowhere n hn asks first hm last ((rotated last).mp (List.mem_of_getLast? hlast)) under.leads above.leads

end Inspection

open Inspection

variable {d : Definition}

/-- Some finding is about a loop exactly when the search has noted a cycle. -/
theorem exists_loop_finding_iff : (∃ f ∈ d.findings, f.code = "LOOP_WITHOUT_INPUT") ↔ (searchLoops d).cycles ≠ [] := by
  constructor
  · rintro ⟨f, hf, hcode⟩
    obtain ⟨first, rest, rfl⟩ := Finding.code_eq_loop_iff.mp hcode
    exact List.ne_nil_of_mem (mem_findings_iff.mp hf)
  · intro hne
    obtain ⟨cycle, hc⟩ := List.exists_mem_of_ne_nil _ hne
    obtain ⟨found, h⟩ := exists_explored d
    obtain ⟨x, -, next, -, -, rfl, -⟩ := h.origin cycle hc
    exact ⟨.loop next _, mem_findings_iff.mpr hc, rfl⟩

/-- **Which loops without input are found.** In a definition with distinct ids, some loop is reported exactly when some
closed walk without input is exposed. -/
theorem loop_reported_iff (distinct : d.Distinct) :
    (∃ f ∈ d.findings, f.code = "LOOP_WITHOUT_INPUT") ↔ ∃ cycle, Exposed d cycle :=
  exists_loop_finding_iff.trans (cycles_ne_nil_iff distinct)

/-- Two messages by turns: the loop is exposed, since it is reported. -/
theorem exposed_spinner : Definition.spinner.Distinct ∧ ∃ cycle, Exposed Definition.spinner cycle :=
  ⟨by decide, (loop_reported_iff (d := .spinner) (by decide)).mp (by decide +kernel)⟩

/-- A loop without input is overlooked when the search comes to it on the way through a node that asks. -/
theorem overlooks_detour : Definition.detour.Distinct ∧
    (∃ cycle, Definition.detour.ClosedWalk cycle ∧ Definition.detour.InputFree cycle) ∧
    ¬∃ f ∈ Definition.detour.findings, f.code = "LOOP_WITHOUT_INPUT" := by
  have closed : Definition.detour.ClosedWalk ["c", "say"] :=
    ⟨by decide, by decide, "c", "say", rfl, rfl, by decide⟩
  exact ⟨by decide, ⟨_, closed, by decide⟩, by decide +kernel⟩

/-- A loop without input is reported if no asking node is both reached from it and reaches it. -/
theorem loop_reported_of_nowhere_asked (distinct : d.Distinct) {cycle : List Text} (closed : d.ClosedWalk cycle)
    (input_free : d.InputFree cycle) (nowhere : ∀ n ∈ d.nodes, n.kind? = some .getUserInput → ∀ a ∈ cycle, ∀ b ∈ cycle,
      Relation.ReflTransGen d.Leads a n.id → ¬Relation.ReflTransGen d.Leads n.id b) :
    ∃ f ∈ d.findings, f.code = "LOOP_WITHOUT_INPUT" :=
  exists_loop_finding_iff.mpr ((cycles_ne_nil_iff distinct).mpr
    (exists_exposed_of_nowhere_asked closed input_free nowhere))

end Colloquy
