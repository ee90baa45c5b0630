import Colloquy.Flow.Definition
import Mathlib.Data.List.Chain
import Mathlib.Data.List.Nodup

/-!
# Closed walks of a definition

The edges of a definition as a relation on ids (`Leads`), the closed walks through declared ids (`ClosedWalk`), and
those of them that no node interrupts to ask the user (`InputFree`). A trail is a list of ids, the newest first, each
led to by the next; a trail that leads back to one of its ids closes a walk (`closedWalk_closing`).
-/

namespace Colloquy

/-! ## The end of a trail -/

section

variable {trail : List Text} {id : Text}

/-- A list up to an element that it holds, and from there on. -/
theorem exists_takeWhile_ne (h : id ∈ trail) : ∃ rest, trail = trail.takeWhile (· ≠ id) ++ id :: rest := by
  induction trail with
  | nil => cases h
  | cons a trail ih =>
    by_cases ha : a = id
    · subst ha
      exact ⟨trail, by simp⟩
    · obtain ⟨rest, hr⟩ := ih (List.mem_of_ne_of_mem (Ne.symm ha) h)
      refine ⟨rest, ?_⟩
      rw [List.takeWhile_cons_of_pos (by simpa using ha), List.cons_append, ← hr]

/-- The ids from one on a trail, which has the newest first, to the trail's end. -/
def closing (trail : List Text) (id : Text) : List Text := id :: (trail.takeWhile (· ≠ id)).reverse

theorem closing_eq_reverse (h : id ∈ trail) : ∃ seg, seg <+: trail ∧ closing trail id = seg.reverse := by
  obtain ⟨rest, hr⟩ := exists_takeWhile_ne h
  refine ⟨trail.takeWhile (· ≠ id) ++ [id], ⟨rest, ?_⟩, by simp [closing]⟩
  rw [List.append_assoc]
  exact hr.symm

theorem closing_subset (h : id ∈ trail) : closing trail id ⊆ trail := by
  obtain ⟨seg, hpre, he⟩ := closing_eq_reverse h
  exact fun a ha => hpre.subset (List.mem_reverse.mp (he ▸ ha))

theorem getLast?_closing (h : id ∈ trail) : (closing trail id).getLast? = trail.head? := by
  obtain ⟨seg, ⟨rest, rfl⟩, he⟩ := closing_eq_reverse h
  have hne : seg ≠ [] := fun hs => by simp [closing, hs] at he
  rw [he, List.getLast?_reverse, List.head?_append_of_ne_nil _ hne]

end

/-! ## Walks -/

namespace Definition

variable (d : Definition)

/-- An edge leads from one id to the other. -/
def Leads (a b : Text) : Prop := ∃ e ∈ d.edges, e.source = a ∧ e.target = b

/-- A node goes by the id. -/
def Declares (id : Text) : Prop := ∃ n ∈ d.nodes, n.id = id

/-- No two nodes go by one id. -/
def Distinct : Prop := (d.nodes.map Node.id).Nodup

instance (a b : Text) : Decidable (d.Leads a b) :=
  inferInstanceAs (Decidable (∃ e ∈ d.edges, e.source = a ∧ e.target = b))

instance (id : Text) : Decidable (d.Declares id) := inferInstanceAs (Decidable (∃ n ∈ d.nodes, n.id = id))

instance : Decidable d.Distinct := inferInstanceAs (Decidable (d.nodes.map Node.id).Nodup)

/-- Declared ids, each leading to the next, and the last one to the first. -/
structure ClosedWalk (ids : List Text) : Prop where
  declared : ∀ id ∈ ids, d.Declares id
  chain : ids.IsChain d.Leads
  closes : ∃ first last, ids.head? = some first ∧ ids.getLast? = some last ∧ d.Leads last first

/-- None of the ids is that of a node that asks the user. -/
def InputFree (ids : List Text) : Prop := ∀ n ∈ d.nodes, n.id ∈ ids → n.kind? ≠ some .getUserInput

instance (ids : List Text) : Decidable (d.InputFree ids) :=
  inferInstanceAs (Decidable (∀ n ∈ d.nodes, n.id ∈ ids → n.kind? ≠ some .getUserInput))

/-- Ids, the newest first, each led to by the next. -/
abbrev Trail (ids : List Text) : Prop := ids.IsChain fun b a => d.Leads a b

variable {d}

/-- Among nodes with distinct ids, a look-up finds the one node of an id. -/
theorem find?_id_eq_some_iff {nodes : List Node} (h : (nodes.map Node.id).Nodup) {id : Text} {n : Node} :
    nodes.find? (fun n => n.id == id) = some n ↔ n ∈ nodes ∧ n.id = id := by
  refine ⟨fun hn => ⟨List.mem_of_find?_eq_some hn, by simpa using List.find?_some hn⟩, fun ⟨hm, hid⟩ => ?_⟩
  cases hf : nodes.find? fun n => n.id == id with
  | none => simpa [hid] using List.find?_eq_none.mp hf n hm
  | some m =>
    have hmid : m.id = id := by simpa using List.find?_some hf
    exact congrArg some (List.inj_on_of_nodup_map h (List.mem_of_find?_eq_some hf) hm (hmid.trans hid.symm))

namespace ClosedWalk

theorem ne_nil {ids : List Text} (h : d.ClosedWalk ids) : ids ≠ [] := by
  obtain ⟨first, -, hf, -⟩ := h.closes
  exact List.ne_nil_of_mem (List.mem_of_head? hf)

/-- A closed walk can start at any of its ids. -/
theorem rotate {before after : List Text} {id : Text} (h : d.ClosedWalk (before ++ id :: after)) :
    d.ClosedWalk (id :: after ++ before) := by
  cases before with
  | nil => simpa using h
  | cons first before =>
    obtain ⟨hbefore, hafter, join⟩ := List.isChain_append.mp h.chain
    obtain ⟨_, last, hf, hlast, hl⟩ := h.closes
    cases hf
    obtain ⟨prev, hprev⟩ : ∃ prev, (first :: before).getLast? = some prev := ⟨_, List.getLast?_cons⟩
    refine ⟨fun a ha => h.declared a ?_, List.isChain_append.mpr ⟨hafter, hbefore, ?_⟩, id, prev, rfl, ?_, ?_⟩
    · exact (List.perm_append_comm.mem_iff).mp ha
    · -- the old end of the walk leads to its old beginning
      intro a ha b hb
      rw [List.getLast?_append_of_ne_nil _ (List.cons_ne_nil _ _), Option.mem_def.mp ha] at hlast
      cases hlast
      cases hb
      exact hl
    · rw [List.getLast?_append, hprev]
      rfl
    · exact join prev hprev id rfl

end ClosedWalk

theorem node?_eq_some_iff (h : d.Distinct) {id : Text} {n : Node} : d.node? id = some n ↔ n ∈ d.nodes ∧ n.id = id :=
  find?_id_eq_some_iff h

/-- A trail that leads back to one of its ids closes a walk. -/
theorem closedWalk_closing {trail : List Text} {top id : Text} (ht : d.Trail trail)
    (declared : ∀ a ∈ trail, d.Declares a) (htop : trail.head? = some top) (hl : d.Leads top id) (hm : id ∈ trail) :
    d.ClosedWalk (closing trail id) := by
  refine ⟨fun a ha => declared a (closing_subset hm ha), ?_, id, top, rfl, ?_, hl⟩
  · obtain ⟨seg, hpre, he⟩ := closing_eq_reverse hm
    rw [he]
    exact List.isChain_reverse.mpr <| List.IsChain.infix ht hpre.isInfix
  · rw [getLast?_closing hm, htop]

end Definition

end Colloquy
