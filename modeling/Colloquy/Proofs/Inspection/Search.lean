import Colloquy.Inspection.Loops
import Colloquy.Proofs.Flow.Cycle
import Mathlib.Data.List.Perm.Subperm

/-!
# The depth-first search as a relation

`Inspection.explore` is a fold under fuel. Here the search is a relation without fuel, with one rule for each thing that
can be done with the next id (`Follows`), and it keeps for every id the path on which it was entered (`Discovery`). The
fuel of the search suffices: a path holds declared ids, each once (`follows_explore`, `follows_searchLoops`).
-/

namespace Colloquy.Inspection

variable {d : Definition} {id next : Text} {path nexts : List Text}

theorem declares_iff : declares d id = true ↔ d.Declares id := by
  simp [declares, Definition.Declares]

theorem declares_eq_false_iff : declares d id = false ↔ ¬d.Declares id := by
  rw [← declares_iff, Bool.not_eq_true]

theorem mem_successors_iff : next ∈ successors d id ↔ d.Declares id ∧ d.Leads id next := by
  unfold successors
  by_cases h : d.Declares id
  · rw [if_pos (declares_iff.mpr h)]
    simp [Routing.outgoing_eq_filter, Definition.Leads, h, and_assoc]
  · rw [if_neg (mt declares_iff.mp h)]
    simp [h]

/-! ## The relation -/

/-- An id that the search entered, and the path from above it back to the root. -/
structure Discovery where
  id : Text
  path : List Text

/-- The path from an id back to the root, the id included. -/
def Discovery.trail (x : Discovery) : List Text := x.id :: x.path

theorem Discovery.eq_of_trail {x y : Discovery} (h : x.trail = y.trail) : x = y := by
  cases x
  cases y
  cases h
  rfl

/-- A search with the paths of the ids that it entered, the last one first. -/
structure Tour where
  found : List Discovery
  cycles : List (List Text)

namespace Tour

def ids (t : Tour) : List Text := t.found.map Discovery.id

/-- The search without the paths. -/
def search (t : Tour) : Search := ⟨t.ids, t.cycles⟩

def enter (t : Tour) (id : Text) (path : List Text) : Tour := { t with found := ⟨id, path⟩ :: t.found }

def note (d : Definition) (t : Tour) (cycle : List Text) : Tour :=
  { t with cycles := (t.search.note d cycle).cycles }

theorem search_note (t : Tour) (cycle : List Text) : (t.note d cycle).search = t.search.note d cycle := by
  unfold note Search.note
  split <;> rfl

end Tour

/-- Following ids from the last id of a path leads from one tour to the other. -/
inductive Follows (d : Definition) : List Text → List Text → Tour → Tour → Prop
  | done {path : List Text} {t : Tour} : Follows d path [] t t
  | undeclared {path nexts : List Text} {next : Text} {t t' : Tour} (undeclared : ¬d.Declares next)
      (rest : Follows d path nexts t t') : Follows d path (next :: nexts) t t'
  | back {path nexts : List Text} {next : Text} {t t' : Tour} (declared : d.Declares next) (on_path : next ∈ path)
      (rest : Follows d path nexts (t.note d (closing path next)) t') : Follows d path (next :: nexts) t t'
  | known {path nexts : List Text} {next : Text} {t t' : Tour} (off_path : next ∉ path) (known : next ∈ t.ids)
      (rest : Follows d path nexts t t') : Follows d path (next :: nexts) t t'
  | enter {path nexts : List Text} {next : Text} {t t' t'' : Tour} (declared : d.Declares next) (off_path : next ∉ path)
      (fresh : next ∉ t.ids) (deep : Follows d (next :: path) (successors d next) (t.enter next path) t')
      (rest : Follows d path nexts t' t'') : Follows d path (next :: nexts) t t''

/-- Following ids in a row, when entering an id is a search of its own. -/
theorem follows_foldl {enter : Text → Search → Search}
    (deep : ∀ (next : Text) (t : Tour), d.Declares next → next ∉ path → ∃ t' : Tour, t'.search = enter next t.search ∧
      Follows d (next :: path) (successors d next) (t.enter next path) t') (nexts : List Text) (t : Tour) :
    ∃ t' : Tour, t'.search = nexts.foldl (fun s next =>
      if !declares d next then s
      else if next ∈ path then s.note d (closing path next)
      else if next ∈ s.entered then s
      else enter next s) t.search ∧ Follows d path nexts t t' := by
  induction nexts generalizing t with
  | nil => exact ⟨t, rfl, .done⟩
  | cons next nexts ih =>
    rw [List.foldl_cons]
    by_cases hd : d.Declares next
    · rw [if_neg (by simp [declares_iff.mpr hd])]
      by_cases hp : next ∈ path
      · obtain ⟨t', hs, hf⟩ := ih (t.note d (closing path next))
        rw [if_pos hp, ← Tour.search_note]
        exact ⟨t', hs, .back hd hp hf⟩
      · rw [if_neg hp]
        by_cases hk : next ∈ t.ids
        · obtain ⟨t', hs, hf⟩ := ih t
          rw [if_pos (show next ∈ t.search.entered from hk)]
          exact ⟨t', hs, .known hp hk hf⟩
        · obtain ⟨t₁, hs₁, hf₁⟩ := deep next t hd hp
          obtain ⟨t', hs, hf⟩ := ih t₁
          rw [if_neg (show next ∉ t.search.entered from hk), ← hs₁]
          exact ⟨t', hs, .enter hd hp hk hf₁ hf⟩
    · obtain ⟨t', hs, hf⟩ := ih t
      rw [if_pos (by simp [declares_eq_false_iff.mpr hd])]
      exact ⟨t', hs, .undeclared hd hf⟩

/-- A path of declared ids, each once, is no longer than the list of nodes. -/
theorem length_path_le (nodup : path.Nodup) (declared : ∀ a ∈ path, d.Declares a) : path.length ≤ d.nodes.length := by
  have sub : path ⊆ d.nodes.map Node.id := fun a ha => List.mem_map.mpr (declared a ha)
  simpa using (nodup.subperm sub).length_le

/-- Exploring an id that is not on the path follows its edges: the fuel suffices. -/
theorem follows_explore {fuel : Nat} {t : Tour} (nodup : path.Nodup) (declared : ∀ a ∈ path, d.Declares a)
    (enough : d.nodes.length ≤ path.length + fuel) (hid : d.Declares id) (fresh : id ∉ path) :
    ∃ t' : Tour, t'.search = explore d fuel path id t.search ∧
      Follows d (id :: path) (successors d id) (t.enter id path) t' := by
  have nodup' : (id :: path).Nodup := List.nodup_cons.mpr ⟨fresh, nodup⟩
  have declared' : ∀ a ∈ id :: path, d.Declares a := List.forall_mem_cons.mpr ⟨hid, declared⟩
  induction fuel generalizing path id t with
  | zero =>
    have := length_path_le nodup' declared'
    simp at this enough
    omega
  | succ fuel ih =>
    refine follows_foldl (fun next t hn hp => ?_) (successors d id) (t.enter id path)
    refine ih nodup' declared' ?_ hn hp (List.nodup_cons.mpr ⟨hp, nodup'⟩) (List.forall_mem_cons.mpr ⟨hn, declared'⟩)
    rw [List.length_cons]
    omega

/-- The search of a definition follows the ids of its nodes from an empty path. -/
theorem follows_searchLoops (d : Definition) :
    ∃ t : Tour, t.search = searchLoops d ∧ Follows d [] (d.nodes.map Node.id) ⟨[], []⟩ t := by
  obtain ⟨t, hs, hf⟩ := @follows_foldl d [] (fun id s => explore d d.nodes.length [] id s)
    (fun next t hn hp => follows_explore .nil (by simp) (Nat.le_add_left _ _) hn hp) (d.nodes.map Node.id) ⟨[], []⟩
  refine ⟨t, hs.trans ?_, hf⟩
  rw [List.foldl_map]
  refine List.foldl_ext _ _ _ fun s n hn => ?_
  have hd : declares d n.id = true := declares_iff.mpr ⟨n, hn, rfl⟩
  simp [hd]

end Colloquy.Inspection
