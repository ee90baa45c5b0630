import Colloquy.Proofs.Flow.Bare
import Colloquy.Proofs.Inspection.Parts
import Colloquy.Proofs.Inspection.Search

/-!
# Valid definitions

Only two of the six checks make errors: that of the ids, and that of the edges (`check_of_isError`). What they make of
them is told by the definition alone (`Definition.faults`): whether it has a start node, which nodes repeat an id, and
which ends of edges are undeclared. So a definition is valid exactly when none of this is wrong
(`isValid_iff_faultless`), and then every edge leads from a declared id to a declared id (`declares_ends_of_isValid`).
-/

namespace Colloquy

namespace Definition

variable (d : Definition)

/-- Some node is of the start type. -/
def Starts : Prop := ∃ n ∈ d.nodes, n.type = NodeKind.start.name

instance : Decidable d.Starts := inferInstanceAs (Decidable (∃ n ∈ d.nodes, n.type = NodeKind.start.name))

/-- The nodes, in order, whose id an earlier node has. -/
def repeats : List Node := (d.nodes.zipIdx.filter fun x => x.1.id ∈ (d.nodes.take x.2).map Node.id).map Prod.fst

/-- Both ends of every edge are ids of nodes. -/
def Connected : Prop := ∀ e ∈ d.edges, d.Declares e.source ∧ d.Declares e.target

/-- The ends of an edge that are ids of no node, the source first. -/
def looseEnds (e : Edge) : List Finding :=
  (if d.Declares e.source then [] else [.undeclaredSource e.id e.source])
    ++ if d.Declares e.target then [] else [.undeclaredTarget e.id e.target]

/-- What is wrong with a definition: that no node starts, nodes that repeat an id, and loose ends of edges. -/
def faults : List Finding :=
  (if d.Starts then [] else [.missingStart]) ++ d.repeats.map (fun n => .duplicateNode n.id)
    ++ d.edges.flatMap d.looseEnds

end Definition

namespace Inspection

variable {d : Definition} {f : Finding}

/-! ## Checks that make errors -/

theorem check_of_isError (h : f.isError = true) : f.check = .ids ∨ f.check = .edges := by
  cases f with
  | missingStart | duplicateNode => exact .inl rfl
  | undeclaredSource | undeclaredTarget => exact .inr rfl
  | _ => cases h

/-- A check other than that of the ids and that of the edges makes no error. -/
theorem filter_isError_part {c : Check} (ids : c ≠ .ids) (edges : c ≠ .edges) :
    (part d c).filter Finding.isError = [] := by
  refine List.filter_eq_nil_iff.mpr fun f hf wrong => ?_
  rcases check_of_isError wrong with h | h
  · exact ids ((check_of_mem_part hf).symm.trans h)
  · exact edges ((check_of_mem_part hf).symm.trans h)

theorem filter_isError_findings (d : Definition) :
    d.findings.filter Finding.isError =
      (nodeIds d).filter Finding.isError ++ (edgeFindings d).filter Finding.isError := by
  have parts : d.findings = nodeIds d ++ part d .fields ++ edgeFindings d ++ part d .ways ++ part d .orphans
      ++ part d .loops := rfl
  rw [parts]
  simp only [List.filter_append]
  rw [filter_isError_part (c := .fields) nofun nofun, filter_isError_part (c := .ways) nofun nofun,
    filter_isError_part (c := .orphans) nofun nofun, filter_isError_part (c := .loops) nofun nofun]
  simp only [List.append_nil]

/-! ## Ids -/

/-- What is seen are the keys of the elements before, so an element repeats its key where they hold it. -/
theorem repeated_eq {α : Type} {key : α → Text} {seen : List Text} (before : List α)
    (hseen : ∀ k, k ∈ seen ↔ k ∈ before.map key) (xs : List α) :
    repeated key seen xs = ((xs.zipIdx before.length).filter fun x =>
      key x.1 ∈ ((before ++ xs).take x.2).map key).map Prod.fst := by
  induction xs generalizing seen before with
  | nil => rfl
  | cons a xs ih =>
    have here : (before ++ a :: xs).take before.length = before := List.take_left
    have after : before ++ a :: xs = before ++ [a] ++ xs := by simp
    have next : before.length + 1 = (before ++ [a]).length := by simp
    have later (k : Text) : k ∈ (before ++ [a]).map key ↔ k = key a ∨ k ∈ seen := by simp [hseen, or_comm]
    rw [List.zipIdx_cons, repeated]
    by_cases known : key a ∈ seen
    · have still (k : Text) : k ∈ seen ↔ k ∈ (before ++ [a]).map key := by
        rw [later, or_iff_right_of_imp fun h => h ▸ known]
      rw [if_pos known, List.filter_cons_of_pos (by simpa [here] using (hseen _).mp known), after, next, ih _ still]
      rfl
    · have now (k : Text) : k ∈ key a :: seen ↔ k ∈ (before ++ [a]).map key := by
        rw [later, List.mem_cons]
      have new : key a ∉ before.map key := fun h => known ((hseen _).mpr h)
      rw [if_neg known, List.filter_cons_of_neg (by simpa [here] using new), after, next, ih _ now]

theorem repeated_eq_nil_iff {α : Type} {key : α → Text} {seen : List Text} {xs : List α} :
    repeated key seen xs = [] ↔ (∀ x ∈ xs, key x ∉ seen) ∧ (xs.map key).Nodup := by
  induction xs generalizing seen with
  | nil => simp [repeated]
  | cons a xs ih =>
    rw [repeated]
    by_cases known : key a ∈ seen
    · simp [known]
    · rw [if_neg known, ih, List.map_cons, List.nodup_cons, List.forall_mem_cons]
      constructor
      · rintro ⟨fresh, nodup⟩
        refine ⟨⟨known, fun x hx h => fresh x hx (List.mem_cons_of_mem _ h)⟩, fun h => ?_, nodup⟩
        obtain ⟨x, hx, same⟩ := List.mem_map.mp h
        exact fresh x hx (same ▸ List.mem_cons_self)
      · rintro ⟨⟨-, fresh⟩, alone, nodup⟩
        refine ⟨fun x hx h => ?_, nodup⟩
        rcases List.mem_cons.mp h with same | h
        · exact alone (same ▸ List.mem_map_of_mem hx)
        · exact fresh x hx h

theorem repeats_eq (d : Definition) : repeated Node.id [] d.nodes = d.repeats :=
  repeated_eq [] (fun _ => Iff.rfl) d.nodes

/-- The errors of the ids: that no node starts, and the ids that are repeated. -/
theorem filter_isError_nodeIds (d : Definition) : (nodeIds d).filter Finding.isError =
    (if d.Starts then [] else [.missingStart]) ++ d.repeats.map fun n => .duplicateNode n.id := by
  have duplicates : ((d.repeats.map fun n => Finding.duplicateNode n.id).filter Finding.isError) =
      d.repeats.map fun n => .duplicateNode n.id := by
    refine List.filter_eq_self.mpr fun f hf => ?_
    obtain ⟨n, -, rfl⟩ := List.mem_map.mp hf
    rfl
  unfold nodeIds
  dsimp only
  rw [List.filter_append, repeats_eq, duplicates]
  congr 1
  cases starts : d.nodes.filter fun n => n.type == NodeKind.start.name with
  | nil =>
    have none : ¬d.Starts := by
      rintro ⟨n, hn, start⟩
      exact List.filter_eq_nil_iff.mp starts n hn (beq_iff_eq.mpr start)
    rw [if_neg none]
    rfl
  | cons first others =>
    obtain ⟨hn, start⟩ := List.mem_filter.mp (starts ▸ List.mem_cons_self : first ∈ d.nodes.filter _)
    rw [if_pos ⟨first, hn, beq_iff_eq.mp start⟩]
    cases others <;> rfl

/-! ## Edges -/

theorem edgeEnds_eq (d : Definition) (e : Edge) : edgeEnds d e = d.looseEnds e := by
  simp only [edgeEnds, Definition.looseEnds, declares_iff]

theorem isError_of_mem_looseEnds {e : Edge} (h : f ∈ d.looseEnds e) : f.isError = true := by
  unfold Definition.looseEnds at h
  rcases List.mem_append.mp h with h | h
  · split at h
    · cases h
    · cases List.mem_singleton.mp h
      rfl
  · split at h
    · cases h
    · cases List.mem_singleton.mp h
      rfl

theorem looseEnds_eq_nil_iff {e : Edge} : d.looseEnds e = [] ↔ d.Declares e.source ∧ d.Declares e.target := by
  unfold Definition.looseEnds
  by_cases source : d.Declares e.source <;> by_cases target : d.Declares e.target <;> simp [source, target]

/-- The errors of the edges, in order: their loose ends, whether an edge repeats an id or not. -/
theorem filter_isError_edgesFrom (d : Definition) (seen : List Text) (edges : List Edge) :
    (edgesFrom d seen edges).filter Finding.isError = edges.flatMap d.looseEnds := by
  induction edges generalizing seen with
  | nil => rfl
  | cons e edges ih =>
    have loose : (d.looseEnds e).filter Finding.isError = d.looseEnds e :=
      List.filter_eq_self.mpr fun f hf => isError_of_mem_looseEnds hf
    have repetition : (if e.id ∈ seen then [Finding.duplicateEdge e.id] else []).filter Finding.isError = [] := by
      split <;> rfl
    rw [edgesFrom, edgeEnds_eq, List.filter_append, List.filter_append, repetition, loose, ih, List.flatMap_cons]
    rfl

/-! ## All errors -/

theorem filter_isError_eq_faults (d : Definition) : d.findings.filter Finding.isError = d.faults := by
  rw [filter_isError_findings, filter_isError_nodeIds]
  unfold edgeFindings
  rw [filter_isError_edgesFrom]
  rfl

theorem isValid_iff_faults : d.isValid = true ↔ d.faults = [] := by
  unfold Definition.isValid Finding.acceptable
  rw [Bool.not_eq_true', List.any_eq_false, ← filter_isError_eq_faults, List.filter_eq_nil_iff]

theorem repeats_eq_nil_iff : d.repeats = [] ↔ d.Distinct := by
  rw [← repeats_eq, repeated_eq_nil_iff]
  exact and_iff_right fun _ _ => List.not_mem_nil

theorem faults_eq_nil_iff : d.faults = [] ↔ d.Starts ∧ d.Distinct ∧ d.Connected := by
  unfold Definition.faults
  rw [List.append_eq_nil_iff, List.append_eq_nil_iff, and_assoc]
  refine and_congr ?_ (and_congr ?_ ?_)
  · by_cases starts : d.Starts <;> simp [starts]
  · rw [List.map_eq_nil_iff, repeats_eq_nil_iff]
  · rw [List.flatMap_eq_nil_iff]
    exact forall₂_congr fun e _ => looseEnds_eq_nil_iff

/-- Every edge of a valid definition leads from a declared id to a declared id. -/
theorem declares_ends_of_isValid (valid : d.isValid = true) {e : Edge} (he : e ∈ d.edges) :
    d.Declares e.source ∧ d.Declares e.target := by
  obtain ⟨-, -, connected⟩ := faults_eq_nil_iff.mp (isValid_iff_faults.mp valid)
  exact connected e he

/-- **A definition is valid exactly when it has a start node, its nodes have ids of their own, and every edge connects
nodes**; and the errors found in any definition are exactly its faults: that the start node is missing, each node whose
id an earlier one has, and each end of an edge that is no node's id, in order. -/
theorem isValid_iff_faultless (d : Definition) :
    (d.isValid = true ↔ d.Starts ∧ d.Distinct ∧ d.Connected) ∧ d.findings.filter Finding.isError = d.faults := by
  refine ⟨?_, filter_isError_eq_faults d⟩
  rw [isValid_iff_faults]
  exact faults_eq_nil_iff

/-- Everything is wrong: three nodes go by one id, none of them starts, and an edge connects nothing. -/
example : (Definition.bare [.bare "a" "end", .bare "a" "end", .bare "a" "end"] [.bare "e" "b" "c"]).findings.filter
    Finding.isError = [.missingStart, .duplicateNode "a", .duplicateNode "a", .undeclaredSource "e" "b",
      .undeclaredTarget "e" "c"] := by rfl

end Inspection

end Colloquy
