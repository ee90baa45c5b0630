import Colloquy.Inspection

/-!
# The parts of an inspection

An inspection is made of six checks, and every finding tells by its form which of them it comes from (`Finding.check`). So
a finding is made by the inspection exactly when its own check makes it (`mem_findings_iff_mem_part`).
-/

namespace Colloquy

/-- The checks that an inspection is made of. -/
inductive Check where
  | ids
  | fields
  | edges
  | ways
  | orphans
  | loops
  deriving DecidableEq

/-- The check that makes a finding. -/
def Finding.check : Finding → Check
  | missingStart | multipleStarts .. | duplicateNode _ => .ids
  | unknownType .. | passthrough .. | missingField .. | badUrl _ => .fields
  | duplicateEdge _ | undeclaredSource .. | undeclaredTarget .. => .edges
  | deadEnd _ | missingBranch .. => .ways
  | orphan _ => .orphans
  | loop .. => .loops

namespace Inspection

/-- What a check finds in a definition. -/
def part (d : Definition) : Check → List Finding
  | .ids => nodeIds d
  | .fields => d.nodes.flatMap nodeFields
  | .edges => edgeFindings d
  | .ways => d.nodes.flatMap (wayOn d)
  | .orphans => orphans d
  | .loops => loops d

variable {d : Definition} {f : Finding}

theorem check_of_mem_nodeIds (h : f ∈ nodeIds d) : f.check = .ids := by
  unfold nodeIds at h
  dsimp only at h
  rcases List.mem_append.mp h with h | h
  · split at h
    · cases List.mem_singleton.mp h
      rfl
    · cases h
    · cases List.mem_singleton.mp h
      rfl
  · obtain ⟨n, -, rfl⟩ := List.mem_map.mp h
    rfl

theorem check_of_mem_nodeFields {n : Node} (h : f ∈ nodeFields n) : f.check = .fields := by
  unfold nodeFields at h
  split at h
  · cases List.mem_singleton.mp h
    rfl
  · rcases List.mem_append.mp h with h | h
    · rcases List.mem_append.mp h with h | h
      · split at h
        · cases List.mem_singleton.mp h
          rfl
        · cases h
      · obtain ⟨field, -, rfl⟩ := List.mem_map.mp h
        rfl
    · split at h
      · cases List.mem_singleton.mp h
        rfl
      · cases h

theorem check_of_mem_edgeEnds {e : Edge} (h : f ∈ edgeEnds d e) : f.check = .edges := by
  unfold edgeEnds at h
  rcases List.mem_append.mp h with h | h
  · split at h
    · cases h
    · cases List.mem_singleton.mp h
      rfl
  · split at h
    · cases h
    · cases List.mem_singleton.mp h
      rfl

theorem check_of_mem_edgesFrom {seen : List Text} {edges : List Edge} (h : f ∈ edgesFrom d seen edges) :
    f.check = .edges := by
  induction edges generalizing seen with
  | nil => cases h
  | cons e edges ih =>
    unfold edgesFrom at h
    rcases List.mem_append.mp h with h | h
    · rcases List.mem_append.mp h with h | h
      · split at h
        · cases List.mem_singleton.mp h
          rfl
        · cases h
      · exact check_of_mem_edgeEnds h
    · exact ih h

theorem check_of_mem_wayOn {n : Node} (h : f ∈ wayOn d n) : f.check = .ways := by
  unfold wayOn at h
  split at h
  · cases h
  · dsimp only at h
    split at h
    · cases List.mem_singleton.mp h
      rfl
    · split at h
      · cases h
      · cases List.mem_singleton.mp h
        rfl

theorem check_of_mem_orphans (h : f ∈ orphans d) : f.check = .orphans := by
  unfold orphans at h
  split at h
  · cases h
  · obtain ⟨n, -, rfl⟩ := List.mem_map.mp h
    rfl

theorem check_of_mem_loops (h : f ∈ loops d) : f.check = .loops := by
  unfold loops at h
  obtain ⟨cycle, -, he⟩ := List.mem_filterMap.mp h
  cases cycle with
  | nil => cases he
  | cons first rest =>
    cases he
    rfl

/-- What a check finds tells that it comes from it. -/
theorem check_of_mem_part {c : Check} (h : f ∈ part d c) : f.check = c := by
  cases c with
  | ids => exact check_of_mem_nodeIds h
  | fields =>
    obtain ⟨n, -, hn⟩ := List.mem_flatMap.mp h
    exact check_of_mem_nodeFields hn
  | edges => exact check_of_mem_edgesFrom h
  | ways =>
    obtain ⟨n, -, hn⟩ := List.mem_flatMap.mp h
    exact check_of_mem_wayOn hn
  | orphans => exact check_of_mem_orphans h
  | loops => exact check_of_mem_loops h

theorem mem_findings_iff_exists : f ∈ d.findings ↔ ∃ c, f ∈ part d c := by
  unfold Definition.findings
  simp only [List.mem_append]
  constructor
  · rintro (((((h | h) | h) | h) | h) | h)
    · exact ⟨.ids, h⟩
    · exact ⟨.fields, h⟩
    · exact ⟨.edges, h⟩
    · exact ⟨.ways, h⟩
    · exact ⟨.orphans, h⟩
    · exact ⟨.loops, h⟩
  · rintro ⟨c, h⟩
    cases c with
    | ids => exact .inl (.inl (.inl (.inl (.inl h))))
    | fields => exact .inl (.inl (.inl (.inl (.inr h))))
    | edges => exact .inl (.inl (.inl (.inr h)))
    | ways => exact .inl (.inl (.inr h))
    | orphans => exact .inl (.inr h)
    | loops => exact .inr h

/-- What a check finds is what is found and tells that it comes from it, in the same order. -/
theorem filter_check_findings (c : Check) : (d.findings.filter fun f => f.check = c) = part d c := by
  have own (c' : Check) : ((part d c').filter fun f => f.check = c) = if c' = c then part d c else [] := by
    split
    next h =>
      subst h
      exact List.filter_eq_self.mpr fun f hf => by simpa using check_of_mem_part hf
    next h =>
      refine List.filter_eq_nil_iff.mpr fun f hf => ?_
      simpa [check_of_mem_part hf] using h
  have parts : d.findings = part d .ids ++ part d .fields ++ part d .edges ++ part d .ways ++ part d .orphans
      ++ part d .loops := rfl
  rw [parts]
  simp only [List.filter_append, own]
  cases c <;> simp

/-- **A finding is made exactly when its own check makes it.** -/
theorem mem_findings_iff_mem_part : f ∈ d.findings ↔ f ∈ part d f.check := by
  rw [mem_findings_iff_exists]
  constructor
  · rintro ⟨c, h⟩
    rw [check_of_mem_part h]
    exact h
  · intro h
    exact ⟨_, h⟩

end Inspection

end Colloquy
