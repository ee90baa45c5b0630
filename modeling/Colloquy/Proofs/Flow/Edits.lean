import Colloquy.Proofs.Flow.Bare
import Colloquy.Proofs.Flow.Rule
import Mathlib.Logic.Relation

/-!
# What edits change about routing

Edits of edges that are not a node's own change nothing about the edge that routing finds for it (`Routing.Edits`); these edits
are all that keep its edges in number and order (`Routing.edits_iff`). An edge that is appended to those of a node is found in
place of what was found before exactly if the rule has nothing as good before it (`Routing.TakesOver`).
-/

namespace Colloquy.Routing

variable {edges edges' leaving : List Edge} {source : Text} {preferred : Option Text} {e : Edge} {way : Option Edge}

/-! ## Edits of other edges -/

/-- **One edit of edges that are not the node's own**: such an edge is added anywhere, or removed, or changes places with a
neighbour. -/
inductive Edit (source : Text) : List Edge → List Edge → Prop
  | add {e : Edge} (before behind : List Edge) : e.source ≠ source → Edit source (before ++ behind) (before ++ e :: behind)
  | remove {e : Edge} (before behind : List Edge) : e.source ≠ source →
      Edit source (before ++ e :: behind) (before ++ behind)
  | move {e e' : Edge} (before behind : List Edge) : e.source ≠ source ∨ e'.source ≠ source →
      Edit source (before ++ e :: e' :: behind) (before ++ e' :: e :: behind)

/-- Any number of such edits. -/
abbrev Edits (source : Text) : List Edge → List Edge → Prop := Relation.ReflTransGen (Edit source)

theorem Edit.outgoing_eq (h : Edit source edges edges') : outgoing edges' source = outgoing edges source := by
  rw [outgoing_eq_filter, outgoing_eq_filter]
  cases h with
  | add before behind other | remove before behind other => simp [other]
  | move before behind other => rcases other with other | other <;> simp [other, List.filter_cons]

theorem Edits.outgoing_eq (h : Edits source edges edges') : outgoing edges' source = outgoing edges source := by
  induction h with
  | refl => rfl
  | tail _ last ih => exact last.outgoing_eq.trans ih

theorem Edit.symm (h : Edit source edges edges') : Edit source edges' edges := by
  cases h with
  | add before behind other => exact .remove before behind other
  | remove before behind other => exact .add before behind other
  | move before behind other => exact .move before behind other.symm

theorem Edits.symm (h : Edits source edges edges') : Edits source edges' edges := by
  induction h with
  | refl => exact .refl
  | tail _ last ih => exact ih.head last.symm

theorem Edit.cons (e : Edge) (h : Edit source edges edges') : Edit source (e :: edges) (e :: edges') := by
  cases h with
  | add before behind other => exact .add (e :: before) behind other
  | remove before behind other => exact .remove (e :: before) behind other
  | move before behind other => exact .move (e :: before) behind other

theorem outgoing_cons_of_own (own : e.source = source) :
    outgoing (e :: edges) source = e :: outgoing edges source := by
  simp [outgoing_eq_filter, own]

theorem outgoing_cons_of_other (other : e.source ≠ source) : outgoing (e :: edges) source = outgoing edges source := by
  simp [outgoing_eq_filter, other]

/-- The edges of other nodes can all be removed. -/
theorem edits_outgoing (edges : List Edge) (source : Text) : Edits source edges (outgoing edges source) := by
  induction edges with
  | nil => exact .refl
  | cons e edges ih =>
    by_cases own : e.source = source
    · rw [outgoing_cons_of_own own]
      exact ih.lift (e :: ·) fun _ _ => Edit.cons e
    · rw [outgoing_cons_of_other own]
      exact ih.head (.remove [] edges own)

/-- **The edits of other edges are all that keep a node's own** in number and order. -/
theorem edits_iff : Edits source edges edges' ↔ outgoing edges' source = outgoing edges source := by
  refine ⟨Edits.outgoing_eq, fun same => ?_⟩
  have back : Edits source (outgoing edges' source) edges' := (edits_outgoing edges' source).symm
  exact (edits_outgoing edges source).trans (same ▸ back)

/-! ## An edge at the end -/

/-- The edge has the type that is preferred. -/
def Wanted (preferred : Option Text) (e : Edge) : Prop := ∃ name, preferred = some name ∧ e.HasType name

/-- **The rule has nothing as good as an edge** among the edges before it: there is none; none is wanted, but the edge is; or
none is wanted or a default edge, but the edge is a default edge. -/
inductive TakesOver (leaving : List Edge) (preferred : Option Text) (e : Edge) : Prop
  | alone : leaving = [] → TakesOver leaving preferred e
  | wanted : Lacks leaving preferred → Wanted preferred e → TakesOver leaving preferred e
  | default : Lacks leaving preferred → (∀ earlier ∈ leaving, earlier.TypedOtherwise) → ¬e.TypedOtherwise →
      TakesOver leaving preferred e

theorem takesOver_none_iff : TakesOver leaving none e ↔
    leaving = [] ∨ (∀ earlier ∈ leaving, earlier.TypedOtherwise) ∧ ¬e.TypedOtherwise := by
  constructor
  · rintro (empty | ⟨-, name, given, -⟩ | ⟨-, otherwise, default⟩)
    · exact .inl empty
    · cases given
    · exact .inr ⟨otherwise, default⟩
  · rintro (empty | ⟨otherwise, default⟩)
    · exact .alone empty
    · exact .default nofun otherwise default

theorem Lacks.concat (h : Lacks leaving preferred) (unwanted : ¬Wanted preferred e) : Lacks (leaving ++ [e]) preferred := by
  intro name given other hm
  rcases List.mem_append.mp hm with hm | hm
  · exact h name given other hm
  · rw [List.mem_singleton.mp hm]
    exact fun typed => unwanted ⟨name, given, typed⟩

theorem forall_typedOtherwise_concat (h : ∀ earlier ∈ leaving, earlier.TypedOtherwise) (typed : e.TypedOtherwise) :
    ∀ other ∈ leaving ++ [e], other.TypedOtherwise := by
  intro other hm
  rcases List.mem_append.mp hm with hm | hm
  · exact h other hm
  · exact List.mem_singleton.mp hm ▸ typed

theorem ruled_of_wanted (lacks : Lacks leaving preferred) (h : Wanted preferred e) :
    Ruled (leaving ++ [e]) preferred (some e) := by
  obtain ⟨name, given, typed⟩ := h
  exact .preferred given (firstWith_concat typed (lacks name given))

theorem ruled_of_default (lacks : Lacks leaving preferred) (unwanted : ¬Wanted preferred e)
    (otherwise : ∀ earlier ∈ leaving, earlier.TypedOtherwise) (default : ¬e.TypedOtherwise) :
    Ruled (leaving ++ [e]) preferred (some e) :=
  .default (lacks.concat unwanted) (firstWith_concat (Edge.not_typedOtherwise_iff.mp default)
    fun earlier hm => mt Edge.not_typedOtherwise_iff.mpr (not_not_intro (otherwise earlier hm)))

theorem TakesOver.ruled (h : TakesOver leaving preferred e) : Ruled (leaving ++ [e]) preferred (some e) := by
  by_cases wanted : Wanted preferred e
  · cases h with
    | alone empty => exact ruled_of_wanted (empty ▸ fun _ _ => nofun) wanted
    | wanted lacks | default lacks => exact ruled_of_wanted lacks wanted
  · cases h with
    | alone empty =>
      subst empty
      by_cases typed : e.TypedOtherwise
      · exact .first (Lacks.concat (fun _ _ => nofun) wanted) (forall_typedOtherwise_concat nofun typed) rfl
      · exact ruled_of_default (fun _ _ => nofun) wanted nofun typed
    | wanted _ wanted' => exact absurd wanted' wanted
    | default lacks otherwise default => exact ruled_of_default lacks wanted otherwise default

/-- An edge that takes over was not found before. -/
theorem TakesOver.not_ruled (h : TakesOver leaving preferred e) : ¬Ruled leaving preferred (some e) := by
  intro before
  cases h with
  | alone empty => exact List.not_mem_nil (empty ▸ before.mem)
  | wanted lacks wanted =>
    obtain ⟨name, given, typed⟩ := wanted
    exact lacks name given e before.mem typed
  | default _ otherwise default => exact default (otherwise e before.mem)

/-- What was found is still found behind an edge that does not take over. -/
theorem Ruled.concat (h : Ruled leaving preferred way) (kept : ¬TakesOver leaving preferred e) :
    Ruled (leaving ++ [e]) preferred way := by
  cases h with
  | preferred given first => exact .preferred given (first.append [e])
  | default lacks first => exact .default (lacks.concat fun wanted => kept (.wanted lacks wanted)) (first.append [e])
  | @first found rest lacks otherwise leads =>
    have typed : e.TypedOtherwise := Classical.byContradiction fun default => kept (.default lacks otherwise default)
    exact .first (lacks.concat fun wanted => kept (.wanted lacks wanted)) (forall_typedOtherwise_concat otherwise typed)
      (congrArg (· ++ [e]) leads)
  | nothing empty => exact absurd (.alone empty) kept

/-- **An edge that is appended to those of a node changes what routing finds exactly if it takes over.** -/
theorem resolve_concat_ne_iff (own : e.source = source) :
    resolve (edges ++ [e]) source preferred ≠ resolve edges source preferred ↔
      TakesOver (outgoing edges source) preferred e := by
  have leaving : outgoing (edges ++ [e]) source = outgoing edges source ++ [e] := by
    simp [outgoing_eq_filter, own]
  constructor
  · intro changed
    refine Classical.byContradiction fun kept => changed (resolve_eq_iff.mpr ?_)
    exact leaving ▸ (ruled_resolve edges source preferred).concat kept
  · intro h same
    have found : resolve (edges ++ [e]) source preferred = some e := resolve_eq_iff.mpr (leaving ▸ h.ruled)
    exact h.not_ruled (resolve_eq_iff.mp (same.symm.trans found))

/-! ## The whole of routing -/

/-- **How routing goes by its rule.** The edges that leave a node are the declared edges of this source in their order; routing
finds what the rule says among them, and nothing exactly if there are none. Edits of other edges change nothing; and an edge
that is appended to those of the node changes the edge that routing finds without preference exactly if the node had none, or
if all that it had are typed for other outcomes than the default one and the new edge is not. -/
theorem routes_by_rule (edges : List Edge) (source : Text) :
    outgoing edges source = edges.filter (fun e => e.source == source) ∧
    (∀ preferred way, resolve edges source preferred = way ↔ Ruled (outgoing edges source) preferred way) ∧
    (∀ preferred, resolve edges source preferred = none ↔ outgoing edges source = []) ∧
    (∀ edges', Edits source edges edges' → ∀ preferred, resolve edges' source preferred = resolve edges source preferred) ∧
    ∀ e, e.source = source → (resolve (edges ++ [e]) source none ≠ resolve edges source none ↔
      outgoing edges source = [] ∨ (∀ earlier ∈ outgoing edges source, earlier.TypedOtherwise) ∧ ¬e.TypedOtherwise) := by
  refine ⟨outgoing_eq_filter edges source, fun preferred way => resolve_eq_iff, resolve_eq_none_iff edges source,
    fun edges' edits preferred => ?_, fun e own => ?_⟩
  · exact resolve_eq_iff.mpr (edits.outgoing_eq ▸ ruled_resolve edges source preferred)
  · rw [resolve_concat_ne_iff own, takesOver_none_iff]

/-- The caller's call has edges for success and for failure. Where the flow starts does not matter to it, and an untyped edge
behind them takes over. -/
theorem routes_by_rule_caller :
    let edges := Definition.caller.edges
    let added := Edge.bare "e5" "call" "sorry"
    Edits "call" edges edges.tail ∧
      (∀ preferred, resolve edges.tail "call" preferred = resolve edges "call" preferred) ∧
      added.source = "call" ∧ resolve (edges ++ [added]) "call" none ≠ resolve edges "call" none := by
  intro edges added
  obtain ⟨-, -, -, edited, appended⟩ := routes_by_rule edges "call"
  have elsewhere : Edits "call" edges edges.tail := .single (.remove [] edges.tail (by decide))
  refine ⟨elsewhere, edited _ elsewhere, rfl, (appended added rfl).mpr (.inr ⟨?_, ?_⟩)⟩
  · have leaving : (outgoing edges "call").map Edge.edgeType = [some .success, some .error] := rfl
    intro earlier hm
    have types : earlier.edgeType = some .success ∨ earlier.edgeType = some .error := by
      simpa [leaving] using List.mem_map_of_mem (f := Edge.edgeType) hm
    rcases types with type | type <;> exact ⟨_, type, by decide⟩
  · rintro ⟨type, given, -⟩
    cases given

end Colloquy.Routing
