import Colloquy.Flow.Edge

/-!
# Choosing an edge

Which edge a turn follows from a node. Edges are grouped by the node that they leave; only the group of the node matters,
in declared order (`outgoing_eq_filter`), and every rule takes the first that fits. `resolve` prefers an edge of a given
type, then a default edge, then any; it finds none exactly when no edge leaves the node (`resolve_eq_none_iff`).
-/

namespace Colloquy.Routing

/-- Edges by the node that they leave. -/
abbrev Groups := Entries Text (List Edge)

namespace Groups

/-- The edges of a node's group; a node without a group has none. -/
def leaving (groups : Groups) (source : Text) : List Edge := (groups.get? source).getD []

/-- A further edge, the last of its group. -/
def add (groups : Groups) (e : Edge) : Groups := groups.set e.source (groups.leaving e.source ++ [e])

def ofEdges (edges : List Edge) : Groups := edges.foldl add []

theorem leaving_add (groups : Groups) (e : Edge) (source : Text) :
    (groups.add e).leaving source =
      if e.source == source then groups.leaving source ++ [e] else groups.leaving source := by
  unfold leaving add
  rw [Entries.get?_set]
  split
  next same =>
    rw [← eq_of_beq same]
    rfl
  next => rfl

/-- Grouping keeps the declared order, however the edges of several nodes are mixed. -/
theorem leaving_foldl_add (edges : List Edge) (source : Text) (groups : Groups) :
    leaving (edges.foldl add groups) source = groups.leaving source ++ edges.filter fun e => e.source == source := by
  induction edges generalizing groups with
  | nil => exact (List.append_nil _).symm
  | cons e edges ih =>
    rw [List.foldl_cons, ih, leaving_add, List.filter_cons]
    split
    next => rw [List.append_assoc, List.singleton_append]
    next => rfl

end Groups

variable (edges : List Edge) (source : Text)

/-- The edges that leave a node, in declared order. -/
def outgoing : List Edge := (Groups.ofEdges edges).leaving source

theorem outgoing_eq_filter : outgoing edges source = edges.filter fun e => e.source == source :=
  Groups.leaving_foldl_add edges source []

/-- The first edge typed for an outcome; the outcome is given by name. -/
def findByType (type : Text) : Option Edge :=
  (outgoing edges source).find? fun e => e.edgeType.any fun t => t.name == type

/-- The first default edge. -/
def findDefault : Option Edge := (outgoing edges source).find? Edge.isDefault

/-- The first edge whose condition equals a label, whatever their case and surrounding blanks. -/
def findByCondition (label : Text) : Option Edge :=
  let wanted := Text.fold label
  if wanted.isEmpty then none
  else (outgoing edges source).find? fun e => e.hasCondition && e.foldedCondition == wanted

/-- The conditions that are not blank, trimmed, in declared order. -/
def conditionLabels : List Text :=
  ((outgoing edges source).filter Edge.hasCondition).map fun e => Text.trim (e.condition.getD "")

/-- The edge to follow: of the preferred type if one is given and there, else a default edge, else the first. -/
def resolve (preferred : Option Text) : Option Edge :=
  (preferred.bind fun type => if type.isEmpty then none else findByType edges source type)
    |>.or (findDefault edges source)
    |>.or (outgoing edges source).head?

theorem resolve_eq_none_iff (preferred : Option Text) :
    resolve edges source preferred = none ↔ outgoing edges source = [] := by
  constructor
  · intro h
    simp only [resolve, Option.or_eq_none_iff, List.head?_eq_none_iff] at h
    exact h.2
  · intro h
    cases preferred <;> simp [resolve, findByType, findDefault, h]

end Colloquy.Routing
