import Colloquy.Inspection.Structure

/-!
# Reachability

Which nodes a flow can come to from its start node, along declared edges that leave declared nodes.
-/

namespace Colloquy.Inspection

/-- The ids that edges lead to from a declared node. -/
def successors (d : Definition) (id : Text) : List Text :=
  if declares d id then (Routing.outgoing d.edges id).map Edge.target else []

/-- Takes ids from a queue: an id that is new is entered and its successors are queued. Every entered id queues each
of its edges once, so one step more than there are edges is enough. -/
def reachFrom (d : Definition) : Nat → List Text → List Text → List Text
  | 0, _, reached => reached
  | _ + 1, [], reached => reached
  | fuel + 1, id :: queue, reached =>
    if id ∈ reached then reachFrom d fuel queue reached
    else reachFrom d fuel (queue ++ (successors d id).filter fun next => next ∉ id :: reached) (id :: reached)

/-- The ids that can be reached from an id, itself included. -/
def reachable (d : Definition) (id : Text) : List Text := reachFrom d (d.edges.length + 1) [id] []

/-- Nodes that cannot be reached from the start node. -/
def orphans (d : Definition) : List Finding :=
  match d.start? with
  | none => []
  | some start =>
    let reached := reachable d start.id
    (d.nodes.filter fun n => n.id ∉ reached).map fun n => .orphan n.id

end Colloquy.Inspection
