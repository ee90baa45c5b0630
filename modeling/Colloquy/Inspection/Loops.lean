import Colloquy.Inspection.Reach

/-!
# Loops without input

Cycles that never wait for the user can only end at the step budget. A depth-first search enters every declared id once;
an edge back to an id on the path from the root closes a cycle. Cycles with the same ids are reported once.
-/

namespace Colloquy.Inspection

/-- The state of the search: the ids entered so far, the last one first, and the cycles found, in order. -/
structure Search where
  entered : List Text
  cycles : List (List Text)

/-- Whether two lists have the same elements. -/
def sameIds (xs ys : List Text) : Bool := xs.all (· ∈ ys) && ys.all (· ∈ xs)

/-- Whether the last node declared with an id asks the user. -/
def asksUser (d : Definition) (id : Text) : Bool :=
  (d.nodes.reverse.find? fun n => n.id == id).any fun n => n.kind? == some .getUserInput

/-- Notes a cycle that never waits for input, unless one with the same ids is noted already. -/
def Search.note (d : Definition) (s : Search) (cycle : List Text) : Search :=
  if cycle.any (asksUser d) || s.cycles.any (sameIds cycle) then s
  else { s with cycles := s.cycles ++ [cycle] }

/-- Enters an id and follows its edges; `path` holds the ids from there back to the root. Fuel counts the ids that are
still to be entered. Paths of any length are followed, where a program with a bounded stack gives up on one of about a
thousand ids. -/
def explore (d : Definition) : Nat → List Text → Text → Search → Search
  | 0, _, _, s => s
  | fuel + 1, path, id, s =>
    let path := id :: path
    (successors d id).foldl (fun s next =>
      if !declares d next then s
      else if next ∈ path then s.note d (next :: (path.takeWhile (· ≠ next)).reverse)
      else if next ∈ s.entered then s
      else explore d fuel path next s) { s with entered := id :: s.entered }

/-- Explores from every declared id that is not entered yet. -/
def searchLoops (d : Definition) : Search :=
  d.nodes.foldl (fun s n => if n.id ∈ s.entered then s else explore d d.nodes.length [] n.id s) ⟨[], []⟩

/-- Loops that never wait for input, each with the id at which it closes first. -/
def loops (d : Definition) : List Finding :=
  (searchLoops d).cycles.filterMap fun
    | [] => none
    | first :: rest => some (.loop first rest)

end Colloquy.Inspection
