import Colloquy.Proofs.Turn.Route

/-!
# What the nodes of a turn find

A turn tells which nodes it visited, and not what each of them found. That follows from the nodes alone: when they are
passed one after another from where the turn began, each finds the scene that the one before it left (`Walk.encounters`).
What they do there is what they did in the turn (`Interpreter.visits_take`, `Interpreter.retraced_outcome`), and each goes
on to the next along the edge that it follows (`Interpreter.next_encounter`).
-/

namespace Colloquy

/-- A node at work: what it works with, and the scene that it finds. -/
structure Encounter where
  node : Node
  input : TurnInput
  scene : Scene

namespace Encounter

/-- What the node does. -/
def act (e : Encounter) : Act := e.node.run e.input e.scene

/-- The visit that a walk records of it. -/
def visit (e : Encounter) : Visit := ⟨e.node, e.act.result.toOption.map Step.move⟩

end Encounter

/-! ## Passing nodes -/

namespace Walk

/-- The walk once a node has done its work there, or has failed. -/
def pass (input : TurnInput) (w : Walk) (n : Node) : Walk :=
  match n.run input (w.arrive n) with
  | ⟨.ok step, s⟩ => w.record n s step
  | ⟨.error _, s⟩ => { w with scene := s }.visit n none

/-- What nodes find that a walk passes one after another. -/
def encounters (input : TurnInput) : Walk → List Node → List Encounter
  | _, [] => []
  | w, n :: rest => ⟨n, input, w.arrive n⟩ :: encounters input (w.pass input n) rest

variable {input : TurnInput} {n : Node} {s : Scene} {w : Walk}

theorem pass_of_ok {step : Step} (hr : n.run input (w.arrive n) = ⟨.ok step, s⟩) :
    w.pass input n = w.record n s step := by
  unfold pass
  rw [hr]

theorem pass_of_error {f : Fault} (hr : n.run input (w.arrive n) = ⟨.error f, s⟩) :
    w.pass input n = ({ w with scene := s } : Walk).visit n none := by
  unfold pass
  rw [hr]

/-- Walks abreast stay so when both pass a node. -/
theorem Abreast.pass {input' : TurnInput} {R : Walk → Walk → Prop} (k : Abreast input input' R) (n : Node) {w' : Walk}
    (h : R w w') : R (w.pass input n) (w'.pass input' n) := by
  obtain ⟨result, s, s', hr, hr', recorded, failed⟩ := k.acts n h
  cases result with
  | ok step =>
    rw [pass_of_ok hr, pass_of_ok hr']
    exact recorded step
  | error f =>
    rw [pass_of_error hr, pass_of_error hr']
    exact failed

theorem visits_pass (input : TurnInput) (w : Walk) (n : Node) :
    (w.pass input n).visits = w.visits ++ [Encounter.visit ⟨n, input, w.arrive n⟩] := by
  unfold Encounter.visit Encounter.act
  dsimp only
  cases hr : n.run input (w.arrive n) with
  | mk result s =>
    cases result with
    | ok step =>
      rw [pass_of_ok hr, visits_record]
      rfl
    | error f =>
      rw [pass_of_error hr]
      rfl

theorem visits_foldl_pass (input : TurnInput) (nodes : List Node) (w : Walk) :
    (nodes.foldl (pass input) w).visits = w.visits ++ (encounters input w nodes).map Encounter.visit := by
  induction nodes generalizing w with
  | nil => exact (List.append_nil _).symm
  | cons n rest ih =>
    rw [List.foldl_cons, ih, visits_pass, List.append_assoc]
    rfl

theorem input_of_mem_encounters {nodes : List Node} {e : Encounter} (he : e ∈ encounters input w nodes) :
    e.input = input := by
  induction nodes generalizing w with
  | nil => cases he
  | cons n rest ih =>
    rcases List.mem_cons.mp he with rfl | he
    · rfl
    · exact ih he

/-- A walk that is what passing its nodes makes of where it began, as far as its visits, the variables and the world
go. -/
structure Retraced (w : Walk) (input : TurnInput) (start : Walk) : Prop where
  visits : w.visits = ((w.visits.map Visit.node).foldl (pass input) start).visits
  vars : w.scene.context.vars = ((w.visits.map Visit.node).foldl (pass input) start).scene.context.vars
  world : w.scene.world = ((w.visits.map Visit.node).foldl (pass input) start).scene.world

theorem retraced_of_eq {start : Walk} (h : (w.visits.map Visit.node).foldl (pass input) start = w) :
    w.Retraced input start :=
  ⟨congrArg visits h.symm, congrArg (·.scene.context.vars) h.symm, congrArg (·.scene.world) h.symm⟩

/-- Passing one more node retraces one more step. -/
theorem retraces_pass {start : Walk} (h : (w.visits.map Visit.node).foldl (pass input) start = w) :
    ((w.pass input n).visits.map Visit.node).foldl (pass input) start = w.pass input n := by
  rw [visits_pass, List.map_append, List.foldl_append, h]
  rfl

/-- **Where a walk stands is what passing its nodes makes of where it began.** -/
theorem tracks_retraced (d : Definition) (input : TurnInput) (start : Walk) :
    Walk.Tracks d input (fun _ w => (w.visits.map Visit.node).foldl (pass input) start = w)
      (fun _ w => w.Retraced input start) where
  idle hw := retraced_of_eq hw
  outOfSteps {v w} _ hw := by
    have retraced := retraced_of_eq hw
    exact ⟨retraced.visits, retraced.vars, retraced.world⟩
  unknownNode _ _ hw := retraced_of_eq hw
  unusableId _ hw := retraced_of_eq hw
  failed _ _ hw hr := retraced_of_eq (pass_of_error hr ▸ retraces_pass hw)
  follows _ _ hw hr _ := pass_of_ok hr ▸ retraces_pass hw
  waits _ _ hw hr _ := retraced_of_eq (pass_of_ok hr ▸ retraces_pass hw)
  finishes _ _ hw hr _ := retraced_of_eq (pass_of_ok hr ▸ retraces_pass hw)
  halts _ _ hw hr _ := by
    have retraced := retraced_of_eq (pass_of_ok hr ▸ retraces_pass hw)
    exact ⟨retraced.visits, retraced.vars, retraced.world⟩

end Walk

/-! ## The encounters of a turn -/

namespace Interpreter

variable (it : Interpreter) (c : Context) (items : List KnowledgeItem) (call : TurnCall) (w : World)

/-- What the nodes that a turn visits find, in order. -/
def encounters : List Encounter :=
  Walk.encounters (it.input items call) (it.opening c w) ((it.take c items call w).visits.map Visit.node)

theorem retraced_outcome : (it.outcome c items call w).2.Retraced (it.input items call) (it.opening c w) :=
  (Walk.tracks_retraced it.definition (it.input items call) (it.opening c w)).outcome c w (fun _ _ => rfl)
    (fun _ => Walk.retraced_of_eq rfl)

/-- **The visits of a turn are those of its encounters.** -/
theorem visits_take : (it.take c items call w).visits = (it.encounters c items call w).map Encounter.visit := by
  have passed := Walk.visits_foldl_pass (it.input items call) ((it.take c items call w).visits.map Visit.node)
    (it.opening c w)
  exact (it.retraced_outcome c items call w).visits.trans passed

variable {it c items call w} {e : Encounter}

theorem node?_of_mem_encounters (he : e ∈ it.encounters c items call w) :
    it.definition.node? e.node.id = some e.node := by
  have visited : e.visit ∈ (it.take c items call w).visits := by
    rw [visits_take]
    exact List.mem_map_of_mem he
  exact (it.route_take c items call w).nodes e.visit visited

theorem input_of_mem_encounters (he : e ∈ it.encounters c items call w) : e.input = it.input items call :=
  Walk.input_of_mem_encounters he

/-- A node that has another after it goes on to that one along an edge. -/
theorem continues_of_adjacent {next : Encounter} (h : [e, next] <:+: it.encounters c items call w) :
    it.definition.Continues e.visit next.visit := by
  have visits : [e.visit, next.visit] <:+: (it.take c items call w).visits := by
    rw [visits_take]
    exact h.map Encounter.visit
  have chain := List.IsChain.infix (it.route_take c items call w).chain visits
  exact List.isChain_pair.mp chain

/-- A node goes on to the next along the edge that it follows. -/
theorem next_encounter {next : Encounter} (h : [e, next] <:+: it.encounters c items call w) {edge : Edge}
    (hm : e.visit.move = some (.follow edge)) : next.node.id = edge.target := by
  obtain ⟨edge', -, hm', -, target⟩ := continues_of_adjacent h
  cases hm.symm.trans hm'
  exact target.symm

/-- A turn that comes to no node after this one ends as the node's move says. -/
theorem after_of_last {before : List Encounter} (h : it.encounters c items call w = before ++ [e]) {move : Move}
    (hm : e.visit.move = some move) : (it.take c items call w).ending.After it.definition move := by
  refine it.after_take c items call w ?_ hm
  rw [visits_take, h, List.map_append]
  exact List.getLast?_concat ..

end Interpreter

/-- A turn with these encounters left goes on at the target: it is the id of the next node, and if there is none, the turn
breaks off. -/
def Ending.GoesOn (ending : Ending) (d : Definition) (target : Text) : List Encounter → Prop
  | next :: _ => next.node.id = target
  | [] => ending.BreaksOff d target

/-- **A turn goes on at the target of the edge that a node follows.** -/
theorem Interpreter.goesOn_of_follow {it : Interpreter} {c : Context} {items : List KnowledgeItem} {call : TurnCall}
    {w : World} {e : Encounter} {before after : List Encounter} (h : it.encounters c items call w = before ++ e :: after)
    {edge : Edge} (hm : e.visit.move = some (.follow edge)) :
    (it.take c items call w).ending.GoesOn it.definition edge.target after := by
  cases after with
  | cons next rest =>
    have adjacent : [e, next] <:+: it.encounters c items call w := h ▸ ⟨before, rest, by simp⟩
    exact next_encounter adjacent hm
  | nil => exact after_of_last h hm

end Colloquy
