import Colloquy.Context.Flat
import Colloquy.Turn.Step

/-!
# The walk of a turn

A turn walks from node to node until it waits, finishes, halts, fails, or has used up its steps. The walk keeps what it
gathers on the way: messages, log lines, and a visit for every node whose work was begun.
-/

namespace Colloquy

/-- A node that a walk came to, and where it went from there; no move when the node failed. -/
structure Visit where
  node : Node
  move : Option Move

/-- How a walk ends. -/
inductive Ending where
  | waiting (id : Text)
  | finished
  | halted
  /-- The followed edge leads to the empty id, which is no node. -/
  | idle
  | noStart
  | outOfSteps
  /-- No node has the id. -/
  | unknownNode (id : Value)
  /-- A value of this kind stands where an id should. -/
  | unusableId (kind : Text)
  | failed (f : Fault)

/-- The error that an ending reports. -/
def Ending.error? : Ending → Option Text
  | waiting _ | finished | halted | idle => none
  | noStart => some "No start node found or specified."
  | outOfSteps => some "Flow execution exceeded maximum steps."
  | unknownNode id => some ("Node with ID " ++ id.plain ++ " not found.")
  | unusableId kind => some ("unhashable type: '" ++ kind ++ "'")
  | failed f => some (if f.message.isEmpty then "An unexpected error occurred during flow execution." else f.message)

/-- What a walk has gathered. -/
structure Walk where
  scene : Scene
  messages : List Text
  log : List Text
  visits : List Visit

namespace Walk

/-- The scene with the conversation moved to a node. -/
def arrive (w : Walk) (n : Node) : Scene :=
  w.scene.withContext { w.scene.context with currentNode := .str n.id }

/-- Adds an emitted message to the messages and to the history. -/
def emit (w : Walk) (message : Text) : Walk :=
  { w with
    messages := w.messages ++ [message]
    scene := w.scene.withContext (w.scene.context.addAgentMessage message) }

def note (w : Walk) (line : Text) : Walk := { w with log := w.log ++ [line] }

/-- A log line about a node. -/
def noteAt (w : Walk) (n : Node) (line : Text) : Walk := w.note ("[" ++ n.id ++ "] " ++ line)

def visit (w : Walk) (n : Node) (move : Option Move) : Walk := { w with visits := w.visits ++ [⟨n, move⟩] }

/-- The walk after a node has done a step. -/
def record (w : Walk) (n : Node) (scene : Scene) (step : Step) : Walk :=
  let w := { w with scene }.visit n (some step.move)
  let w := match step.note with
    | some line => w.noteAt n line
    | none => w
  step.messages.foldl emit w

/-- The walk after a node without a way on: the conversation is at no node. -/
def halt (w : Walk) (n : Node) : Walk :=
  let w := w.noteAt n "No outgoing edge to follow; flow halted"
  { w with scene := w.scene.withContext w.scene.context.leaveNode }

/-- The walk that had no steps left before a node. -/
def exhaust (w : Walk) (maxSteps : Int) (id : Text) : Walk :=
  w.note ("Step budget of " ++ Text.ofInt maxSteps ++ " exhausted before node '" ++ id ++ "'")

end Walk

/-- Walks on from an id with so many steps left. -/
def walk (d : Definition) (input : TurnInput) : Nat → Text → Walk → Ending × Walk
  | left, id, w =>
    if id.isEmpty then (.idle, w)
    else
      match left with
      | 0 => (.outOfSteps, w.exhaust input.settings.maxSteps id)
      | left + 1 =>
        match d.node? id with
        | none => (.unknownNode (.str id), w)
        | some n =>
          match n.run input (w.arrive n) with
          | ⟨.error f, scene⟩ => (.failed f, { w with scene }.visit n none)
          | ⟨.ok step, scene⟩ =>
            let w := w.record n scene step
            match step.move with
            | .await => (.waiting n.id, w)
            | .finish => (.finished, w)
            | .halt => (.halted, w.halt n)
            | .follow e => walk d input left e.target w

/-- Walks from where a turn enters the flow; a persisted id need not be a text. -/
def walkFrom (d : Definition) (input : TurnInput) (entry : Value) (w : Walk) : Ending × Walk :=
  match entry with
  | .str id => walk d input input.settings.maxSteps.toNat id w
  | v =>
    if input.settings.maxSteps ≤ 0 then (.outOfSteps, w.exhaust input.settings.maxSteps v.plain)
    else if v.key?.isSome then (.unknownNode v, w)
    else (.unusableId v.kindName, w)

end Colloquy
