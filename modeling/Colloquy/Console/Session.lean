import Colloquy.Console.CommandLine
import Colloquy.Console.Files
import Colloquy.Conversation

/-!
# Console sessions

A session prints every turn of a conversation and reads a line whenever the flow waits. It is a machine that is fed one
line at a time, so that the same definitions run against a terminal and against a list of lines.
-/

namespace Colloquy.Console

/-- A turn as it is printed. -/
def printed (debug : Bool) (r : TurnResult) : Text :=
  let lines (start : Text) (texts : List Text) : Text := texts.flatMap fun t => start ++ t ++ "\n"
  lines "Agent: " r.messages ++ (if debug then lines "  [debug] " r.debugLog else [])
    ++ lines "  [error] " r.error.toList

/-- What is printed when no line is read any more. -/
def farewell (r : TurnResult) : Text :=
  if r.finished then "-- conversation finished --\n"
  else if r.isHalted then "-- flow halted: no edge to follow --\n"
  else ""

/-- The exit code after a last turn. -/
def exitCode (r : TurnResult) : Nat := if r.error.isSome then 1 else 0

def inputPrompt : Text := "You: "

/-- A session that reads a line next, or has ended with a code. -/
inductive State where
  | reading (c : Conversation) (w : World)
  | ended (code : Nat) (w : World) (c : Conversation)

/-- The session after a turn, and what it prints. -/
def afterTurn (debug : Bool) (c : Conversation) (w : World) : Text × State :=
  match c.last? with
  | none => ("", .ended 0 w c)
  | some r =>
    if r.isWaiting then (printed debug r ++ inputPrompt, .reading c w)
    else (printed debug r ++ farewell r, .ended (exitCode r) w c)

/-- The session after the opening turn. -/
def begin (debug : Bool) (c : Conversation) (w : World) : Except TurnRefusal (Text × State) :=
  (c.start w).map fun (c, w) => afterTurn debug c w

/-- Feeds a line, or the end of the input, to a session that reads. -/
def feed (debug : Bool) (c : Conversation) (w : World) : Option Text → Except TurnRefusal (Text × State)
  | none => .ok ("\n", .ended 0 w c)
  | some line => (c.send line w).map fun (c, w) => afterTurn debug c w

/-- Feeds lines until the session ends. -/
def feedAll (debug : Bool) : List Text → Text → State → Except TurnRefusal (Text × State)
  | _, out, .ended code w c => .ok (out, .ended code w c)
  | [], out, .reading c w => (feed debug c w none).map fun (more, state) => (out ++ more, state)
  | line :: rest, out, .reading c w => do
    let (more, state) ← feed debug c w (some line)
    feedAll debug rest (out ++ more) state

/-- A whole session on a list of lines. -/
def run (debug : Bool) (c : Conversation) (lines : List Text) (w : World) : Except TurnRefusal (Text × State) := do
  let (out, state) ← begin debug c w
  feedAll debug lines out state

/-! ## Files -/

/-- Why a session cannot begin. -/
inductive StartFailure where
  | unopened (e : OpenFailure)
  | json (e : Json.ReadError)
  | invalid (issues : List Schema.Issue)
  /-- The knowledge file holds a value of this kind, which has no items. -/
  | notIterable (kind : Text)

/-- The flow in the text of a file. -/
def readFlow (text : Text) : Except StartFailure Definition := do
  let v ← (Json.read .standard text).mapError .json
  (Definition.read v).toExcept.mapError .invalid

/-- The knowledge items in the text of a file. -/
def readKnowledge (text : Text) : Except StartFailure (List KnowledgeItem) := do
  let v ← (Json.read .standard text).mapError .json
  let some items := v.elements? | throw (.notIterable v.kindName)
  items.mapM fun item => (KnowledgeItem.read item).toExcept.mapError .invalid

/-- The conversation of a session. -/
def conversation (d : Definition) (items : List KnowledgeItem) (persona : Option Text) : Conversation :=
  ⟨Interpreter.make d .default, items.map .loaded, persona, .empty, none, [], none⟩

/-- The conversation that a command line asks for, among some files. -/
def prepare (files : Entries Text Text) (line : CommandLine) : Except StartFailure Conversation := do
  let d ← readFlow (← (openFile files line.flow).mapError .unopened)
  let items ← match nonEmpty? line.knowledge with
    | some path => readKnowledge (← (openFile files path).mapError .unopened)
    | none => .ok []
  return conversation d items line.persona

end Colloquy.Console
