import Colloquy.Turn.Interpreter

/-!
# Conversations

A conversation keeps a context and the node to resume at from turn to turn, so that an author can try a flow: the
opening turn has no message, every further turn delivers one. `simulate` delivers messages as long as the flow waits
for them.
-/

namespace Colloquy

structure Conversation where
  interpreter : Interpreter
  knowledge : List GivenItem
  persona : Option Text
  context : Context
  next : Option Text
  /-- The results of all turns, in order, each with the context as the turn left it. Results share the context with the
  conversation, so whoever looks at one later sees the context of then; what stays is its report (`reports`). -/
  turns : List TurnResult
  /-- The context handed out with the last turn, where it is no longer the conversation's own. -/
  handedOut : Option Context

namespace Conversation

/-- A conversation that has not begun; no variable may have a reserved name. -/
def make (it : Interpreter) (knowledge : List GivenItem) (persona : Option Text) (initial : Entries Text Value) :
    Except Refusal Conversation :=
  (Context.create initial).map fun c => ⟨it, knowledge, persona, c, none, [], none⟩

variable (c : Conversation)

/-- The call that the next turn makes. -/
def call (message : Option Text) : TurnCall := ⟨.loaded c.context, message, c.next, c.knowledge, c.persona⟩

/-- The conversation after a turn. -/
def afterTurn (t : Turn) : Conversation :=
  { c with
    interpreter := t.interpreter
    context := t.result.context
    next := t.result.next
    turns := c.turns ++ [t.result]
    handedOut := none }

/-- Takes a turn; a refused one leaves the conversation as it is. -/
def turn (message : Option Text) (w : World) : Except TurnRefusal (Conversation × World) :=
  (c.interpreter.executeTurn (c.call message) w).map fun t => (c.afterTurn t, t.world)

/-- The opening turn. -/
def start (w : World) : Except TurnRefusal (Conversation × World) := c.turn none w

/-- Delivers a message. -/
def send (message : Text) (w : World) : Except TurnRefusal (Conversation × World) := c.turn (some message) w

/-- Sets a variable between turns. -/
def setVariable (name : Key) (v : Value) : Except Refusal Conversation :=
  (c.context.setVariable name v).map fun ctx => { c with context := ctx }

/-- Puts the context away as JSON text and takes it up again. -/
def persist : Except LoadError Conversation :=
  (Context.ofJson c.context.toJson).map fun ctx =>
    { c with context := ctx, handedOut := some (c.handedOut.getD c.context) }

/-! ## What has been said -/

def last? : Option TurnResult := c.turns.getLast?

def isFinished : Bool := c.last?.any TurnResult.finished

def isWaiting : Bool := c.last?.any TurnResult.isWaiting

/-- What the turns told, in order. -/
def reports : List (Entries Text Value) := c.turns.map TurnResult.report

/-- The messages of all turns. -/
def messages : List Text := c.turns.flatMap TurnResult.messages

/-- The context handed out with the last turn, as it stands. -/
def lastContext? : Option Context := c.last?.map fun _ => c.handedOut.getD c.context

/-! ## Simulation -/

/-- Delivers messages as long as the flow waits for one. -/
def deliver : List Text → Conversation → World → Except TurnRefusal (Conversation × World)
  | [], c, w => .ok (c, w)
  | m :: ms, c, w =>
    if c.isWaiting then do
      let (c, w) ← c.send m w
      deliver ms c w
    else .ok (c, w)

/-- The opening turn, and a turn for each message that the flow waits for. -/
def simulate (messages : List Text) (w : World) : Except TurnRefusal (Conversation × World) := do
  let (c, w) ← c.start w
  deliver messages c w

end Conversation

end Colloquy
