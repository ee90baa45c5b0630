import Colloquy.Value.Key

/-!
# Conversation context

The state of one end user's conversation: the flow's variables in the order in which they were first set, the history
with a line per message, the node the conversation is at, and the node that waits for input. The three last go by
reserved names beside the variables, so no variable can be set under such a name. A name is a text as a rule; variables
that came back under other keys stay under them. The ids are dynamic values because a
persisted context may come back with anything in their place; null means none.
-/

namespace Colloquy

structure Context where
  vars : Entries Key Value
  history : List Text
  currentNode : Value
  waiting : Value

/-- A look-up or a change that a context refuses. -/
inductive Refusal where
  /-- The name is kept for the engine's bookkeeping. -/
  | reserved (name : Key)
  /-- Nothing goes by the name. -/
  | unknown (name : Key)

def Refusal.message : Refusal → Text
  | reserved name => "'" ++ name.plain ++ "' is reserved for interpreter bookkeeping"
  | unknown name => name.quoted

namespace Context

def historyKey : Text := "conversationHistory"

def currentNodeKey : Text := "currentNodeId"

def waitingKey : Text := "waitingForInput"

/-- The names of the bookkeeping fields. -/
def reservedKeys : List Text := [historyKey, currentNodeKey, waitingKey]

def empty : Context := ⟨[], [], .null, .null⟩

/-! ## Look-up -/

/-- The history as a value. -/
def historyValue (c : Context) : Value := .list (c.history.map .str)

/-- What goes by a name, bookkeeping included: a variable may hold null, an unset id counts as missing. -/
def lookup (c : Context) (name : Key) : Option Value :=
  if name == historyKey then some c.historyValue
  else if name == currentNodeKey then c.currentNode.nonNull?
  else if name == waitingKey then c.waiting.nonNull?
  else c.vars.get? name

/-- The value by a name, or the given one when there is none. -/
def getD (c : Context) (name : Key) (default : Value) : Value := (c.lookup name).getD default

/-- The value by a name unless it is null. -/
def get? (c : Context) (name : Key) : Option Value := (c.lookup name).bind Value.nonNull?

/-- Whether a name stands for something other than null. -/
def has (c : Context) (name : Key) : Bool := (c.get? name).isSome

/-- The value by a name that must stand for something. -/
def fetch (c : Context) (name : Key) : Except Refusal Value :=
  match c.get? name with
  | some v => .ok v
  | none => .error (.unknown name)

/-- The value of a variable, or the given one when it is not set. -/
def variableD (c : Context) (name : Key) (default : Value) : Value := (c.vars.get? name).getD default

/-! ## Changes -/

/-- Sets a variable; reserved names are refused. -/
def setVariable (c : Context) (name : Key) (v : Value) : Except Refusal Context :=
  if reservedKeys.any (name == ·) then .error (.reserved name)
  else .ok { c with vars := c.vars.set name v }

/-- A fresh context with variables, none of which may have a reserved name. -/
def create (initial : Entries Text Value) : Except Refusal Context :=
  initial.foldlM (fun c e => c.setVariable e.1 e.2) empty

def userLine (text : Text) : Text := "User: " ++ text

def agentLine (text : Text) : Text := "Agent: " ++ text

def addUserMessage (c : Context) (text : Text) : Context := { c with history := c.history ++ [userLine text] }

def addAgentMessage (c : Context) (text : Text) : Context := { c with history := c.history ++ [agentLine text] }

/-- Marks the conversation as waiting at a node. -/
def setWaiting (c : Context) (id : Value) : Context := { c with waiting := id }

def clearWaiting (c : Context) : Context := { c with waiting := .null }

/-- Drops the node the conversation is at. -/
def leaveNode (c : Context) : Context := { c with currentNode := .null }

/-- Drops both ids, once a flow has finished or failed. -/
def clearPosition (c : Context) : Context := { c with currentNode := .null, waiting := .null }

/-- A summary in one line. -/
def summary (c : Context) : Text :=
  "FlowContext(node=" ++ c.currentNode.plain ++ ", waiting=" ++ c.waiting.plain ++ ", variables="
    ++ Text.ofNat c.vars.length ++ ", history=" ++ Text.ofNat c.history.length ++ ")"

end Context

end Colloquy
