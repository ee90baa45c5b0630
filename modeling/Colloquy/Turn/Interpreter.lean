import Colloquy.Inspection
import Colloquy.Turn.Result
import Colloquy.Turn.Walk

/-!
# The interpreter

An interpreter holds a definition, settings, and what was found in the definition when it was loaded; it is the same
for all conversations. The one thing it remembers is whether it has reported the errors found, which it does in the
log of the first turn. A turn is refused, and nothing has changed, when its context or its knowledge items cannot be
read; every other turn gives a result.
-/

namespace Colloquy

structure Interpreter where
  definition : Definition
  settings : Settings
  findings : List Finding
  reported : Bool

/-- An interpreter for a definition, which is inspected if the settings say so. -/
def Interpreter.make (d : Definition) (s : Settings) : Interpreter :=
  ⟨d, s, if s.validateOnLoad then d.findings else [], false⟩

/-- A definition that an interpreter is made for. -/
inductive GivenDefinition where
  | loaded (d : Definition)
  | raw (v : Value)

/-- Why no interpreter can be made for a definition. -/
inductive DefinitionFault where
  /-- A value of this kind stands where an object should. -/
  | notObject (kind : Text)
  | invalid (issues : List Schema.Issue)
  deriving Repr, DecidableEq

def DefinitionFault.message : DefinitionFault → Text
  | notObject kind => "'" ++ kind ++ "' object has no attribute 'edges'"
  | invalid issues => Schema.report issues

def GivenDefinition.read : GivenDefinition → Except DefinitionFault Definition
  | loaded d => .ok d
  | raw (.object es) => (Definition.read (.object es)).toExcept.mapError .invalid
  | raw v => .error (.notObject v.kindName)

def Interpreter.isValid (it : Interpreter) : Bool := Finding.acceptable it.findings

/-- The context that a turn is given. -/
inductive GivenContext where
  | fresh
  | loaded (c : Context)
  /-- A persisted flat mapping. -/
  | flat (v : Value)

def GivenContext.read : GivenContext → Except LoadError Context
  | fresh => .ok .empty
  | loaded c => .ok c
  | flat v => Context.ofFlat v

/-- A knowledge item that a turn is given. -/
inductive GivenItem where
  | loaded (item : KnowledgeItem)
  | raw (v : Value)

def GivenItem.read : GivenItem → Except (List Schema.Issue) KnowledgeItem
  | loaded item => .ok item
  | raw v => (KnowledgeItem.read v).toExcept

/-- The arguments of a turn. -/
structure TurnCall where
  context : GivenContext
  message : Option Text
  startNode : Option Text
  knowledge : List GivenItem
  persona : Option Text

/-- Why a turn is refused. -/
inductive TurnRefusal where
  | context (e : LoadError)
  | knowledge (issues : List Schema.Issue)

/-- A turn that was taken. -/
structure Turn where
  result : TurnResult
  interpreter : Interpreter
  world : World
  visits : List Visit
  ending : Ending

namespace Interpreter

variable (it : Interpreter)

/-- The log lines with which the next turn starts. -/
def openingLog : List Text :=
  if it.reported then []
  else (it.findings.filter Finding.isError).map fun f => "Flow validation: " ++ f.text

/-- Where a turn enters the flow: the given node, else the node that waits, else the start node. -/
def entry (c : Context) (startNode : Option Text) : Option Value :=
  match nonEmpty? startNode with
  | some id => some (.str id)
  | none =>
    if c.waiting.isFalsy then it.definition.start?.bind fun n => (nonEmpty? (some n.id)).map .str
    else some c.waiting

/-- The result of a walk. A failed or finished flow is at no node any more. -/
def settle (ending : Ending) (w : Walk) : TurnResult :=
  let result (c : Context) (next : Option Text) (finished : Bool) (status : Status) : TurnResult :=
    ⟨c, w.messages, w.log, next, ending.error?, finished, status⟩
  let c := w.scene.context
  match ending with
  | .waiting id => result c (some id) false .waiting
  | .finished => result c.clearPosition none true .finished
  | .halted => result c none false .halted
  | .idle => result c none false .idle
  | .noStart | .outOfSteps | .unknownNode _ | .unusableId _ | .failed _ => result c.clearPosition none false .error

/-- What a turn works with. -/
def input (items : List KnowledgeItem) (call : TurnCall) : TurnInput :=
  ⟨it.settings, it.definition.edges, call.message, items, call.persona⟩

/-- The walk before its first node. -/
def opening (c : Context) (w : World) : Walk := ⟨⟨c, false, w⟩, [], it.openingLog, []⟩

/-- The walk of a turn on a context with knowledge items, both read already, and how it ends. -/
def outcome (c : Context) (items : List KnowledgeItem) (call : TurnCall) (w : World) : Ending × Walk :=
  match it.entry c call.startNode with
  | some entry => walkFrom it.definition (it.input items call) entry (it.opening c w)
  | none => (.noStart, it.opening c w)

/-- The turn on a context with knowledge items, both read already. -/
def take (c : Context) (items : List KnowledgeItem) (call : TurnCall) (w : World) : Turn :=
  let (ending, done) := it.outcome c items call w
  ⟨settle ending done, { it with reported := true }, done.scene.world, done.visits, ending⟩

/-- Executes a turn. -/
def executeTurn (call : TurnCall) (w : World) : Except TurnRefusal Turn :=
  match call.context.read with
  | .error e => .error (.context e)
  | .ok c =>
    match call.knowledge.mapM GivenItem.read with
    | .error issues => .error (.knowledge issues)
    | .ok items => .ok (it.take c items call w)

end Interpreter

/-- One turn of a definition, by an interpreter of its own. -/
def Definition.executeTurn (d : Definition) (s : Settings) (call : TurnCall) (w : World) : Except TurnRefusal Turn :=
  (Interpreter.make d s).executeTurn call w

end Colloquy
