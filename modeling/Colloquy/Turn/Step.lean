import Colloquy.Flow.Definition
import Colloquy.Flow.Knowledge
import Colloquy.Flow.Routing
import Colloquy.Service.Model
import Colloquy.Template

/-!
# What a node does

One step of a turn: the node at hand reads and changes the conversation and the outside world, and says where the turn
goes from there. A node may also fail; what it changed before it failed stays changed.
-/

namespace Colloquy

/-- What a turn works with and never changes. -/
structure TurnInput where
  settings : Settings
  edges : List Edge
  message : Option Text
  knowledge : List KnowledgeItem
  persona : Option Text

/-- What a turn changes: the conversation, whether an input node took the message, and the world. -/
structure Scene where
  context : Context
  consumed : Bool
  world : World

/-- Where a turn goes from a node. -/
inductive Move where
  | follow (edge : Edge)
  /-- No edge to follow. -/
  | halt
  /-- Wait for the user's next message. -/
  | await
  | finish

/-- What a node did. -/
structure Step where
  messages : List Text
  note : Option Text
  move : Move

/-- Why a node failed. -/
inductive Fault where
  | refused (r : Refusal)
  /-- A span of time is beyond the floating-point numbers. -/
  | spanTooLarge
  | brokenExchange (b : Http.Breakdown) (message : Text)
  /-- A JSON text of headers or of a body is beyond the limits. -/
  | json (e : Json.ReadError)

def Fault.message : Fault → Text
  | refused r => r.message
  | json e => e.message
  | spanTooLarge => "integer division result too large for a float"
  | brokenExchange _ message => message

/-- A step, or the fault of the node, with the scene as the node leaves it. -/
structure Act where
  result : Except Fault Step
  scene : Scene

namespace Act

/-- A step that changes nothing more. -/
def step (scene : Scene) (messages : List Text) (note : Option Text) (move : Move) : Act :=
  ⟨.ok ⟨messages, note, move⟩, scene⟩

def fail (scene : Scene) (f : Fault) : Act := ⟨.error f, scene⟩

end Act

/-- Follows an edge if there is one. -/
def Move.along : Option Edge → Move
  | some e => .follow e
  | none => .halt

namespace Scene

def withContext (s : Scene) (c : Context) : Scene := { s with context := c }

def withWorld (s : Scene) (w : World) : Scene := { s with world := w }

/-- Stores a text in a variable and goes on; a reserved name is a fault. -/
def store (s : Scene) (name : Text) (text : Text) (next : Scene → Act) : Act :=
  match s.context.setVariable name (.str text) with
  | .ok c => next (s.withContext c)
  | .error r => .fail s (.refused r)

/-- Stores a text if a name is given. -/
def storeIf (s : Scene) (name : Option Text) (text : Text) (next : Scene → Act) : Act :=
  match nonEmpty? name with
  | some name => s.store name text next
  | none => next s

end Scene

namespace TurnInput

variable (input : TurnInput) (n : Node)

/-- The edge from a node, of a type if one is preferred. -/
def edgeOf (preferred : Option EdgeType) : Option Edge :=
  Routing.resolve input.edges n.id (preferred.map EdgeType.name)

/-- Leaves a node along an edge with a note. -/
def leave (s : Scene) (note : Text) (preferred : Option EdgeType) : Act :=
  .step s [] (some note) (.along (input.edgeOf n preferred))

/-- The message that no input node has taken yet. -/
def pending (s : Scene) : Option Text := if s.consumed then none else nonEmpty? input.message

end TurnInput

namespace Node

/-- A template of a node rendered, if the node has one. -/
def rendered (template : Option Text) (c : Context) : List Text :=
  match nonEmpty? template with
  | some t => [Template.render c t]
  | none => []

variable (n : Node) (input : TurnInput) (s : Scene)

/-! ## Messages and input -/

def runStart : Act := .step s [] none (.along (input.edgeOf n none))

def runSendMessage : Act := .step s (rendered n.message s.context) none (.along (input.edgeOf n none))

/-- Takes the user's answer: stores it, adds it to the history, and stops waiting. -/
def takeAnswer (answer : Text) : Act :=
  let note := match nonEmpty? n.variableName with
    | some name => "Input stored in '" ++ name ++ "'"
    | none => "Input received"
  { s with consumed := true }.storeIf n.variableName answer fun s =>
    input.leave n (s.withContext (s.context.addUserMessage answer).clearWaiting) note (some .default)

/-- The first visit shows the prompt and waits; the visit that finds the conversation waiting here takes the answer. -/
def runGetUserInput : Act :=
  match s.context.waiting with
  | .str id =>
    if id = n.id then
      match input.pending s with
      | some answer => n.takeAnswer input s answer
      | none => .step s [] (some "Still waiting for input") .await
    else askUser
  | _ => askUser
where
  /-- Shows the prompt and waits. -/
  askUser : Act :=
    .step (s.withContext (s.context.setWaiting (.str n.id))) (rendered n.prompt s.context)
      (some "Waiting for user input") .await

/-! ## The model -/

/-- The part of a model prompt that introduces the persona. -/
def personaPart (persona : Option Text) : List Text :=
  match nonEmpty? persona with
  | some p => ["You are acting as the following persona:\n" ++ p]
  | none => []

/-- The part of a model prompt that lists the knowledge items. -/
def knowledgePart (items : List KnowledgeItem) : List Text :=
  if n.useKnowledge && !items.isEmpty then
    ["The following knowledge items may help. Use them if relevant.\n" ++ Knowledge.block items]
  else []

/-- The prompt of a model node. -/
def modelPrompt (template : Text) (c : Context) : Text :=
  Text.joinWith "\n\n"
    (personaPart input.persona ++ n.knowledgePart input.knowledge ++ [Template.render c template])

/-- Asks the model and stores its answer; a failed call stores nothing. -/
def runCallModel : Act :=
  match nonEmpty? n.llmPrompt, nonEmpty? n.outputVariable with
  | some template, some output =>
    match Model.generate input.settings s.world (n.modelPrompt input template s.context) with
    | (.ok answer, w) =>
      (s.withWorld w).store output answer fun s =>
        input.leave n s ("Model output stored in '" ++ output ++ "'") none
    | (.error reason, w) =>
      input.leave n (s.withWorld w) ("Model call failed, '" ++ output ++ "' left unchanged: " ++ reason) none
  | _, _ => input.leave n s "Misconfigured callLLM node: missing llmPrompt or outputVariable" none

/-! ## Conditions -/

/-- The prompt that asks the model for one of the labels. -/
def choicePrompt (labels : List Text) (value : Text) : Text :=
  "Classify the following value into exactly one of these categories: " ++ Text.joinWith ", " labels ++ ".\n"
    ++ "Value: \"" ++ value ++ "\"\n" ++ "Respond with only the category name and nothing else."

/-- Leaves a condition node along the edge chosen for a value, or along a default edge, and says which. -/
def leaveCondition (value : Text) (chosen : Option Edge) (note : Option Text) : Act :=
  match chosen with
  | some e => .step s [] note (.follow e)
  | none =>
    let fallback := Routing.findDefault input.edges n.id
    let said := "No edge matched '" ++ value ++ "'"
      ++ if fallback.isSome then "; using default edge" else " and no default edge exists"
    let note := match note with
      | some reason => reason ++ "; " ++ said
      | none => said
    .step s [] (some note) (.along fallback)

/-- Lets the model choose among the labels. -/
def chooseByModel (value : Text) : Act :=
  let labels := Routing.conditionLabels input.edges n.id
  if labels.isEmpty then n.leaveCondition input s value none none
  else
    match Model.generate input.settings s.world (choicePrompt labels value) with
    | (.ok answer, w) =>
      let choice := Text.fold answer
      n.leaveCondition input (s.withWorld w) value (Routing.findByCondition input.edges n.id choice)
        (some ("Model chose '" ++ choice ++ "'"))
    | (.error reason, w) =>
      n.leaveCondition input (s.withWorld w) value none (some ("Model decision failed: " ++ reason))

/-- Lets the value itself choose. -/
def chooseByValue (value : Text) : Act :=
  let chosen := Routing.findByCondition input.edges n.id value
  n.leaveCondition input s value chosen (chosen.map fun _ => "Value '" ++ value ++ "' matched edge condition")

def runCondition : Act :=
  match (nonEmpty? n.conditionVariable).bind fun name => s.context.get? name with
  | none =>
    .step s []
      (some ("Condition variable '" ++ (Value.ofText? n.conditionVariable).plain ++ "' not set; using default edge"))
      (.along (Routing.findDefault input.edges n.id))
  | some v =>
    let value := Text.fold v.shown
    if n.useLLMForDecision then n.chooseByModel input s value else n.chooseByValue input s value

/-! ## Knowledge -/

/-- What to look up: the query variable if it is set, else the turn's message. -/
def lookupQuery : Text :=
  match (nonEmpty? n.qnaQueryVariable).bind fun name => s.context.get? name with
  | some v => v.shown
  | none => input.message.getD ""

def runLookup : Act :=
  match Knowledge.lookup input.knowledge (n.lookupQuery input s) with
  | some item =>
    s.storeIf n.qnaOutputVariable (item.summary.getD "") fun s =>
      input.leave n s ("Knowledge item '" ++ item.id ++ "' matched") (some .found)
  | none =>
    s.storeIf n.qnaOutputVariable ((nonEmpty? n.qnaFallbackText).getD input.settings.knowledgeFallback) fun s =>
      input.leave n s "No knowledge item matched" (some .notFound)

/-! ## Time and services -/

/-- The milliseconds that a wait node sleeps. -/
def waitMs : Int := max 0 (min n.waitDurationMs input.settings.waitMaxMs)

def runWait : Act :=
  match Decimal.divide? (n.waitMs input) 1000 with
  | some seconds =>
    input.leave n (s.withWorld (s.world.sleep (.exact seconds)))
      ("Waited " ++ Text.ofInt (n.waitMs input) ++ "ms") none
  | none => .fail s .spanTooLarge

/-- The body of a request: the value of the body variable, a JSON text taken for the value it denotes. -/
def requestBody (c : Context) : Except Json.ReadError (Option Http.Body) :=
  match nonEmpty? n.apiBodyVariable with
  | none => .ok none
  | some name =>
    if name = Context.historyKey then .ok (some (@Http.Body.history c.history))
    else
      match c.get? name with
      | some (.str text) =>
        match Json.read .standard text with
        | .ok v => .ok (Http.Body.ofValue? v)
        | .error .malformed => .ok (some (.content text))
        | .error e => .error e
      | some v => .ok (Http.Body.ofValue? v)
      | none => .ok none

/-- The milliseconds that a request may take. -/
def timeoutMs : Int :=
  match n.apiTimeout with
  | some ms => if ms = 0 then input.settings.apiTimeoutMs else ms
  | none => input.settings.apiTimeoutMs

/-- The request of an API node: its address, headers and body made in a context, and its time-out. -/
def request (url : Text) (c : Context) : Except Fault Http.Request := do
  let headers ← n.headers.mapError .json
  let body ← (n.requestBody c).mapError .json
  let some seconds := Decimal.divide? (n.timeoutMs input) 1000 | throw .spanTooLarge
  return .make (Template.render c url) (some n.apiMethod.name) (headers.mapValues (Template.render c)) body
    (.float seconds)

/-- Leaves an API node after an exchange; the reply is stored whatever its status. -/
def leaveApiCall (call : Http.CallResult) : Act :=
  let go (s : Scene) : Act :=
    if call.success then input.leave n s ("HTTP " ++ call.status.elim ("None" : Text) Text.ofInt) (some .success)
    else input.leave n s ("Request failed: " ++ call.error.getD "None") (some .error)
  match call.status with
  | some _ => s.storeIf n.apiOutputVariable call.text go
  | none => go s

def runApiCall : Act :=
  match nonEmpty? n.apiUrl with
  | none => input.leave n s "Misconfigured apiCall node: missing apiUrl" (some .error)
  | some url =>
    match n.request input url s.context with
    | .error f => .fail s f
    | .ok request =>
      match s.world.send request n.apiRetryAttempts true with
      | (.ok call, w) => n.leaveApiCall input (s.withWorld w) call
      | (.error (b, message), w) => .fail (s.withWorld w) (.brokenExchange b message)

/-! ## The end, and what is done elsewhere -/

def runFinish : Act :=
  let note := match nonEmpty? n.endOutputVariable with
    | some name => "Flow finished with " ++ name ++ "=" ++ (s.context.getD name .null).quoted
    | none => "Flow finished"
  .step s [] (some note) .finish

def runPassthrough : Act := input.leave n s ("'" ++ n.type ++ "' node not executed here; passing through") none

def runUnknown : Act := input.leave n s ("Unknown node type '" ++ n.type ++ "' skipped") none

/-- What a node does, by its type. -/
def run : Act :=
  match n.kind? with
  | some .start => n.runStart input s
  | some .sendMessage => n.runSendMessage input s
  | some .getUserInput => n.runGetUserInput input s
  | some .callModel => n.runCallModel input s
  | some .condition => n.runCondition input s
  | some .lookup => n.runLookup input s
  | some .wait => n.runWait input s
  | some .finish => n.runFinish s
  | some .apiCall => n.runApiCall input s
  | some .action | some .code | some .transition | some .agentSkill => n.runPassthrough input s
  | none => n.runUnknown input s

end Node

end Colloquy
