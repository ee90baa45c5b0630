import Colloquy.Json.Reader
import Colloquy.Schema
import Colloquy.Text.Case
import Colloquy.Value.Text

/-!
# Nodes of a flow

A node is one step of a flow as the studio editor writes it. Its type is kept as text, so that flows of newer editors
still load; `Node.kind?` tells the types this engine knows. Fields that no known type uses are kept as extras.
-/

namespace Colloquy

/-- The node types the studio knows. -/
inductive NodeKind where
  | start
  | sendMessage
  | getUserInput
  | callModel
  | condition
  | lookup
  | wait
  | finish
  | apiCall
  | action
  | code
  | transition
  | agentSkill
  deriving Repr, DecidableEq

namespace NodeKind

/-- A node type as the editor writes it. -/
def name : NodeKind → Text
  | start => "start"
  | sendMessage => "sendMessage"
  | getUserInput => "getUserInput"
  | callModel => "callLLM"
  | condition => "condition"
  | lookup => "qnaLookup"
  | wait => "wait"
  | finish => "end"
  | apiCall => "apiCall"
  | action => "action"
  | code => "code"
  | transition => "transition"
  | agentSkill => "agentSkill"

def all : List NodeKind :=
  [start, sendMessage, getUserInput, callModel, condition, lookup, wait, finish, apiCall, action, code, transition,
    agentSkill]

def ofName? (s : Text) : Option NodeKind := all.find? fun k => k.name == s

/-- Types whose work happens outside the engine. -/
def isPassthrough : NodeKind → Bool
  | action | code | transition | agentSkill => true
  | _ => false

theorem ofName?_name (k : NodeKind) : ofName? k.name = some k := by cases k <;> decide

theorem ofName?_eq_some_iff {s : Text} {k : NodeKind} : ofName? s = some k ↔ s = k.name := by
  refine ⟨fun h => ?_, fun h => h ▸ ofName?_name k⟩
  have := List.find?_some h
  simpa using (beq_iff_eq.1 this).symm

end NodeKind

/-- Request methods of API calls. -/
inductive Method where
  | get
  | post
  | put
  | delete
  | patch
  deriving Repr, DecidableEq

namespace Method

def name : Method → Text
  | get => "GET"
  | post => "POST"
  | put => "PUT"
  | delete => "DELETE"
  | patch => "PATCH"

def all : List Method := [get, post, put, delete, patch]

/-- Methods are read whatever the case of their letters. -/
def codec : Schema.Codec Method where
  read
    | .str s => (Schema.Codec.choice all name).read (.str (Text.upper s))
    | v => (Schema.Codec.choice all name).read v
  write m := .str m.name

end Method

/-- Request headers, which the editor stores as an object or as its JSON text. -/
inductive Headers where
  | table (entries : Entries Text Text)
  | text (json : Text)

namespace Headers

open Schema in
/-- An object of texts, or a text; when neither fits, what is wrong with either is reported. -/
def codec : Codec Headers where
  read v :=
    match v with
    | .str s => .value (.text s)
    | _ =>
      match Codec.text.table.read v with
      | .value es => .value (.table es)
      | .issues found => .ap (.map (fun _ h => h) ((Reading.issues found : Reading Headers).under "dict[str,str]"))
          ((Reading.fault .notText : Reading Headers).under "str")
  write
    | table es => .object (es.mapValues .str)
    | text s => .str s

/-- The headers as a mapping; a text that is not the JSON text of an object gives none. A JSON text beyond the limits
is an error. -/
def entries : Headers → Except Json.ReadError (Entries Text Text)
  | table es => .ok es
  | text s =>
    match Json.read .standard s with
    | .ok (.object es) => .ok (Entries.mapValues Value.plain es)
    | .ok _ | .error .malformed => .ok []
    | .error e => .error e

end Headers

/-- A single step of a flow. -/
structure Node where
  id : Text
  type : Text
  label : Option Text
  position : Option (Entries Text Float)
  message : Option Text
  prompt : Option Text
  variableName : Option Text
  inputType : Option Text
  validationRules : Option Text
  llmPrompt : Option Text
  outputVariable : Option Text
  useKnowledge : Bool
  conditionVariable : Option Text
  useLLMForDecision : Bool
  conditionExpressions : Option (List Text)
  apiUrl : Option Text
  apiMethod : Method
  apiHeaders : Option Headers
  apiBodyVariable : Option Text
  /-- Milliseconds. -/
  apiTimeout : Option Int
  apiRetryAttempts : Int
  apiOutputVariable : Option Text
  endOutputVariable : Option Text
  qnaKnowledgeBaseId : Option Text
  qnaQueryVariable : Option Text
  qnaThreshold : Float
  qnaOutputVariable : Option Text
  qnaFallbackText : Option Text
  waitDurationMs : Int
  extras : Entries Text Value

namespace Node

/-! ## Reading and writing -/

namespace Fields

open Schema

def id : FieldSpec Text := .required "id" "id" .text
def type : FieldSpec Text := .required "type" "type" .text
def label : FieldSpec (Option Text) := .optional "label" "label" .text
def position : FieldSpec (Option (Entries Text Float)) := .optional "position" "position" Codec.real.table
def message : FieldSpec (Option Text) := .optional "message" "message" .text
def prompt : FieldSpec (Option Text) := .optional "prompt" "prompt" .text
def variableName : FieldSpec (Option Text) := .optional "variableName" "variable_name" .text
def inputType : FieldSpec (Option Text) := .optional "inputType" "input_type" .text
def validationRules : FieldSpec (Option Text) := .optional "validationRules" "validation_rules" .text
def llmPrompt : FieldSpec (Option Text) := .optional "llmPrompt" "llm_prompt" .text
def outputVariable : FieldSpec (Option Text) := .optional "outputVariable" "output_variable" .text
def useKnowledge : FieldSpec Bool := .withDefault "useKnowledge" "use_knowledge" .flag false
def conditionVariable : FieldSpec (Option Text) := .optional "conditionVariable" "condition_variable" .text
def useLLMForDecision : FieldSpec Bool := .withDefault "useLLMForDecision" "use_llm_for_decision" .flag false
def conditionExpressions : FieldSpec (Option (List Text)) :=
  .optional "conditionExpressions" "condition_expressions" Codec.text.list
def apiUrl : FieldSpec (Option Text) := .optional "apiUrl" "api_url" .text
def apiMethod : FieldSpec Method := .withDefault "apiMethod" "api_method" Method.codec .get
def apiHeaders : FieldSpec (Option Headers) := .optional "apiHeaders" "api_headers" Headers.codec
def apiBodyVariable : FieldSpec (Option Text) := .optional "apiBodyVariable" "api_body_variable" .text
def apiTimeout : FieldSpec (Option Int) := .optional "apiTimeout" "api_timeout" .whole
def apiRetryAttempts : FieldSpec Int := .withDefault "apiRetryAttempts" "api_retry_attempts" .whole 0
def apiOutputVariable : FieldSpec (Option Text) := .optional "apiOutputVariable" "api_output_variable" .text
def endOutputVariable : FieldSpec (Option Text) := .optional "endOutputVariable" "end_output_variable" .text
def qnaKnowledgeBaseId : FieldSpec (Option Text) := .optional "qnaKnowledgeBaseId" "qna_knowledge_base_id" .text
def qnaQueryVariable : FieldSpec (Option Text) := .optional "qnaQueryVariable" "qna_query_variable" .text
def qnaThreshold : FieldSpec Float := .withDefault "qnaThreshold" "qna_threshold" .real 0.7
def qnaOutputVariable : FieldSpec (Option Text) := .optional "qnaOutputVariable" "qna_output_variable" .text
def qnaFallbackText : FieldSpec (Option Text) := .optional "qnaFallbackText" "qna_fallback_text" .text
def waitDurationMs : FieldSpec Int := .withDefault "waitDurationMs" "wait_duration_ms" .whole 1000

/-- The names of all fields, in order. -/
def names : List (Text × Text) :=
  [id.names, type.names, label.names, position.names, message.names, prompt.names, variableName.names,
    inputType.names, validationRules.names, llmPrompt.names, outputVariable.names, useKnowledge.names,
    conditionVariable.names, useLLMForDecision.names, conditionExpressions.names, apiUrl.names, apiMethod.names,
    apiHeaders.names, apiBodyVariable.names, apiTimeout.names, apiRetryAttempts.names, apiOutputVariable.names,
    endOutputVariable.names, qnaKnowledgeBaseId.names, qnaQueryVariable.names, qnaThreshold.names,
    qnaOutputVariable.names, qnaFallbackText.names, waitDurationMs.names]

end Fields

open Schema in
/-- A node from the entries of its object. -/
def ofEntries (es : Entries Text Value) : Reading Node :=
  Node.mk <$> Fields.id.read es <*> Fields.type.read es <*> Fields.label.read es <*> Fields.position.read es
    <*> Fields.message.read es <*> Fields.prompt.read es <*> Fields.variableName.read es <*> Fields.inputType.read es
    <*> Fields.validationRules.read es <*> Fields.llmPrompt.read es <*> Fields.outputVariable.read es
    <*> Fields.useKnowledge.read es <*> Fields.conditionVariable.read es <*> Fields.useLLMForDecision.read es
    <*> Fields.conditionExpressions.read es <*> Fields.apiUrl.read es <*> Fields.apiMethod.read es
    <*> Fields.apiHeaders.read es <*> Fields.apiBodyVariable.read es <*> Fields.apiTimeout.read es
    <*> Fields.apiRetryAttempts.read es <*> Fields.apiOutputVariable.read es <*> Fields.endOutputVariable.read es
    <*> Fields.qnaKnowledgeBaseId.read es <*> Fields.qnaQueryVariable.read es <*> Fields.qnaThreshold.read es
    <*> Fields.qnaOutputVariable.read es <*> Fields.qnaFallbackText.read es <*> Fields.waitDurationMs.read es
    <*> .value (Schema.extras Fields.names es)

/-- A node from a dynamic value. -/
def read : Value → Schema.Reading Node := Schema.readRecord ofEntries

/-- The node's fields as written entries, unset ones as null. -/
def fieldEntries (n : Node) : Entries Text Value :=
  [Fields.id.entry n.id, Fields.type.entry n.type, Fields.label.entry n.label, Fields.position.entry n.position,
    Fields.message.entry n.message, Fields.prompt.entry n.prompt, Fields.variableName.entry n.variableName,
    Fields.inputType.entry n.inputType, Fields.validationRules.entry n.validationRules,
    Fields.llmPrompt.entry n.llmPrompt, Fields.outputVariable.entry n.outputVariable,
    Fields.useKnowledge.entry n.useKnowledge, Fields.conditionVariable.entry n.conditionVariable,
    Fields.useLLMForDecision.entry n.useLLMForDecision, Fields.conditionExpressions.entry n.conditionExpressions,
    Fields.apiUrl.entry n.apiUrl, Fields.apiMethod.entry n.apiMethod, Fields.apiHeaders.entry n.apiHeaders,
    Fields.apiBodyVariable.entry n.apiBodyVariable, Fields.apiTimeout.entry n.apiTimeout,
    Fields.apiRetryAttempts.entry n.apiRetryAttempts, Fields.apiOutputVariable.entry n.apiOutputVariable,
    Fields.endOutputVariable.entry n.endOutputVariable, Fields.qnaKnowledgeBaseId.entry n.qnaKnowledgeBaseId,
    Fields.qnaQueryVariable.entry n.qnaQueryVariable, Fields.qnaThreshold.entry n.qnaThreshold,
    Fields.qnaOutputVariable.entry n.qnaOutputVariable, Fields.qnaFallbackText.entry n.qnaFallbackText,
    Fields.waitDurationMs.entry n.waitDurationMs]

/-- The node in the editor's form. -/
def toWire (n : Node) : Value := .object (Schema.wire n.fieldEntries n.extras)

/-- Nodes in the editor's form. -/
def codec : Schema.Codec Node := ⟨read, toWire⟩

/-! ## Meaning -/

/-- The node's type, if the studio knows it. -/
def kind? (n : Node) : Option NodeKind := NodeKind.ofName? n.type

/-- The headers of the node's request. -/
def headers (n : Node) : Except Json.ReadError (Entries Text Text) :=
  match n.apiHeaders with
  | none => .ok []
  | some h => h.entries

end Node

end Colloquy
