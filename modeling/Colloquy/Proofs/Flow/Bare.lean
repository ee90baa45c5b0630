import Colloquy.Flow.Definition

/-!
# Bare nodes and edges

The node, edge and definition that an author gives with nothing but what they need; every other field has its default.
Small flows made of them: one that asks in its loop (`parrot`), one that never asks (`spinner`), one with a way around
the node that asks (`detour`), two that ask the model (`pupil`, `sorter`), two that call a service (`courier`, `caller`),
one whose edge leads to no id (`stray`), one with a node that nothing reaches (`castaway`), one with a condition that has
no way out (`impasse`), one that looks the answer up (`clerk`), and one that takes every answer for invalid (`doubter`).
-/

namespace Colloquy

/-- A node of which only the id and the type are given. -/
def Node.bare (id type : Text) : Node where
  id
  type
  label := none
  position := none
  message := none
  prompt := none
  variableName := none
  inputType := none
  validationRules := none
  llmPrompt := none
  outputVariable := none
  useKnowledge := false
  conditionVariable := none
  useLLMForDecision := false
  conditionExpressions := none
  apiUrl := none
  apiMethod := .get
  apiHeaders := none
  apiBodyVariable := none
  apiTimeout := none
  apiRetryAttempts := 0
  apiOutputVariable := none
  endOutputVariable := none
  qnaKnowledgeBaseId := none
  qnaQueryVariable := none
  qnaThreshold := 0.7
  qnaOutputVariable := none
  qnaFallbackText := none
  waitDurationMs := 1000
  extras := []

theorem Node.read_bare (id type : Text) :
    Node.read (.object [("id", .str id), ("type", .str type)]) = .value (.bare id type) := by
  rfl

/-- An edge of which only the id and the end points are given. -/
def Edge.bare (id source target : Text) : Edge where
  id
  source
  target
  label := none
  condition := none
  edgeType := none
  extras := []

theorem Edge.read_bare (id source target : Text) :
    Edge.read (.object [("id", .str id), ("source", .str source), ("target", .str target)])
      = .value (.bare id source target) := by
  rfl

/-- A definition of which only the nodes and the edges are given. -/
def Definition.bare (nodes : List Node) (edges : List Edge) : Definition where
  flowId := "flow"
  name := ""
  description := ""
  nodes
  edges
  extras := []

namespace Definition

/-- Asks, repeats what was said, and asks again. -/
def parrot : Definition := .bare
  [.bare "s" NodeKind.start.name,
    { Node.bare "ask" NodeKind.getUserInput.name with prompt := some "Yes?", variableName := some "answer" },
    { Node.bare "say" NodeKind.sendMessage.name with message := some "\x7b\x7banswer\x7d\x7d" }]
  [.bare "e1" "s" "ask", .bare "e2" "ask" "say", .bare "e3" "say" "ask"]

/-- Says two things by turns and never asks. -/
def spinner : Definition := .bare
  [.bare "s" NodeKind.start.name,
    { Node.bare "tick" NodeKind.sendMessage.name with message := some "Tick" },
    { Node.bare "tock" NodeKind.sendMessage.name with message := some "Tock" }]
  [.bare "e1" "s" "tick", .bare "e2" "tick" "tock", .bare "e3" "tock" "tick"]

/-- Comes back to its condition, with or without asking in between. -/
def detour : Definition := .bare
  [.bare "s" NodeKind.start.name,
    { Node.bare "c" NodeKind.condition.name with conditionVariable := some "answer" },
    { Node.bare "ask" NodeKind.getUserInput.name with prompt := some "Again?", variableName := some "answer" },
    { Node.bare "say" NodeKind.sendMessage.name with message := some "Working" }]
  [.bare "e1" "s" "c", { Edge.bare "e2" "c" "ask" with condition := some "yes" }, .bare "e3" "c" "say",
    .bare "e4" "ask" "say", .bare "e5" "say" "c"]

/-- Asks the model and keeps its answer. -/
def pupil : Definition := .bare
  [.bare "s" NodeKind.start.name,
    { Node.bare "ask" NodeKind.callModel.name with llmPrompt := some "What is one and one?", outputVariable := some "sum" },
    .bare "done" NodeKind.finish.name]
  [.bare "e1" "s" "ask", .bare "e2" "ask" "done"]

/-- Has the model sort what was said. The default edge comes first, and the label is a capitalized one. -/
def sorter : Definition := .bare
  [.bare "s" NodeKind.start.name,
    { Node.bare "c" NodeKind.condition.name with conditionVariable := some "said", useLLMForDecision := true },
    { Node.bare "say" NodeKind.sendMessage.name with message := some "Thank you" },
    .bare "done" NodeKind.finish.name]
  [.bare "e1" "s" "c", .bare "e2" "c" "done", { Edge.bare "e3" "c" "say" with condition := some "Praise" },
    .bare "e4" "say" "done"]

/-- Sends what a variable holds to a service. -/
def courier : Definition := .bare
  [.bare "s" NodeKind.start.name,
    { Node.bare "call" NodeKind.apiCall.name with
      apiUrl := some "http://h/", apiMethod := .post, apiBodyVariable := some "p" },
    .bare "done" NodeKind.finish.name]
  [.bare "e1" "s" "call", .bare "e2" "call" "done"]

/-- Calls a service at a port that a variable names, and apologizes when the call fails. -/
def caller : Definition := .bare
  [.bare "s" NodeKind.start.name,
    { Node.bare "call" NodeKind.apiCall.name with apiUrl := some "http://h:\x7b\x7bport\x7d\x7d/" },
    { Node.bare "sorry" NodeKind.sendMessage.name with message := some "Try again later" },
    .bare "done" NodeKind.finish.name]
  [.bare "e1" "s" "call", { Edge.bare "e2" "call" "done" with edgeType := some .success },
    { Edge.bare "e3" "call" "sorry" with edgeType := some .error }, .bare "e4" "sorry" "done"]

/-- Goes nowhere: its only edge leads to the empty id. -/
def stray : Definition := .bare [.bare "s" NodeKind.start.name] [.bare "e1" "s" ""]

/-- Greets. Of its other node an edge leads away, and the one edge that leads there leaves no node. -/
def castaway : Definition := .bare
  [.bare "s" NodeKind.start.name,
    { Node.bare "hi" NodeKind.sendMessage.name with message := some "Hi" },
    { Node.bare "far" NodeKind.sendMessage.name with message := some "Is anyone there?" }]
  [.bare "e1" "s" "hi", .bare "e2" "far" "hi", .bare "e3" "ghost" "far"]

/-- Goes on when the answer is yes; the one edge of its condition is typed for another outcome than the default one. -/
def impasse : Definition := .bare
  [.bare "s" NodeKind.start.name,
    { Node.bare "c" NodeKind.condition.name with conditionVariable := some "answer" },
    .bare "done" NodeKind.finish.name]
  [.bare "e1" "s" "c", { Edge.bare "e2" "c" "done" with condition := some "yes", edgeType := some .success }]

/-- Looks the message up. An untyped edge comes first, and the edges for the two outcomes after it. -/
def clerk : Definition := .bare
  [.bare "s" NodeKind.start.name,
    { Node.bare "look" NodeKind.lookup.name with qnaOutputVariable := some "answer" },
    { Node.bare "say" NodeKind.sendMessage.name with message := some "\x7b\x7banswer\x7d\x7d" },
    .bare "done" NodeKind.finish.name]
  [.bare "e1" "s" "look", .bare "e2" "look" "done", { Edge.bare "e3" "look" "done" with edgeType := some .notFound },
    { Edge.bare "e4" "look" "say" with edgeType := some .found }, .bare "e5" "say" "done"]

/-- Asks, and has a way on for invalid answers alone. -/
def doubter : Definition := .bare
  [.bare "s" NodeKind.start.name,
    { Node.bare "ask" NodeKind.getUserInput.name with prompt := some "Name?", variableName := some "name" },
    { Node.bare "sorry" NodeKind.sendMessage.name with message := some "That is not valid" },
    .bare "done" NodeKind.finish.name]
  [.bare "e1" "s" "ask", { Edge.bare "e2" "ask" "sorry" with edgeType := some .invalid }, .bare "e3" "sorry" "done"]

end Definition

end Colloquy
