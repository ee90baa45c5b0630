import Colloquy.Flow.Definition
import Colloquy.Flow.Routing
import Colloquy.Inspection.Finding

/-!
# Structural checks

Checks of a definition's nodes and edges one by one: start nodes, ids, types and fields of nodes, end points of edges,
and nodes from which no fitting edge leads on.
-/

namespace Colloquy.Inspection

/-- The elements, in order, whose key an earlier element has. -/
def repeated {α : Type} (key : α → Text) : List Text → List α → List α
  | _, [] => []
  | seen, a :: rest =>
    if key a ∈ seen then a :: repeated key seen rest else repeated key (key a :: seen) rest

/-- Start nodes and repeated node ids. -/
def nodeIds (d : Definition) : List Finding :=
  let starts := d.nodes.filter fun n => n.type == NodeKind.start.name
  let startFindings := match starts with
    | [] => [Finding.missingStart]
    | [_] => []
    | _ :: second :: _ => [Finding.multipleStarts starts.length second.id]
  startFindings ++ (repeated Node.id [] d.nodes).map fun n => .duplicateNode n.id

/-- The fields that a node of a type needs to do anything useful, each with whether it is filled in. -/
def neededFields (n : Node) : NodeKind → List (Text × Option Text)
  | .sendMessage => [("message", n.message)]
  | .getUserInput => [("prompt", n.prompt)]
  | .callModel => [("llm_prompt", n.llmPrompt), ("output_variable", n.outputVariable)]
  | .condition => [("condition_variable", n.conditionVariable)]
  | .lookup => [("qna_output_variable", n.qnaOutputVariable)]
  | .apiCall => [("api_url", n.apiUrl)]
  | _ => []

/-- Whether an address may be one: absolute, or made from a variable. -/
def plausibleUrl (url : Text) : Bool :=
  (["http://", "https://", "\x7b\x7b"] : List Text).any (·.isPrefixOf url)

/-- The type and the fields of a node. -/
def nodeFields (n : Node) : List Finding :=
  match n.kind? with
  | none => [.unknownType n.id n.type]
  | some kind =>
    (if kind.isPassthrough then [Finding.passthrough n.id n.type] else [])
      ++ ((neededFields n kind).filter fun f => (nonEmpty? f.2).isNone).map (fun f => .missingField n.id n.type f.1)
      ++ (if kind = .apiCall && (nonEmpty? n.apiUrl).any (fun url => !plausibleUrl url) then [.badUrl n.id] else [])

/-- Whether some node has the id. -/
def declares (d : Definition) (id : Text) : Bool := d.nodes.any fun n => n.id == id

/-- The end points of an edge. -/
def edgeEnds (d : Definition) (e : Edge) : List Finding :=
  (if declares d e.source then [] else [Finding.undeclaredSource e.id e.source])
    ++ if declares d e.target then [] else [.undeclaredTarget e.id e.target]

/-- The ids and end points of edges in order; `seen` holds the ids of the edges before. -/
def edgesFrom (d : Definition) (seen : List Text) : List Edge → List Finding
  | [] => []
  | e :: rest =>
    (if e.id ∈ seen then [Finding.duplicateEdge e.id] else []) ++ edgeEnds d e ++ edgesFrom d (e.id :: seen) rest

def edgeFindings (d : Definition) : List Finding := edgesFrom d [] d.edges

/-- The outcomes for which nodes of a type need edges of their own. -/
def neededOutcomes : NodeKind → List EdgeType
  | .lookup => [.found, .notFound]
  | .apiCall => [.success, .error]
  | _ => []

/-- The way on from a node. -/
def wayOn (d : Definition) (n : Node) : List Finding :=
  if n.kind? = some .finish then []
  else
    let out := Routing.outgoing d.edges n.id
    if out.isEmpty then [.deadEnd n.id]
    else
      let needed := (n.kind?.map neededOutcomes).getD []
      let missing := needed.filter fun t => !out.any fun e => e.edgeType == some t
      if missing.isEmpty then [] else [.missingBranch n.id (missing.map EdgeType.name)]

end Colloquy.Inspection
