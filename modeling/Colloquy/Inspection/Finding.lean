import Colloquy.Text.Search

/-!
# Findings

What an inspection of a flow definition can find. Errors make a flow unrunnable; warnings flag flows that run, but
probably not as intended.
-/

namespace Colloquy

inductive Severity where
  | error
  | warning
  deriving Repr, DecidableEq

namespace Severity

def name : Severity → Text
  | error => "error"
  | warning => "warning"

def banner : Severity → Text
  | error => "ERROR"
  | warning => "WARNING"

end Severity

/-- Something found in a definition; ids are of nodes unless said otherwise. -/
inductive Finding where
  | missingStart
  /-- Several start nodes, so many, of which the given one is the second. -/
  | multipleStarts (count : Nat) (second : Text)
  | duplicateNode (id : Text)
  | unknownType (id type : Text)
  /-- The type's work is not done by the engine. -/
  | passthrough (id type : Text)
  | missingField (id type field : Text)
  | badUrl (id : Text)
  | duplicateEdge (edge : Text)
  | undeclaredSource (edge source : Text)
  | undeclaredTarget (edge target : Text)
  | deadEnd (id : Text)
  /-- No edge is typed for some of the outcomes. -/
  | missingBranch (id : Text) (outcomes : List Text)
  | orphan (id : Text)
  /-- A cycle from `first` through `rest` and back that never waits for input. -/
  | loop (first : Text) (rest : List Text)
  deriving Repr, DecidableEq

namespace Finding

def code : Finding → Text
  | missingStart => "MISSING_START_NODE"
  | multipleStarts .. => "MULTIPLE_START_NODES"
  | duplicateNode _ => "DUPLICATE_NODE_ID"
  | unknownType .. => "UNKNOWN_NODE_TYPE"
  | passthrough .. => "PASSTHROUGH_NODE"
  | missingField .. => "MISSING_NODE_FIELD"
  | badUrl _ => "INVALID_URL"
  | duplicateEdge _ => "DUPLICATE_EDGE_ID"
  | undeclaredSource .. => "INVALID_EDGE_SOURCE"
  | undeclaredTarget .. => "INVALID_EDGE_TARGET"
  | deadEnd _ => "DEAD_END"
  | missingBranch .. => "MISSING_BRANCH_EDGE"
  | orphan _ => "ORPHAN_NODE"
  | loop .. => "LOOP_WITHOUT_INPUT"

def severity : Finding → Severity
  | missingStart | duplicateNode _ | undeclaredSource .. | undeclaredTarget .. => .error
  | _ => .warning

/-- The node that the finding is about, if it is about one. -/
def node? : Finding → Option Text
  | missingStart | duplicateEdge _ | undeclaredSource .. | undeclaredTarget .. => none
  | multipleStarts _ id | duplicateNode id | unknownType id _ | passthrough id _ | missingField id _ _ | badUrl id
  | deadEnd id | missingBranch id _ | orphan id | loop id _ => some id

def message : Finding → Text
  | missingStart => "Flow must have exactly one 'start' node"
  | multipleStarts count _ => "Flow has " ++ Text.ofNat count ++ " 'start' nodes; only the first is used"
  | duplicateNode id => "Duplicate node ID: " ++ id
  | unknownType _ type => "Node type '" ++ type ++ "' is not supported and will be skipped"
  | passthrough _ type => "Node type '" ++ type ++ "' is not executed by the interpreter"
  | missingField _ type field => "Node type '" ++ type ++ "' requires field '" ++ field ++ "'"
  | badUrl _ => "URL must start with http:// or https://"
  | duplicateEdge edge => "Duplicate edge ID: " ++ edge
  | undeclaredSource edge source => "Edge '" ++ edge ++ "' source '" ++ source ++ "' does not exist"
  | undeclaredTarget edge target => "Edge '" ++ edge ++ "' target '" ++ target ++ "' does not exist"
  | deadEnd id => "Non-end node '" ++ id ++ "' has no outgoing edge"
  | missingBranch id outcomes =>
    "Node '" ++ id ++ "' has no edge typed " ++ Text.joinWith ", " outcomes ++ "; default edge will be used"
  | orphan id => "Node '" ++ id ++ "' is not reachable from start node"
  | loop first rest => "Cycle " ++ Text.joinWith " -> " (first :: rest ++ [first]) ++ " never waits for input"

/-- The finding in one line. -/
def text (f : Finding) : Text :=
  let place := match f.node? with
    | some id => if id.isEmpty then "" else " [Node: " ++ id ++ "]"
    | none => ""
  "[" ++ f.severity.banner ++ "] " ++ f.code ++ ": " ++ f.message ++ place

def isError (f : Finding) : Bool := f.severity == .error

end Finding

end Colloquy
