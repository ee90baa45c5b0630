import Colloquy.Flow.Edge
import Colloquy.Flow.Node

/-!
# Flow definitions

A flow as an author draws it: nodes and edges in declared order. Of several nodes with one id the first counts, and of
several start nodes the first.
-/

namespace Colloquy

structure Definition where
  flowId : Text
  name : Text
  description : Text
  nodes : List Node
  edges : List Edge
  extras : Entries Text Value

namespace Definition

namespace Fields

open Schema

def flowId : FieldSpec Text := .withDefault "flowId" "flow_id" .text "flow"
def name : FieldSpec Text := .withDefault "name" "name" .text ""
def description : FieldSpec Text := .withDefault "description" "description" .text ""
def nodes : FieldSpec (List Node) := .withDefault "nodes" "nodes" Node.codec.list []
def edges : FieldSpec (List Edge) := .withDefault "edges" "edges" Edge.codec.list []

/-- The names of all fields, in order. -/
def names : List (Text × Text) := [flowId.names, name.names, description.names, nodes.names, edges.names]

end Fields

open Schema in
/-- A definition from the entries of its object. -/
def ofEntries (es : Entries Text Value) : Reading Definition :=
  Definition.mk <$> Fields.flowId.read es <*> Fields.name.read es <*> Fields.description.read es
    <*> Fields.nodes.read es <*> Fields.edges.read es <*> .value (Schema.extras Fields.names es)

/-- A definition from a dynamic value. -/
def read : Value → Schema.Reading Definition := Schema.readRecord ofEntries

/-- The definition's fields as written entries. -/
def fieldEntries (d : Definition) : Entries Text Value :=
  [Fields.flowId.entry d.flowId, Fields.name.entry d.name, Fields.description.entry d.description,
    Fields.nodes.entry d.nodes, Fields.edges.entry d.edges]

/-- The definition in the editor's form. -/
def toWire (d : Definition) : Value := .object (Schema.wire d.fieldEntries d.extras)

/-- The node of an id. -/
def node? (d : Definition) (id : Text) : Option Node := d.nodes.find? fun n => n.id == id

/-- The start node. -/
def start? (d : Definition) : Option Node := d.nodes.find? fun n => n.type == NodeKind.start.name

end Definition

end Colloquy
