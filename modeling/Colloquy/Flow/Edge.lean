import Colloquy.Schema
import Colloquy.Text.Case

/-!
# Edges of a flow

A directed transition between two nodes. Its type says for which outcome it is meant; an edge without a type is a
default edge. Its condition is a label that condition nodes compare with a value, whatever its case and surrounding
blanks.
-/

namespace Colloquy

/-- The outcomes an edge can be meant for. -/
inductive EdgeType where
  | default
  | success
  | error
  | invalid
  | found
  | notFound
  deriving Repr, DecidableEq

namespace EdgeType

def name : EdgeType → Text
  | default => "default"
  | success => "success"
  | error => "error"
  | invalid => "invalid"
  | found => "found"
  | notFound => "notFound"

def all : List EdgeType := [default, success, error, invalid, found, notFound]

def codec : Schema.Codec EdgeType := .choice all name

theorem name_inj {a b : EdgeType} : a.name = b.name ↔ a = b := by
  cases a <;> cases b <;> decide

theorem name_ne_nil (type : EdgeType) : type.name ≠ [] := by
  cases type <;> decide

end EdgeType

/-- A directed transition between two nodes. -/
structure Edge where
  id : Text
  source : Text
  target : Text
  label : Option Text
  condition : Option Text
  edgeType : Option EdgeType
  extras : Entries Text Value

namespace Edge

namespace Fields

open Schema

def id : FieldSpec Text := .required "id" "id" .text
def source : FieldSpec Text := .required "source" "source" .text
def target : FieldSpec Text := .required "target" "target" .text
def label : FieldSpec (Option Text) := .optional "label" "label" .text
def condition : FieldSpec (Option Text) := .optional "condition" "condition" .text
def edgeType : FieldSpec (Option EdgeType) := .optional "edgeType" "edge_type" EdgeType.codec

/-- The names of all fields, in order. -/
def names : List (Text × Text) :=
  [id.names, source.names, target.names, label.names, condition.names, edgeType.names]

end Fields

open Schema in
/-- An edge from the entries of its object. -/
def ofEntries (es : Entries Text Value) : Reading Edge :=
  Edge.mk <$> Fields.id.read es <*> Fields.source.read es <*> Fields.target.read es <*> Fields.label.read es
    <*> Fields.condition.read es <*> Fields.edgeType.read es <*> .value (Schema.extras Fields.names es)

/-- An edge from a dynamic value. -/
def read : Value → Schema.Reading Edge := Schema.readRecord ofEntries

/-- The edge's fields as written entries, unset ones as null. -/
def fieldEntries (e : Edge) : Entries Text Value :=
  [Fields.id.entry e.id, Fields.source.entry e.source, Fields.target.entry e.target, Fields.label.entry e.label,
    Fields.condition.entry e.condition, Fields.edgeType.entry e.edgeType]

/-- The edge in the editor's form. -/
def toWire (e : Edge) : Value := .object (Schema.wire e.fieldEntries e.extras)

/-- Edges in the editor's form. -/
def codec : Schema.Codec Edge := ⟨read, toWire⟩

/-- Whether the edge has a condition that is not blank. -/
def hasCondition (e : Edge) : Bool := !(Text.trim (e.condition.getD "")).isEmpty

/-- The condition in the form in which labels are compared. -/
def foldedCondition (e : Edge) : Text := Text.fold (e.condition.getD "")

/-- Whether the edge is a default edge: typed so, or not typed at all. -/
def isDefault (e : Edge) : Bool :=
  match e.edgeType with
  | none | some .default => true
  | some _ => false

theorem isDefault_eq_true_iff {e : Edge} : e.isDefault = true ↔ e.edgeType = none ∨ e.edgeType = some .default := by
  unfold isDefault
  cases e.edgeType with
  | none => simp
  | some type => cases type <;> simp

theorem isDefault_eq_false_iff {e : Edge} :
    e.isDefault = false ↔ e.edgeType ≠ none ∧ e.edgeType ≠ some .default := by
  rw [← Bool.not_eq_true, isDefault_eq_true_iff, not_or]

end Edge

end Colloquy
