import Colloquy.Context.Basic
import Colloquy.Json.Reader
import Colloquy.Json.Writer

/-!
# Persisted contexts

Between turns a context is kept as one flat mapping, in which the history and the ids stand beside the variables under
their reserved names, or as the JSON text of that mapping. Reading is lenient: nothing at all gives an empty context, a
list of pairs counts as a mapping, and the lines of the history may be any values.
-/

namespace Colloquy

/-- Why a persisted context cannot be read. -/
inductive LoadError where
  | json (e : Json.ReadError)
  /-- A value of this kind is neither a mapping nor a sequence. -/
  | notIterable (kind : Text)
  /-- The list element at this position is no pair. -/
  | notPair (position : Nat)
  | wrongLength (position length : Nat)
  /-- A value of this kind cannot be a name. -/
  | badName (kind : Text)
  deriving Repr, DecidableEq

def LoadError.message : LoadError → Text
  | json e => e.message
  | notIterable kind => "'" ++ kind ++ "' object is not iterable"
  | notPair position => "cannot convert dictionary update sequence element #" ++ Text.ofNat position ++ " to a sequence"
  | wrongLength position length =>
    "dictionary update sequence element #" ++ Text.ofNat position ++ " has length " ++ Text.ofNat length
      ++ "; 2 is required"
  | badName kind => "unhashable type: '" ++ kind ++ "'"

namespace Value

/-- The elements of a value that is a sequence of some sort: items, code points or keys. -/
def elements? : Value → Option (List Value)
  | list items => some items
  | str s => some (s.map fun c => str [c])
  | object es => some (es.map fun e => str e.1)
  | _ => none

end Value

namespace Context

/-- The entry that the element at a position of a list of pairs stands for. -/
def pairOf (position : Nat) (v : Value) : Except LoadError (Key × Value) :=
  match v.elements? with
  | none => .error (.notPair position)
  | some [name, value] =>
    match name.key? with
    | some key => .ok (key, value)
    | none => .error (.badName name.kindName)
  | some vs => .error (.wrongLength position vs.length)

/-- The entries that a list of pairs stands for. -/
def pairsOf : Nat → List Value → Except LoadError (List (Key × Value))
  | _, [] => .ok []
  | i, v :: vs => do return (← pairOf i v) :: (← pairsOf (i + 1) vs)

/-- The mapping that a persisted value stands for. -/
def mappingOf (v : Value) : Except LoadError (Entries Key Value) :=
  if v.isFalsy then .ok []
  else match v with
    | .object es => .ok (Entries.toKeyed es)
    | v =>
      match v.elements? with
      | some vs => (pairsOf 0 vs).map Entries.ofPairs
      | none => .error (.notIterable v.kindName)

/-- The lines of a persisted history. -/
def historyOf (v : Value) : Except LoadError (List Text) :=
  if v.isFalsy then .ok []
  else match v.elements? with
    | some vs => .ok (vs.map Value.plain)
    | none => .error (.notIterable v.kindName)

/-- The flat mapping of a context. -/
def toFlat (c : Context) : Entries Key Value :=
  let es := c.vars.set historyKey c.historyValue
  let es := if c.currentNode.isNull then es else es.set currentNodeKey c.currentNode
  if c.waiting.isNull then es else es.set waitingKey c.waiting

/-- The context that a flat mapping stands for. -/
def ofEntries (es : Entries Key Value) : Except LoadError Context := do
  let history ← historyOf ((es.get? historyKey).getD .null)
  return {
    vars := ((es.erase historyKey).erase currentNodeKey).erase waitingKey
    history
    currentNode := (es.get? currentNodeKey).getD .null
    waiting := (es.get? waitingKey).getD .null }

/-- The context that a persisted value stands for. -/
def ofFlat (v : Value) : Except LoadError Context := do ofEntries (← mappingOf v)

/-- The flat mapping as an object, in which the texts of the keys stand for them. -/
def toObject (c : Context) : Value := .object c.toFlat.toObject

/-- The flat mapping as JSON text. Every mapping has one, where a writer with limits refuses integers of too many digits and
values that are nested too deep. -/
def toJson (c : Context) : Text := Json.writeKeyed c.toFlat

/-- The context that a JSON text stands for. -/
def ofJson (text : Text) : Except LoadError Context := do ofFlat (← (Json.read .standard text).mapError .json)

end Context

end Colloquy
