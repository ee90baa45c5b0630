import Colloquy.Entries
import Colloquy.Text.Basic

/-!
# Dynamic values

The values that flow authors and their users bring along: everything a JSON text can hold, with integers of any size
kept apart from floating-point numbers and with object entries in their written order.
-/

namespace Colloquy

inductive Value where
  | null
  | bool (b : Bool)
  | int (n : Int)
  | float (x : Float)
  | str (s : Text)
  | list (items : List Value)
  | object (entries : List (Text × Value))
  deriving Inhabited

namespace Value

/-- Null, false, zeros and empty texts, lists and objects count as absent where a default stands by. -/
def isFalsy : Value → Bool
  | null => true
  | bool b => !b
  | int n => n == 0
  | float x => x == 0.0
  | str s => s.isEmpty
  | list items => items.isEmpty
  | object entries => entries.isEmpty

def isNull : Value → Bool
  | null => true
  | _ => false

/-- The value unless it is null. -/
def nonNull? : Value → Option Value
  | null => none
  | v => some v

/-- A text, or null for none. -/
def ofText? : Option Text → Value
  | none => null
  | some s => str s

/-- The name of a value's kind, as error texts write it. -/
def kindName : Value → Text
  | null => "NoneType"
  | bool _ => "bool"
  | int _ => "int"
  | float _ => "float"
  | str _ => "str"
  | list _ => "list"
  | object _ => "dict"

end Value

/-- A text that is neither absent nor empty. -/
def nonEmpty? : Option Text → Option Text
  | some s => if s.isEmpty then none else some s
  | none => none

end Colloquy
