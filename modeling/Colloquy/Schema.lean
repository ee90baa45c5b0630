import Colloquy.Value
import Colloquy.Decimal.Binary
import Colloquy.Decimal.Read
import Colloquy.Text.Search

/-!
# Schemas

Reading typed records from dynamic values, leniently where editors are lenient: numbers and truth values may be written
as texts. A reading either gives a value or all the issues found, in the order of the fields, each with the path that
leads to it. A field is looked up under its editor name and, failing that, under its plain name; what no field used is
kept with the record.
-/

namespace Colloquy.Schema

/-! ## Readings -/

/-- What can be wrong with a value. -/
inductive Fault where
  | missing
  | notRecord
  | notText
  | notFlag
  | unreadableFlag
  | notWhole
  | unreadableWhole
  | fractional
  | notFinite
  | wholeTooLarge
  | notReal
  | unreadableReal
  | notChoice
  | notList
  | notTable
  /-- A text holds half a surrogate pair where characters are needed. -/
  | notUnicode
  deriving Repr, DecidableEq

/-- The code under which a fault is reported. -/
def Fault.code : Fault → Text
  | missing => "missing"
  | notRecord => "model_type"
  | notText => "string_type"
  | notFlag => "bool_type"
  | unreadableFlag => "bool_parsing"
  | notWhole => "int_type"
  | unreadableWhole => "int_parsing"
  | fractional => "int_from_float"
  | notFinite => "finite_number"
  | wholeTooLarge => "int_parsing_size"
  | notReal => "float_type"
  | unreadableReal => "float_parsing"
  | notChoice => "enum"
  | notList => "list_type"
  | notTable => "dict_type"
  | notUnicode => "string_unicode"

/-- A fault and the keys and positions that lead to the faulty value. -/
structure Issue where
  path : List Text
  fault : Fault
  deriving Repr, DecidableEq

def Issue.text (i : Issue) : Text := Text.joinWith "." i.path ++ ": " ++ i.fault.code

/-- The issues of a reading in one line. -/
def report (issues : List Issue) : Text := Text.joinWith "; " (issues.map Issue.text)

/-- A value read, or everything that was found wrong. -/
inductive Reading (α : Type) where
  | value (a : α)
  | issues (found : List Issue)

namespace Reading

variable {α β : Type}

def map (f : α → β) : Reading α → Reading β
  | value a => value (f a)
  | issues found => issues found

/-- Applies a function read to an argument read; the issues of both are kept. -/
def ap : Reading (α → β) → Reading α → Reading β
  | value f, value a => value (f a)
  | value _, issues found => issues found
  | issues found, value _ => issues found
  | issues found, issues more => issues (found ++ more)

instance : Applicative Reading where
  pure := value
  map := map
  seq f x := ap f (x ())

/-- The reading of a part, its issues put under the part's key. -/
def under (key : Text) : Reading α → Reading α
  | value a => value a
  | issues found => issues (found.map fun i => { i with path := key :: i.path })

def toExcept : Reading α → Except (List Issue) α
  | value a => .ok a
  | issues found => .error found

/-- A single fault at the value itself. -/
def fault (f : Fault) : Reading α := issues [⟨[], f⟩]

/-- Reads every element of a list, each under its position. -/
def sequence (read : Value → Reading α) : Nat → List Value → Reading (List α)
  | _, [] => value []
  | i, v :: vs => ap (map List.cons (under (Text.ofNat i) (read v))) (sequence read (i + 1) vs)

/-- Reads every entry of an object, each under its key. -/
def entries (read : Value → Reading α) : Entries Text Value → Reading (Entries Text α)
  | [] => value []
  | (k, v) :: es => ap (map (fun a rest => (k, a) :: rest) (under k (read v))) (entries read es)

end Reading

/-- Reads characters from a text, which must not hold half a surrogate pair. -/
def Reading.ofCharacters {α : Type} (read : Text → Reading α) (s : Text) : Reading α :=
  if s.isUnicode then read s else .fault .notUnicode

/-! ## Codecs -/

/-- How a typed value is read from a dynamic one and written as one. -/
structure Codec (α : Type) where
  read : Value → Reading α
  write : α → Value

namespace Codec

variable {α : Type}

def text : Codec Text where
  read
    | .str s => .value s
    | _ => .fault .notText
  write := .str

def trueWords : List Text := ["1", "t", "true", "y", "yes", "on"]

def falseWords : List Text := ["0", "f", "false", "n", "no", "off"]

/-- The integers of 64 bits are those below this one and not below its negation. -/
def wordBound : Int := 9223372036854775808

/-- The flag that a number stands for. -/
def flagOfWhole (n : Int) : Reading Bool :=
  if n = 0 then .value false
  else if n = 1 then .value true
  else if -wordBound ≤ n ∧ n < wordBound then .fault .unreadableFlag
  else .fault .notFlag

/-- The flag that a word stands for, whatever the case of its letters. -/
def flagOfText (s : Text) : Reading Bool :=
  let word := s.map CodePoint.toLower
  if word ∈ trueWords then .value true
  else if word ∈ falseWords then .value false
  else .fault .unreadableFlag

def flag : Codec Bool where
  read
    | .bool b => .value b
    | .int n => flagOfWhole n
    | .float x =>
      match (Decimal.Parts.ofFloat x).whole? with
      | some n => if -wordBound < n then flagOfWhole n else .fault .notFlag
      | none => .fault .notFlag
    | .str s => .ofCharacters flagOfText s
    | _ => .fault .notFlag
  write := .bool

/-- The integer that a lenient text denotes. -/
def wholeOfText (s : Text) : Reading Int :=
  match Decimal.readInt s with
  | .ok n => .value n
  | .error .unreadable => .fault .unreadableWhole
  | .error .tooLong => .fault .wholeTooLarge

def whole : Codec Int where
  read
    | .int n => .value n
    | .bool b => .value (if b then 1 else 0)
    | .float x =>
      let parts := Decimal.Parts.ofFloat x
      match parts, parts.whole? with
      | .finite .., some n => if -wordBound < n ∧ n < wordBound then .value n else .fault .wholeTooLarge
      | .finite .., none => .fault .fractional
      | _, _ => .fault .notFinite
    | .str s => .ofCharacters wholeOfText s
    | _ => .fault .notWhole
  write := .int

/-- The floating-point number that a lenient text denotes. -/
def realOfText (s : Text) : Reading Float :=
  match Decimal.readFloat? s with
  | some x => .value x
  | none => .fault .unreadableReal

def real : Codec Float where
  read
    | .float x => .value x
    | .int n =>
      match Decimal.divide? n 1 with
      | some x => .value x
      | none => .fault .notReal
    | .bool b => .value (if b then 1.0 else 0.0)
    | .str s => .ofCharacters realOfText s
    | _ => .fault .notReal
  write := .float

/-- One of several named values, under its exact name. -/
def choice (all : List α) (name : α → Text) : Codec α where
  read
    | .str s => .ofCharacters named s
    | _ => .fault .notChoice
  write a := .str (name a)
where
  /-- The value with a name. -/
  named (s : Text) : Reading α :=
    match all.find? fun a => name a == s with
    | some a => .value a
    | none => .fault .notChoice

def list (c : Codec α) : Codec (List α) where
  read
    | .list items => Reading.sequence c.read 0 items
    | _ => .fault .notList
  write as := .list (as.map c.write)

def table (c : Codec α) : Codec (Entries Text α) where
  read
    | .object es => Reading.entries c.read es
    | _ => .fault .notTable
  write es := .object (es.mapValues c.write)

/-- Null for none. -/
def optional (c : Codec α) : Codec (Option α) where
  read
    | .null => .value none
    | v => (c.read v).map some
  write
    | none => .null
    | some a => c.write a

end Codec

/-! ## Fields and records -/

/-- A field of a record: its editor name, its plain name, its codec, and its value when it is not given. -/
structure FieldSpec (α : Type) where
  key : Text
  plainKey : Text
  codec : Codec α
  absent : Option α

namespace FieldSpec

variable {α : Type}

def required (key plainKey : Text) (c : Codec α) : FieldSpec α := ⟨key, plainKey, c, none⟩

def withDefault (key plainKey : Text) (c : Codec α) (a : α) : FieldSpec α := ⟨key, plainKey, c, some a⟩

def optional (key plainKey : Text) (c : Codec α) : FieldSpec (Option α) := ⟨key, plainKey, c.optional, some none⟩

/-- The field's value in a record, looked up under the editor name first. -/
def read (f : FieldSpec α) (es : Entries Text Value) : Reading α :=
  match es.get? f.key with
  | some v => (f.codec.read v).under f.key
  | none =>
    match es.get? f.plainKey with
    | some v => (f.codec.read v).under f.plainKey
    | none =>
      match f.absent with
      | some a => .value a
      | none => .issues [⟨[f.key], .missing⟩]

/-- The field's two names. -/
def names (f : FieldSpec α) : Text × Text := (f.key, f.plainKey)

/-- The field's written entry. -/
def entry (f : FieldSpec α) (a : α) : Text × Value := (f.key, f.codec.write a)

end FieldSpec

/-- The entries that no field of the given names used. -/
def extras (fields : List (Text × Text)) (es : Entries Text Value) : Entries Text Value :=
  es.filter fun e => !fields.any fun (key, plainKey) =>
    e.1 == key || (e.1 == plainKey && (es.get? key).isNone)

/-- Written fields followed by the extras, nulls left out. -/
def wire (fields extras : Entries Text Value) : Entries Text Value := (fields ++ extras).filter fun e => !e.2.isNull

/-- Reads a record from an object, whose keys must not hold half a surrogate pair. -/
def readRecord {α : Type} (read : Entries Text Value → Reading α) : Value → Reading α
  | .object es => if es.all (·.1.isUnicode) then read es else .fault .notUnicode
  | _ => .fault .notRecord

end Colloquy.Schema
