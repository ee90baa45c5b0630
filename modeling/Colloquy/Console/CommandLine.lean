import Colloquy.Text.Class

/-!
# Command line of the console

`FLOW [--knowledge FILE] [--persona TEXT] [--debug]`. Long options may be cut short as long as they stay unambiguous,
and take their value after an equals sign or as the next argument. After a lone `--` every argument is a value; written
as the value after an equals sign it takes back what the switch was given.
-/

namespace Colloquy.Console

structure CommandLine where
  flow : Text
  knowledge : Option Text
  persona : Option Text
  debug : Bool
  deriving Repr, DecidableEq

/-- What the arguments ask for. -/
inductive Request where
  | chat (c : CommandLine)
  | help
  | misuse
  deriving Repr, DecidableEq

inductive Switch where
  | help
  | knowledge
  | persona
  | debug
  deriving Repr, DecidableEq

def Switch.longName : Switch → Text
  | help => "--help"
  | knowledge => "--knowledge"
  | persona => "--persona"
  | debug => "--debug"

def Switch.all : List Switch := [help, knowledge, persona, debug]

/-- An argument by its form. -/
inductive Token where
  | value (s : Text)
  | separator
  /-- A switch, with the value written after its equals sign. -/
  | switch (s : Switch) (inline : Option Text)
  /-- The short help switch, with what is written after it. -/
  | shortHelp (rest : Text)
  | unknown
  deriving Repr, DecidableEq

/-- Whether a text reads as a negative number, in the digits of any script; the text may end its line. -/
def looksNegative (t : Text) : Bool :=
  let line := if t.getLast? = some (.char '\n') then t.dropLast else t
  match line with
  | .char '-' :: rest =>
    let whole := rest.takeWhile Text.isDecimalDigit
    match rest.dropWhile Text.isDecimalDigit with
    | [] => !whole.isEmpty
    | .char '.' :: fraction => !fraction.isEmpty && fraction.all Text.isDecimalDigit
    | _ => false
  | _ => false

/-- The form of an argument that starts with a dash but names no switch. -/
def dashed (t : Text) : Token := if looksNegative t || t.contains (.char ' ') then .value t else .unknown

/-- The form of an argument before any separator; none when it could mean several switches. -/
def tokenOf (t : Text) : Option Token :=
  match t with
  | .char '-' :: .char '-' :: rest =>
    if rest.isEmpty then some .separator
    else
      let name := t.takeWhile (· ≠ .char '=')
      let inline := match t.dropWhile (· ≠ .char '=') with
        | [] => none
        | _ :: text => some text
      match Switch.all.filter fun w => name.isPrefixOf w.longName with
      | [] => some (dashed t)
      | [w] => some (.switch w inline)
      | _ => none
  | .char '-' :: .char 'h' :: rest => some (.shortHelp rest)
  | .char '-' :: _ :: _ => some (dashed t)
  | _ => some (.value t)

/-- The forms of all arguments. -/
def tokens : List Text → Option (List Token)
  | [] => some []
  | s :: rest =>
    match tokenOf s with
    | none => none
    | some .separator => some (.separator :: rest.map .value)
    | some t => (tokens rest).map (t :: ·)

/-- What has been read so far. -/
structure Draft where
  flow : Option Text
  knowledge : Option Text
  persona : Option Text
  debug : Bool
  /-- Something was given that has no place. -/
  surplus : Bool

def Draft.finish (d : Draft) : Request :=
  match d.flow with
  | some flow => if d.surplus then .misuse else .chat ⟨flow, d.knowledge, d.persona, d.debug⟩
  | none => .misuse

/-- The value of a switch that is written after its equals sign. -/
def inlineValue (t : Text) : Option Text := if t = "--" then none else some t

/-- Reads arguments in order. -/
def readTokens (d : Draft) : List Token → Request
  | [] => d.finish
  | .value s :: rest =>
    if d.flow.isNone then
      match rest with
      | .separator :: rest => readTokens { d with flow := some s } rest
      | rest => readTokens { d with flow := some s } rest
    else readTokens { d with surplus := true } rest
  | .separator :: rest => readTokens { d with surplus := d.surplus || d.flow.isSome } rest
  | .unknown :: rest => readTokens { d with surplus := true } rest
  | .shortHelp more :: _ => if more.all (· == .char 'h') then .help else .misuse
  | .switch .help inline :: _ => if inline.isNone then .help else .misuse
  | .switch .debug inline :: rest => if inline.isNone then readTokens { d with debug := true } rest else .misuse
  | .switch .knowledge (some s) :: rest => readTokens { d with knowledge := inlineValue s } rest
  | .switch .persona (some s) :: rest => readTokens { d with persona := inlineValue s } rest
  | .switch .knowledge none :: .value s :: rest => readTokens { d with knowledge := some s } rest
  | .switch .persona none :: .value s :: rest => readTokens { d with persona := some s } rest
  | .switch _ none :: _ => .misuse

/-- What the arguments ask for. -/
def readArguments (args : List Text) : Request :=
  match tokens args with
  | some ts => readTokens ⟨none, none, none, false, false⟩ ts
  | none => .misuse

end Colloquy.Console
