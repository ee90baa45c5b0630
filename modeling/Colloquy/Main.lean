import Colloquy.Console.Session

/-!
# The console program

Chats with a flow definition from the terminal. No model and no services are connected here, so nodes that need them
take their failure routes.
-/

open Colloquy Colloquy.Console

namespace Colloquy.Console

def usage : String := "usage: colloquy FLOW [--knowledge FILE] [--persona TEXT] [--debug]"

/-- The text of the file to which a path leads. -/
def fileText (path : Text) : IO Text := do return ← IO.FS.readFile path.display

def StartFailure.text : StartFailure → Text
  | unopened _ => "no such file"
  | json .malformed => "not a JSON text"
  | json e => e.message
  | invalid issues => Schema.report issues
  | notIterable kind => "'" ++ kind ++ "' object is not iterable"

/-- Sleeps as long as the journal says. -/
def sleepThrough (w : World) : IO Unit :=
  w.journal.sleeps.forM fun
    | .whole seconds => IO.sleep (1000 * seconds.toNat).toUInt32
    | .exact seconds => IO.sleep (seconds * 1000.0).toUInt32

/-- Feeds lines from standard input until the session ends. -/
partial def converse (debug : Bool) : Except TurnRefusal (Text × State) → IO UInt32
  | .error _ => return 1
  | .ok (out, state) => do
    let output ← IO.getStdout
    match state with
    | .ended code w _ =>
      sleepThrough w
      output.putStr out.display
      return code.toUInt32
    | .reading c w =>
      sleepThrough w
      output.putStr out.display
      output.flush
      let line ← (← IO.getStdin).getLine
      let input := if line.isEmpty then none else some (Text.ofString (line.dropEndWhile (· == '\n')).toString)
      converse debug (feed debug c w.turnPage input)

/-- Reads the files a command line names and holds the session. -/
def chat (line : CommandLine) : IO UInt32 := do
  let refuse (e : StartFailure) : IO UInt32 := do
    IO.eprintln e.text.display
    return 1
  match readFlow (← fileText line.flow) with
  | .error e => refuse e
  | .ok d =>
    let items ← match nonEmpty? line.knowledge with
      | some path => pure (readKnowledge (← fileText path))
      | none => pure (.ok [])
    match items with
    | .error e => refuse e
    | .ok items => converse line.debug (begin line.debug (conversation d items line.persona) ⟨[], [], .empty⟩)

end Colloquy.Console

def main (args : List String) : IO UInt32 :=
  match readArguments (args.map .ofString) with
  | .chat line => chat line
  | .help => do
    IO.println usage
    return 0
  | .misuse => do
    IO.eprintln usage
    return 2
