import Colloquy.Decimal.Nearest
import Colloquy.Service.Http

/-!
# The outside world

Everything a conversation touches outside itself: the model, the services it sends requests to, and the clock. The world
is a script of what will come back and a journal of what went out. A turn is a function of the world, and two turns in
equal worlds are equal.
-/

namespace Colloquy

/-- A span of sleep in seconds. -/
inductive Pause where
  | whole (seconds : Int)
  | exact (seconds : Float)

def Pause.toValue : Pause → Value
  | whole n => .int n
  | exact x => .float x

/-- A failure of a program and not of the model, by the name of its kind. -/
structure Crash where
  name : Text
  deriving Repr, DecidableEq

namespace Crash

/-- A value that does not fit. -/
def value : Crash := ⟨"ValueError"⟩

/-- Any failure without a kind of its own. -/
def runtime : Crash := ⟨"RuntimeError"⟩

/-- A failed look-up. -/
def key : Crash := ⟨"KeyError"⟩

/-- What a crash says: nothing without a message; the message of a failed look-up is its quoted key. -/
def text (c : Crash) : Option Text → Text
  | none => ""
  | some message => if c = key then Text.quoted message else message

end Crash

/-- What comes back for one prompt. -/
inductive ModelReply where
  | answer (text : Text)
  /-- The model gave no usable answer, for this reason. -/
  | refused (message : Text)
  | crashed (c : Crash) (message : Option Text)
  /-- No answer in any time. -/
  | silent

/-- What comes back when the script is used up. -/
def ModelReply.exhausted : ModelReply := .refused "No scripted answer left"

/-- What went out: prompts received by the model, sleeps, requests sent, and clients closed. -/
structure Journal where
  prompts : List Text
  sleeps : List Pause
  requests : List Http.Request
  closed : Nat

def Journal.empty : Journal := ⟨[], [], [], 0⟩

structure World where
  replies : List ModelReply
  outcomes : List Http.Outcome
  journal : Journal

namespace World

/-- The world with a fresh journal. -/
def turnPage (w : World) : World := { w with journal := .empty }

/-- Sends a prompt to the model. -/
def ask (w : World) (prompt : Text) : ModelReply × World :=
  (w.replies.headD .exhausted,
    { w with replies := w.replies.tail, journal := { w.journal with prompts := w.journal.prompts ++ [prompt] } })

/-- Sleeps. -/
def sleep (w : World) (p : Pause) : World :=
  { w with journal := { w.journal with sleeps := w.journal.sleeps ++ [p] } }

/-- Sends a request, again after transport failures. An own client is made for it and closed after it. -/
def send (w : World) (request : Http.Request) (retries : Int) (ownClient : Bool) :
    Except (Http.Breakdown × Text) Http.CallResult × World :=
  let exchange := Http.attempt (Http.attemptsFor retries) 0 none w.outcomes
  (exchange.result,
    { w with
      outcomes := exchange.rest
      journal := { w.journal with
        requests := w.journal.requests ++ List.replicate exchange.sent request
        closed := w.journal.closed + if ownClient then 1 else 0 } })

end World

end Colloquy
