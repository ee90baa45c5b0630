import Colloquy.Text.Case
import Colloquy.Value.Text

/-!
# Requests to outside services

One request, sent again while the transport fails and attempts are left. An answer with an error status is an answer and
is not tried again. What the client does is a script of outcomes, one for each request sent; when the script is used up,
every further request fails.
-/

namespace Colloquy.Http

/-- What a request carries. -/
inductive Body where
  /-- A list or an object, to be sent as JSON text. -/
  | json (v : Value)
  /-- Raw text. -/
  | content (text : Text)
  /-- The conversation's history itself, to be sent as JSON text, with the lines that it has when the request is made. The
  request shares it with the conversation, so whoever looks at the request later sees the lines added since. -/
  | history {lines : List Text}

/-- The body that a value makes; null makes none. -/
def Body.ofValue? : Value → Option Body
  | .null => none
  | .list items => some (.json (.list items))
  | .object es => some (.json (.object es))
  | v => some (.content v.plain)

structure Request where
  method : Text
  url : Text
  headers : Entries Text Text
  timeout : Value
  body : Option Body

/-- Failures that are no transport failures: they end the exchange and are passed on. -/
inductive Breakdown where
  | invalidUrl
  | cookieConflict
  | internal
  deriving Repr, DecidableEq

/-- What comes back for one request. -/
inductive Outcome where
  | reply (status : Int) (text : Text)
  /-- The transport failed; `kind` names the failure. -/
  | failed (kind message : Text)
  | broken (b : Breakdown) (message : Text)

/-- What comes back when the script is used up. -/
def Outcome.exhausted : Outcome := .failed "ConnectError" "No scripted response left"

/-- The result of an exchange that did not break down. -/
structure CallResult where
  success : Bool
  status : Option Int
  text : Text
  error : Option Text
  attempts : Nat

/-- The most characters of a reply that are kept. -/
def maxReplyChars : Nat := 10000

/-- The result of a reply to the given attempt. -/
def CallResult.ofReply (status : Int) (text : Text) (attempts : Nat) : CallResult where
  success := status < 400
  status := some status
  text := text.take maxReplyChars
  error := if status < 400 then none else some ("HTTP " ++ Text.ofInt status)
  attempts := attempts

/-- The result when every attempt failed. -/
def CallResult.ofFailure (error : Option Text) (attempts : Nat) : CallResult := ⟨false, none, "", error, attempts⟩

/-- The text of a transport failure: its message, or its kind if it has none. -/
def failureText (kind message : Text) : Text := if message.isEmpty then kind else message

/-- How an exchange went: its result or breakdown, the number of requests sent, and the script left. -/
structure Exchange where
  result : Except (Breakdown × Text) CallResult
  sent : Nat
  rest : List Outcome

/-- Sends a request while the transport fails and attempts are left; `made` attempts failed before, the last of them
with `error`. -/
def attempt : Nat → Nat → Option Text → List Outcome → Exchange
  | 0, made, error, script => ⟨.ok (.ofFailure error made), made, script⟩
  | left + 1, made, _, script =>
    match script.headD .exhausted with
    | .reply status text => ⟨.ok (.ofReply status text (made + 1)), made + 1, script.tail⟩
    | .failed kind message => attempt left (made + 1) (some (failureText kind message)) script.tail
    | .broken b message => ⟨.error (b, message), made + 1, script.tail⟩

/-- The attempts that a number of retries allows: at least one. -/
def attemptsFor (retries : Int) : Nat := retries.toNat + 1

/-- Requests with these methods carry no body. -/
def bodyless (method : Text) : Bool := method == "GET" || method == "DELETE"

/-- The request to send; no method or an empty one means GET. -/
def Request.make (url : Text) (method : Option Text) (headers : Entries Text Text) (body : Option Body)
    (timeout : Value) : Request :=
  let method := Text.upper ((nonEmpty? method).getD "GET")
  ⟨method, url, headers, timeout, if bodyless method then none else body⟩

/-- The default time-out of a request, in seconds. -/
def defaultTimeout : Value := .float 10.0

end Colloquy.Http
