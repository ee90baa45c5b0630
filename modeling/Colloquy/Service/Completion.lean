import Colloquy.Service.World
import Colloquy.Settings

/-!
# The completion service

The client behind the model: it asks a completion service, which answers with a list of choices. Rate limits and lost
connections are tried again after a pause while attempts are left; a time-out and any other failure end the call. An
answer is the first choice, and it is never blank.
-/

namespace Colloquy.Completion

/-- What comes back for one call of the service. -/
inductive Outcome where
  | choices (contents : List (Option Text))
  | rateLimited (message : Text)
  | disconnected (message : Text)
  | timedOut
  /-- The service refused the call otherwise. -/
  | rejected (message : Text)
  | crashed (c : Crash) (message : Text)

/-- What comes back when the script is used up. -/
def Outcome.exhausted : Outcome := .rejected "No scripted answer left"

/-- Why a prompt got no answer. -/
inductive Failure where
  /-- The service could not produce an answer. -/
  | failed (message : Text)
  | timedOut (message : Text)
  /-- The service answered with something unusable. -/
  | unusable (message : Text)
  | crashed (c : Crash) (message : Text)
  deriving Repr, DecidableEq

def Failure.message : Failure → Text
  | failed message | timedOut message | unusable message => message
  | crashed _ message => message

/-- How the client calls the service. Numbers keep the kind in which they were given. -/
structure Options where
  model : Value
  temperature : Value
  maxTokens : Value
  timeout : Value
  maxRetries : Int

def Options.default : Options := ⟨.str "gpt-4o-mini", .float 0.3, .int 512, .float 30.0, 2⟩

/-- The options that settings stand for; without a key there is no client. -/
def Options.ofSettings? (s : Settings) : Option Options :=
  (nonEmpty? s.apiKey).map fun _ =>
    ⟨.str s.model, .float s.temperature, .int s.maxTokens, .float s.modelTimeout, s.maxRetries⟩

/-- The arguments of a call of the service. -/
def Options.call (o : Options) (prompt : Text) : Value :=
  .object [("model", o.model),
    ("messages", .list [.object [("role", .str "user"), ("content", .str prompt)]]),
    ("temperature", o.temperature), ("max_tokens", o.maxTokens), ("timeout", o.timeout)]

/-- The answer in a list of choices. -/
def answerOf (contents : List (Option Text)) : Except Failure Text :=
  match contents with
  | [] => .error (.unusable "Model returned no choices")
  | content :: _ =>
    let text := content.getD ""
    if (Text.trim text).isEmpty then .error (.unusable "Model returned an empty response") else .ok text

/-- The pauses, calls and result of one prompt, and the script left. -/
structure Run where
  result : Except Failure Text
  calls : Nat
  sleeps : List Pause
  rest : List Outcome

/-- The pause after a failed attempt, if another one follows. -/
def pauseBefore (left : Nat) (p : Pause) : List Pause := if left = 0 then [] else [p]

/-- Calls the service while it asks to be tried again and attempts are left; `made` calls were made before, the last of
which failed with `last`. -/
def attempt (o : Options) : Nat → Nat → List Pause → Text → List Outcome → Run
  | 0, made, sleeps, last, script =>
    let message := "Model call failed after " ++ Text.ofInt (o.maxRetries + 1) ++ " attempts: " ++ last
    ⟨.error (.failed message), made, sleeps, script⟩
  | left + 1, made, sleeps, _, script =>
    let finish (result : Except Failure Text) : Run := ⟨result, made + 1, sleeps, script.tail⟩
    match script.headD .exhausted with
    | .choices contents => finish (answerOf contents)
    | .timedOut => finish (.error (.timedOut ("Model call timed out after " ++ o.timeout.plain ++ "s")))
    | .rateLimited message =>
      attempt o left (made + 1) (sleeps ++ pauseBefore left (.whole (made + 1))) message script.tail
    | .disconnected message => attempt o left (made + 1) (sleeps ++ pauseBefore left (.exact 0.5)) message script.tail
    | .rejected message => finish (.error (.failed ("Model call failed: " ++ message)))
    | .crashed c message => finish (.error (.crashed c message))

/-- The answer to a prompt. -/
def generate (o : Options) (script : List Outcome) : Run := attempt o (o.maxRetries + 1).toNat 0 [] "None" script

end Colloquy.Completion
