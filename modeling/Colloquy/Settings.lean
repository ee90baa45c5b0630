import Colloquy.Schema
import Colloquy.Text.Case

/-!
# Engine settings

Settings come from the environment, as texts, and from overrides, which win. Names are told apart without regard to
case; a name that is no setting is ignored.
-/

namespace Colloquy

structure Settings where
  appName : Text
  debug : Bool
  logLevel : Text
  apiKey : Option Text
  model : Text
  temperature : Float
  maxTokens : Int
  /-- Seconds that a call of the model may take. -/
  modelTimeout : Float
  maxRetries : Int
  /-- Nodes that a turn may visit. -/
  maxSteps : Int
  /-- Upper bound for a single wait, in milliseconds. -/
  waitMaxMs : Int
  validateOnLoad : Bool
  knowledgeFallback : Text
  apiTimeoutMs : Int

namespace Settings

namespace Fields

open Schema

/-- A setting: it goes by one name and has a default. -/
def setting {α : Type} (name : Text) (c : Codec α) (a : α) : FieldSpec α := .withDefault name name c a

def appName := setting "APP_NAME" .text "Agent Flow Engine"
def debug := setting "DEBUG" .flag false
def logLevel := setting "LOG_LEVEL" .text "INFO"
def apiKey : FieldSpec (Option Text) := .optional "OPENAI_API_KEY" "OPENAI_API_KEY" .text
def model := setting "OPENAI_MODEL" .text "gpt-4o-mini"
def temperature := setting "REASONING_TEMPERATURE" .real 0.3
def maxTokens := setting "REASONING_MAX_TOKENS" .whole 512
def modelTimeout := setting "REASONING_TIMEOUT_SECONDS" .real 30.0
def maxRetries := setting "REASONING_MAX_RETRIES" .whole 2
def maxSteps := setting "FLOW_MAX_STEPS" .whole 20
def waitMaxMs := setting "WAIT_MAX_MS" .whole 60000
def validateOnLoad := setting "VALIDATE_ON_LOAD" .flag true
def knowledgeFallback :=
  setting "KNOWLEDGE_FALLBACK_TEXT" .text "Sorry, I couldn't find an answer to that in my knowledge base."
def apiTimeoutMs := setting "API_CALL_DEFAULT_TIMEOUT_MS" .whole 10000

/-- The names of all settings, in order. -/
def names : List Text :=
  [appName.key, debug.key, logLevel.key, apiKey.key, model.key, temperature.key, maxTokens.key, modelTimeout.key,
    maxRetries.key, maxSteps.key, waitMaxMs.key, validateOnLoad.key, knowledgeFallback.key, apiTimeoutMs.key]

end Fields

open Schema in
/-- Settings from values under their proper names. -/
def ofEntries (es : Entries Text Value) : Reading Settings :=
  Settings.mk <$> Fields.appName.read es <*> Fields.debug.read es <*> Fields.logLevel.read es
    <*> Fields.apiKey.read es <*> Fields.model.read es <*> Fields.temperature.read es <*> Fields.maxTokens.read es
    <*> Fields.modelTimeout.read es <*> Fields.maxRetries.read es <*> Fields.maxSteps.read es
    <*> Fields.waitMaxMs.read es <*> Fields.validateOnLoad.read es <*> Fields.knowledgeFallback.read es
    <*> Fields.apiTimeoutMs.read es

/-- The proper name of a setting, given in any case. -/
def properName? (name : Text) : Option Text := Fields.names.find? fun n => Text.lower n == Text.lower name

/-- The values given for settings, under their proper names; of several for one setting the last wins. -/
def gather (given : Entries Text Value) : Entries Text Value :=
  given.foldl (fun es e =>
    match properName? e.1 with
    | some name => es.set name e.2
    | none => es) []

/-- Settings from environment variables and overrides. Of several environment variables for one setting the last counts,
of several overrides the first. -/
def load (environment : Entries Text Text) (overrides : Entries Text Value) : Schema.Reading Settings :=
  ofEntries (gather (environment.mapValues .str ++ overrides.reverse))

/-- Settings when nothing is given. -/
def default : Settings where
  appName := "Agent Flow Engine"
  debug := false
  logLevel := "INFO"
  apiKey := none
  model := "gpt-4o-mini"
  temperature := 0.3
  maxTokens := 512
  modelTimeout := 30.0
  maxRetries := 2
  maxSteps := 20
  waitMaxMs := 60000
  validateOnLoad := true
  knowledgeFallback := "Sorry, I couldn't find an answer to that in my knowledge base."
  apiTimeoutMs := 10000

/-- All settings by name. -/
def entries (s : Settings) : Entries Text Value :=
  [Fields.appName.entry s.appName, Fields.debug.entry s.debug, Fields.logLevel.entry s.logLevel,
    Fields.apiKey.entry s.apiKey, Fields.model.entry s.model, Fields.temperature.entry s.temperature,
    Fields.maxTokens.entry s.maxTokens, Fields.modelTimeout.entry s.modelTimeout,
    Fields.maxRetries.entry s.maxRetries, Fields.maxSteps.entry s.maxSteps, Fields.waitMaxMs.entry s.waitMaxMs,
    Fields.validateOnLoad.entry s.validateOnLoad, Fields.knowledgeFallback.entry s.knowledgeFallback,
    Fields.apiTimeoutMs.entry s.apiTimeoutMs]

end Settings

end Colloquy
