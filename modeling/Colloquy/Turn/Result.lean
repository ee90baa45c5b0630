import Colloquy.Context.Flat

/-!
# Turn results

What a turn gives back: the messages for the user, a log for the author, the conversation's context, how the turn ended,
and the node to resume at.
-/

namespace Colloquy

inductive Status where
  | waiting
  | finished
  | halted
  | error
  | idle
  deriving Repr, DecidableEq

def Status.name : Status → Text
  | waiting => "waiting_input"
  | finished => "finished"
  | halted => "halted"
  | error => "error"
  | idle => "idle"

structure TurnResult where
  context : Context
  messages : List Text
  debugLog : List Text
  next : Option Text
  error : Option Text
  finished : Bool
  status : Status

namespace TurnResult

def isSuccess (r : TurnResult) : Bool := r.error.isNone

def isWaiting (r : TurnResult) : Bool := r.status == .waiting

def isHalted (r : TurnResult) : Bool := r.status == .halted

/-- What a result tells beside the context. -/
def report (r : TurnResult) : Entries Text Value :=
  let optional (key : Text) (v : Option Text) : Entries Text Value := (v.map fun s => (key, .str s)).toList
  let fixed : Entries Text Value :=
    [("messagesToSend", .list (r.messages.map .str)), ("debugLog", .list (r.debugLog.map .str)),
      ("isFlowFinished", .bool r.finished), ("status", .str r.status.name)]
  fixed ++ optional "nextNodeId" r.next ++ optional "error" r.error

/-- The result in the form in which it is relayed. -/
def entries (r : TurnResult) : Entries Text Value := r.report.concat ("updatedContext", r.context.toObject)

/-- A summary in one line. -/
def summary (r : TurnResult) : Text :=
  let state := match r.error with
    | none => "OK"
    | some e => "ERROR: " ++ e
  "FlowResult(" ++ r.status.name ++ ", messages=" ++ Text.ofNat r.messages.length ++ ", next="
    ++ (Value.ofText? r.next).plain ++ ", status=" ++ state ++ ")"

end TurnResult

end Colloquy
