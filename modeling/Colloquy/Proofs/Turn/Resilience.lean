import Colloquy.Proofs.Flow.Bare
import Colloquy.Proofs.Json.Digits
import Colloquy.Proofs.Turn.Showable

/-!
# What a turn rides out

The model and the services cannot make a turn fail. A node that calls the model goes on along the same edge whether the
model answers or not, and a failed call leaves the conversation as it was (`Node.passesModel`). A service that replies, or
that cannot be reached, is met with an edge. What is left are the errors that the interpreter reports of its own
(`OwnError`) and one more: a node may be given more than it can take, and then the turn fails with the text of that
fault (`Interpreter.ownError_iff`). A header text or a body with too long an integer is such a case
(`Interpreter.foreignError_courier`). All this is said of turns whose values can be written out (`Interpreter.Showable`), as
writing never fails here.
-/

namespace Colloquy

/-! ## Errors of the interpreter's own -/

/-- No error, or one that the interpreter reports of its own. -/
inductive OwnError : Option Text → Prop
  | none : OwnError none
  | noStart : OwnError (some "No start node found or specified.")
  | unknownNode (id : Text) : OwnError (some ("Node with ID " ++ id ++ " not found."))
  | outOfSteps : OwnError (some "Flow execution exceeded maximum steps.")

/-- The errors of the interpreter's own begin with one of two letters. -/
theorem OwnError.head_mem {text : Text} (h : OwnError (some text)) :
    text.head? ∈ [some (.char 'N'), some (.char 'F')] := by
  cases h with
  | noStart | outOfSteps => decide
  | unknownNode => exact List.mem_cons_self

theorem Fault.not_ownError_spanTooLarge : ¬OwnError (Ending.failed .spanTooLarge).error? :=
  fun h => absurd h.head_mem (by decide)

theorem Fault.not_ownError_json (e : Json.ReadError) : ¬OwnError (Ending.failed (.json e)).error? := by
  intro h
  have first := h.head_mem
  cases e with
  | malformed => exact absurd first (by decide)
  | tooManyDigits =>
    have head : some (CodePoint.char 'E') ∈ [some (.char 'N'), some (.char 'F')] := first
    exact absurd head (by decide)
  | tooDeep =>
    have head : some (CodePoint.char 'm') ∈ [some (.char 'N'), some (.char 'F')] := first
    exact absurd head (by decide)

/-- The walk looked for nodes by texts only. -/
def Ending.Textual : Ending → Prop
  | unknownNode v => ∃ id, v = .str id
  | unusableId _ => False
  | _ => True

theorem Ending.Textual.ownError {ending : Ending} (h : ending.Textual) (hf : ∀ f, ending ≠ .failed f) :
    OwnError ending.error? := by
  cases ending with
  | waiting | finished | halted | idle => exact .none
  | noStart => exact .noStart
  | outOfSteps => exact .outOfSteps
  | unknownNode v =>
    obtain ⟨id, rfl⟩ := h
    exact .unknownNode id
  | unusableId => exact h.elim
  | failed f => exact absurd rfl (hf f)

/-- A walk that enters the flow by a text goes on by texts. -/
theorem Walk.tracks_textual (d : Definition) (input : TurnInput) :
    Walk.Tracks d input (fun v _ => ∃ id, v = .str id) (fun ending _ => ending.Textual) where
  idle _ := trivial
  outOfSteps _ _ := trivial
  unknownNode _ _ hv := hv
  unusableId hk hv := by
    obtain ⟨id, rfl⟩ := hv
    cases hk
  failed _ _ _ _ := trivial
  follows _ _ _ _ _ := ⟨_, rfl⟩
  waits _ _ _ _ _ := trivial
  finishes _ _ _ _ _ := trivial
  halts _ _ _ _ _ := trivial

theorem Interpreter.entry_textual {it : Interpreter} {c : Context} {startNode : Option Text} {entry : Value}
    (hc : c.waiting = .null ∨ ∃ id, c.waiting = .str id) (h : it.entry c startNode = some entry) :
    ∃ id, entry = .str id := by
  unfold Interpreter.entry at h
  split at h
  · exact ⟨_, (Option.some.inj h).symm⟩
  · split at h
    · obtain ⟨n, -, h⟩ := Option.bind_eq_some_iff.mp h
      obtain ⟨id, -, rfl⟩ := Option.map_eq_some_iff.mp h
      exact ⟨id, rfl⟩
    next hw =>
      cases h
      refine hc.resolve_left fun hnull => ?_
      rw [hnull] at hw
      exact hw rfl

/-! ## Calls of the model -/

namespace Node

variable {d : Definition} {n : Node} {input : TurnInput} {s : Scene}

/-- The call of the model fails, for whatever reason. -/
def ModelFails (n : Node) (input : TurnInput) (s : Scene) : Prop :=
  ∃ template reason, nonEmpty? n.llmPrompt = some template ∧
    (Model.generate input.settings s.world (n.modelPrompt input template s.context)).1 = .error reason

/-- A model node whose variable is not reserved leaves, whatever the model does; when the model fails, the conversation is
as it was. -/
theorem runCallModel_eq_leave (input : TurnInput) (s : Scene) (hk : n.kind? = some .callModel)
    (free : ∀ key, n.target? = some key → key ∉ Context.reservedKeys) :
    ∃ s' note, n.runCallModel input s = input.leave n s' note none ∧ s'.context.history = s.context.history ∧
      (n.ModelFails input s → s'.context = s.context) := by
  unfold runCallModel
  split
  next template output hp ho =>
    split
    next answer w hg =>
      unfold Scene.store
      split
      next c hs =>
        obtain ⟨-, rfl⟩ := Context.setVariable_eq_ok hs
        refine ⟨_, _, rfl, rfl, ?_⟩
        rintro ⟨template', reason, hp', hf⟩
        cases hp.symm.trans hp'
        rw [hg] at hf
        cases hf
      next hs =>
        obtain ⟨hm, -⟩ := Context.setVariable_eq_error hs
        exact absurd hm (free output (by simp [target?, hk, ho]))
    next => exact ⟨_, _, rfl, rfl, fun _ => rfl⟩
  next => exact ⟨s, _, rfl, rfl, fun _ => rfl⟩

/-- **The walk passes the model node**: it says nothing, and goes on along the edge that routing finds without a preference,
or halts without one. The history stays as it is, and the variables too when the model fails. -/
def PassesModel (n : Node) (d : Definition) (input : TurnInput) (left : Nat) (w : Walk) : Prop :=
  ∃ w' : Walk, w'.messages = w.messages ∧ w'.scene.context.history = w.scene.context.history ∧
    (n.ModelFails input (w.arrive n) → w'.scene.context.vars = w.scene.context.vars) ∧
    walk d input (left + 1) n.id w =
      match Routing.resolve d.edges n.id none with
      | some e => walk d input left e.target w'
      | none => (.halted, w'.halt n)

/-- A walk goes on behind a node that leaves. -/
theorem walk_of_leave (hn : d.node? n.id = some n) (hid : n.id ≠ []) {w : Walk} {s' : Scene} {note : Text}
    {preferred : Option EdgeType} (hr : n.run input (w.arrive n) = input.leave n s' note preferred) (left : Nat) :
    ∃ step : Step, step.messages = [] ∧ walk d input (left + 1) n.id w =
      match input.edgeOf n preferred with
      | some e => walk d input left e.target (w.record n s' step)
      | none => (.halted, (w.record n s' step).halt n) := by
  refine ⟨⟨[], some note, .along (input.edgeOf n preferred)⟩, rfl, ?_⟩
  rw [walk_of_ok hn hid hr]
  cases input.edgeOf n preferred <;> rfl

theorem passesModel (hn : d.node? n.id = some n) (hid : n.id ≠ []) (hk : n.kind? = some .callModel)
    (free : ∀ key, n.target? = some key → key ∉ Context.reservedKeys) (hedges : input.edges = d.edges) (left : Nat)
    (w : Walk) : n.PassesModel d input left w := by
  obtain ⟨s', note, hr, history, vars⟩ := runCallModel_eq_leave input (w.arrive n) hk free
  have run : n.run input (w.arrive n) = input.leave n s' note none := (run_callModel hk).trans hr
  obtain ⟨step, silent, hwalk⟩ := walk_of_leave hn hid run left
  refine ⟨w.record n s' step, ?_, ?_, fun hf => ?_, ?_⟩
  · simp [Walk.record_eq, silent]
  · rw [Walk.record_eq, silent, List.map_nil]
    exact (List.append_nil _).trans history
  · rw [Walk.record_eq]
    have kept := congrArg Context.vars (vars hf)
    exact kept
  · rw [hwalk, TurnInput.edgeOf, hedges]
    rfl

end Node

/-! ## What a node can be given too much of -/

/-- No node stores a text under a name that is kept for the bookkeeping. -/
def Definition.StoresFreely (d : Definition) : Prop :=
  ∀ n ∈ d.nodes, ∀ name ∈ [n.variableName, n.outputVariable, n.qnaOutputVariable, n.apiOutputVariable],
    ∀ key ∈ Context.reservedKeys, name ≠ some key

/-- Every time-out of a request is a number of seconds. -/
def Interpreter.Timely (it : Interpreter) : Prop :=
  (Decimal.divide? it.settings.apiTimeoutMs 1000).isSome ∧
    ∀ n ∈ it.definition.nodes, ∀ ms ∈ n.apiTimeout, (Decimal.divide? ms 1000).isSome

/-- What a node has to do exceeds a limit: its sleep in seconds is no number, or the JSON text of its headers or of its
body holds too long an integer or too deep a value. A value that cannot be written out exceeds a limit as well; where all
that the node finds is showable there is none. -/
inductive Node.Exceeds (n : Node) (settings : Settings) (c : Context) : Prop
  | sleep : n.kind? = some .wait →
      Decimal.divide? (max 0 (min n.waitDurationMs settings.waitMaxMs)) 1000 = none → Exceeds n settings c
  | headers (e : Json.ReadError) : n.kind? = some .apiCall → n.headers = .error e → Exceeds n settings c
  | body (e : Json.ReadError) : n.kind? = some .apiCall → n.requestBody c = .error e → Exceeds n settings c

theorem Definition.StoresFreely.target {d : Definition} (h : d.StoresFreely) {n : Node} (hn : n ∈ d.nodes) {key : Text}
    (ht : n.target? = some key) : key ∉ Context.reservedKeys := by
  intro hkey
  unfold Node.target? at ht
  split at ht
  · exact h n hn n.variableName (by simp) key hkey (nonEmpty?_eq_some ht).1
  · exact h n hn n.outputVariable (by simp) key hkey (nonEmpty?_eq_some ht).1
  · exact h n hn n.qnaOutputVariable (by simp) key hkey (nonEmpty?_eq_some ht).1
  · exact h n hn n.apiOutputVariable (by simp) key hkey (nonEmpty?_eq_some ht).1
  · cases ht

theorem Interpreter.Timely.timeout {it : Interpreter} (h : it.Timely) {n : Node} (hn : n ∈ it.definition.nodes)
    {input : TurnInput} (hs : input.settings = it.settings) : Decimal.divide? (n.timeoutMs input) 1000 ≠ none := by
  obtain ⟨usual, own⟩ := h
  rw [← Option.isSome_iff_ne_none]
  unfold Node.timeoutMs
  rw [hs]
  split
  next ms hms =>
    split
    · exact usual
    · exact own n hn ms hms
  next => exact usual

namespace Interpreter

variable {it : Interpreter} {call : TurnCall} {c : Context} {w : World} {t : Turn}

/-- Where names are free, time-outs short and exchanges unbroken, a node fails only for being given too much, and says
so. -/
theorem exceeds_of_fails (free : it.definition.StoresFreely) (timely : it.Timely) {n : Node}
    (hn : n ∈ it.definition.nodes) {input : TurnInput} (hs : input.settings = it.settings) {s : Scene}
    (unbroken : ∀ b message, .broken b message ∉ s.world.outcomes) {f : Fault} (hf : n.Fails input s f) :
    n.Exceeds it.settings s.context ∧ ¬OwnError (Ending.failed f).error? := by
  cases hf with
  | reserved ht hkey => exact absurd hkey (free.target hn ht)
  | sleep hk hd => exact ⟨.sleep hk (hs ▸ hd), Fault.not_ownError_spanTooLarge⟩
  | timeout _ hd => exact absurd hd (timely.timeout hn hs)
  | headers hk hh => exact ⟨.headers _ hk hh, Fault.not_ownError_json _⟩
  | body hk hb => exact ⟨.body _ hk hb, Fault.not_ownError_json _⟩
  | broken _ hm => exact absurd hm (unbroken _ _)

/-- A turn with these visits ended at a node that was given too much, in the context that the turn leaves behind. -/
def Overruns (it : Interpreter) (visits : List Visit) (left : Context) : Prop :=
  ∃ n ∈ it.definition.nodes, ∃ c : Context, visits.getLast? = some ⟨n, none⟩ ∧ left = c.clearPosition ∧
    c.currentNode = .str n.id ∧ n.Exceeds it.settings c

/-- A walk by texts that blames its last node for its fault reports an error of the interpreter's own, or none, unless that
node was given too much. -/
theorem ownError_settle_iff (free : it.definition.StoresFreely) (timely : it.Timely) {input : TurnInput}
    (hs : input.settings = it.settings) {script : List Http.Outcome} (unbroken : ∀ b message, .broken b message ∉ script)
    {ending : Ending} {done : Walk} (textual : ending.Textual) (blames : done.Blames it.definition input script ending) :
    OwnError (settle ending done).error ↔ ¬it.Overruns done.visits (settle ending done).context := by
  rw [settle_error]
  by_cases hf : ∃ f, ending = .failed f
  · obtain ⟨f, rfl⟩ := hf
    obtain ⟨n, hn, s, last, same, here, script, fails⟩ := blames.reason f rfl
    obtain ⟨exceeds, foreign⟩ := exceeds_of_fails free timely hn hs (fun b m hm => unbroken b m (script.mem hm)) fails
    have left : (settle (.failed f) done).context = s.context.clearPosition := congrArg Context.clearPosition same.symm
    exact iff_of_false foreign (not_not_intro ⟨n, hn, s.context, last, left, here, exceeds⟩)
  · replace hf : ∀ f, ending ≠ .failed f := fun f h => hf ⟨f, h⟩
    refine iff_of_true (textual.ownError hf) ?_
    rintro ⟨n, -, -, last, -⟩
    exact blames.unharmed hf n last

/-- **What makes a turn fail.** The model does what it likes and the services reply or fail in transport, and what there is to
write out can be written out: then a turn reports an error of the interpreter's own, or none, unless it ended at a node that
was given too much; none of its nodes finds a value that cannot be written out; and every model node is passed, in any state
of the walk of which this holds. -/
theorem ownError_iff (free : it.definition.StoresFreely) (timely : it.Timely) (hc : call.context.read = .ok c)
    (hwaiting : c.waiting = .null ∨ ∃ id, c.waiting = .str id) (unbroken : ∀ b message, .broken b message ∉ w.outcomes)
    (showable : it.Showable c w) (ht : it.executeTurn call w = .ok t) :
    (OwnError t.result.error ↔ ¬it.Overruns t.visits t.result.context) ∧
    (∃ items, call.knowledge.mapM GivenItem.read = .ok items ∧
      t.visits = (it.encounters c items call w).map Encounter.visit ∧
      ∀ e ∈ it.encounters c items call w, e.scene.Showable) ∧
    ∀ n, it.definition.node? n.id = some n → n.id ≠ [] → n.kind? = some .callModel →
      ∀ items left (done : Walk), done.scene.Showable → n.PassesModel it.definition (it.input items call) left done := by
  obtain ⟨c', items, hc', hitems, rfl⟩ := executeTurn_eq_ok_iff.mp ht
  cases hc.symm.trans hc'
  have textual := (Walk.tracks_textual it.definition (it.input items call)).outcome c w
    (fun _ he => entry_textual hwaiting he) (fun _ => trivial)
  have sound : (it.opening c w).Sound w.outcomes := ⟨List.suffix_refl _, fun n h => by cases h⟩
  have blames := (Walk.tracks_blames it.definition (it.input items call) w.outcomes).outcome c w
    (fun _ _ => sound) (fun _ => sound.blames nofun)
  refine ⟨ownError_settle_iff free timely rfl unbroken textual blames, ⟨items, hitems, it.visits_take c items call w, ?_⟩,
    fun n hn hid hk items left done _ => ?_⟩
  · exact fun _ he => showable_encounters showable he
  · exact Node.passesModel hn hid hk (fun _ => free.target (List.mem_of_find?_eq_some hn)) rfl left done

/-- A definition without nodes that sleep or call a service is never given too much. -/
theorem not_overruns_of_quiet (quiet : ∀ n ∈ it.definition.nodes, n.kind? ≠ some .wait ∧ n.kind? ≠ some .apiCall)
    (visits : List Visit) (left : Context) : ¬it.Overruns visits left := by
  rintro ⟨n, hn, c, -, -, -, exceeds⟩
  obtain ⟨nowait, nocall⟩ := quiet n hn
  cases exceeds with
  | sleep hk => exact nowait hk
  | headers _ hk => exact nocall hk
  | body _ hk => exact nocall hk

/-- A model that gives no answer in any time fails, whatever the time limit is. -/
theorem modelFails_of_silent {n : Node} {input : TurnInput} {s : Scene} {template : Text}
    (hp : nonEmpty? n.llmPrompt = some template) (hs : s.world.replies.head? = some .silent) : n.ModelFails input s := by
  refine ⟨template, Model.exceeded input.settings.modelTimeout, hp, ?_⟩
  unfold Model.generate World.ask
  rw [List.headD_eq_head?_getD, hs]
  split <;> rfl

/-- The pupil's turn rides out a model that never answers: the call fails, and the turn reports nothing of it. -/
theorem ownError_pupil : ∃ n t, Definition.pupil.node? "ask" = some n ∧
    n.ModelFails ((make .pupil .default).input [] ⟨.fresh, none, none, [], none⟩) ⟨.empty, false, ⟨[.silent], [], .empty⟩⟩ ∧
    (make .pupil .default).executeTurn ⟨.fresh, none, none, [], none⟩ ⟨[.silent], [], .empty⟩ = .ok t ∧
    OwnError t.result.error ∧ ∀ left (done : Walk), done.scene.Showable →
      n.PassesModel .pupil ((make .pupil .default).input [] ⟨.fresh, none, none, [], none⟩) left done := by
  have free : (make .pupil .default).definition.StoresFreely := by
    unfold Definition.StoresFreely
    decide +kernel
  have timely : (make .pupil .default).Timely := ⟨rfl, by decide +kernel⟩
  have quiet : ∀ n ∈ Definition.pupil.nodes, n.kind? ≠ some .wait ∧ n.kind? ≠ some .apiCall := by decide
  obtain ⟨n, hn, hk, hp⟩ : ∃ n, Definition.pupil.node? "ask" = some n ∧ n.kind? = some .callModel ∧
      nonEmpty? n.llmPrompt = some "What is one and one?" := ⟨_, rfl, rfl, rfl⟩
  have hid : n.id = "ask" := Definition.id_of_node? hn
  obtain ⟨t, ht⟩ : ∃ t, (make .pupil .default).executeTurn ⟨.fresh, none, none, [], none⟩ ⟨[.silent], [], .empty⟩ = .ok t :=
    ⟨_, rfl⟩
  have unbroken : ∀ b message, .broken b message ∉ (⟨[.silent], [], .empty⟩ : World).outcomes := by simp
  have showable : (make .pupil .default).Showable .empty ⟨[.silent], [], .empty⟩ :=
    ⟨⟨Context.showable_empty, nofun⟩, by decide +kernel⟩
  obtain ⟨own, -, passes⟩ := ownError_iff free timely rfl (.inl rfl) unbroken showable ht
  exact ⟨n, t, hn, modelFails_of_silent hp rfl, ht, own.mpr (not_overruns_of_quiet quiet _ _),
    passes n (hid ▸ hn) (by rw [hid]; decide) hk []⟩

/-! ### Texts beyond the limits -/

/-- A conversation in which the courier's parcel is a text. -/
def parcel (text : Text) : Context := { Context.empty with vars := [(("p" : Text), .str text)] }

section Courier

variable {text : Text} {e : Json.ReadError}

theorem walk_courier (he : Json.read .standard text = .error e) (hm : e ≠ .malformed) (input : TurnInput) (left : Nat)
    (done : Walk) (hp : done.scene.context.get? ("p" : Text) = some (.str text)) :
    (walk .courier input (left + 1) "call" done).1 = .failed (.json e) := by
  obtain ⟨n, hn, hk, hurl, hbody, hheaders⟩ : ∃ n, Definition.courier.node? "call" = some n ∧
      n.kind? = some .apiCall ∧ nonEmpty? n.apiUrl = some ("http://h/" : Text) ∧
      nonEmpty? n.apiBodyVariable = some ("p" : Text) ∧ n.apiHeaders = none := ⟨_, rfl, rfl, rfl, rfl, rfl⟩
  replace hp : (done.arrive n).context.get? ("p" : Text) = some (.str text) := hp
  have body : n.requestBody (done.arrive n).context = .error e := by
    unfold Node.requestBody
    rw [hbody]
    dsimp only
    rw [if_neg (by decide), hp]
    dsimp only
    rw [he]
    cases e with
    | malformed => exact absurd rfl hm
    | tooManyDigits | tooDeep => rfl
  have request : n.request input "http://h/" (done.arrive n).context = .error (.json e) := by
    unfold Node.request Node.headers
    rw [hheaders, body]
    rfl
  have run : n.run input (done.arrive n) = .fail (done.arrive n) (.json e) := by
    rw [Node.run_apiCall hk, Node.runApiCall, hurl]
    dsimp only
    rw [request]
  rw [walk, hn, if_neg (by decide)]
  dsimp only
  rw [run]
  rfl

/-- The courier's turn fails when its parcel is a JSON text beyond the limits. -/
theorem outcome_courier (he : Json.read .standard text = .error e) (hm : e ≠ .malformed) (world : World) :
    ((make .courier .default).outcome (parcel text) [] ⟨.loaded (parcel text), none, none, [], none⟩ world).1 =
      .failed (.json e) := by
  have entry : (make .courier .default).entry (parcel text) none = some (.str "s") := rfl
  unfold outcome
  rw [entry]
  -- one step of the twenty takes the start node
  exact walk_courier he hm _ 18 _ rfl

end Courier

/-- An integer of one digit more than the limit allows. -/
def longInteger : Text := .char '1' :: List.replicate 4300 (.char '1')

theorem read_longInteger : Json.read .standard longInteger = .error (.tooManyDigits 4300 4301) := by
  have long : longInteger.length = 4301 := by rw [longInteger, List.length_cons, List.length_replicate]
  have ones : ∀ d ∈ List.replicate 4300 (CodePoint.char '1'), d.isDigit = true := by
    intro d hd
    rw [List.eq_of_mem_replicate hd]
    decide
  have exceeded : 4300 < longInteger.length := by omega
  rw [← long]
  exact Json.read_digits_of_limit_lt .standard rfl (by decide) (by decide) ones exceeded

theorem showable_parcel (text : Text) : (parcel text).Showable := by
  have stored : Context.empty.setVariable ("p" : Text) (.str text) = .ok (parcel text) := rfl
  exact Context.showable_empty.setVariable (Value.showable_str text) stored

/-- **A body may fail a turn**: a variable holds an integer in too many digits, and the turn's error is none of the
interpreter's own, although the names are free, the time-outs short, the conversation waits nowhere, the service replies, and
all that there is to write out can be written out. -/
theorem foreignError_courier : (make .courier .default).definition.StoresFreely ∧ (make .courier .default).Timely ∧
    (parcel longInteger).waiting = .null ∧
    (∀ b message, .broken b message ∉ (⟨[], [.reply 200 "ok"], .empty⟩ : World).outcomes) ∧
    (make .courier .default).Showable (parcel longInteger) ⟨[], [.reply 200 "ok"], .empty⟩ ∧
    ∃ t, (make .courier .default).executeTurn ⟨.loaded (parcel longInteger), none, none, [], none⟩
      ⟨[], [.reply 200 "ok"], .empty⟩ = .ok t ∧ ¬OwnError t.result.error := by
  refine ⟨?_, ⟨rfl, by decide +kernel⟩, rfl, by simp, ⟨⟨showable_parcel longInteger, fun status text hm => ?_⟩, ?_⟩, _,
    executeTurn_eq_ok_iff.mpr ⟨_, [], rfl, rfl, rfl⟩, ?_⟩
  · unfold Definition.StoresFreely
    decide +kernel
  · cases List.mem_singleton.mp hm
    decide +kernel
  · decide +kernel
  · unfold take
    rw [settle_error, outcome_courier read_longInteger nofun]
    exact Fault.not_ownError_json _

end Interpreter

end Colloquy
