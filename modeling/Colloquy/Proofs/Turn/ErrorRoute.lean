import Colloquy.Proofs.Service.Attempts
import Colloquy.Proofs.Turn.Growth
import Colloquy.Proofs.Turn.Resilience

/-!
# Services that do not reply

A node that calls a service has an edge for the case that no reply comes (`Node.TakesRoute`). It takes this edge when the
request could be made and the transport failed at every attempt, and in no other case: if the request cannot be made, or the
client breaks off with a failure that is none of the transport, then the turn ends at the node with an error
(`Node.EndsTurn`, `Interpreter.takes_errorRoute_iff`). An address that the client rejects is such a case
(`Interpreter.ends_caller`).
-/

namespace Colloquy

namespace Node

variable {d : Definition} {n : Node} {input : TurnInput} {left : Nat} {w : Walk} {s : Scene}

/-! ## Ways from a node -/

/-- **The walk goes on along the route for an outcome**: the edge that routing finds for it, or the halt if there is none. The
node says nothing, and the conversation is at the node and otherwise as it was. -/
def TakesRoute (n : Node) (d : Definition) (input : TurnInput) (outcome : EdgeType) (left : Nat) (w : Walk) : Prop :=
  ∃ w' : Walk, ∃ move, w'.visits = w.visits ++ [⟨n, some move⟩] ∧ w'.messages = w.messages ∧
    w'.scene.context = (w.arrive n).context ∧
    walk d input (left + 1) n.id w =
      match Routing.resolve d.edges n.id (some outcome.name) with
      | some e => walk d input left e.target w'
      | none => (.halted, w'.halt n)

/-- The walk ends at the node with a fault, which is the error of the turn. -/
def EndsTurn (n : Node) (d : Definition) (input : TurnInput) (left : Nat) (w : Walk) : Prop :=
  ∃ w' : Walk, ∃ f, w'.visits = w.visits ++ [⟨n, none⟩] ∧ w'.scene.context = (w.arrive n).context ∧
    walk d input (left + 1) n.id w = (.failed f, w')

/-- No walk does both. -/
theorem TakesRoute.not_endsTurn {outcome : EdgeType} (h : n.TakesRoute d input outcome left w) :
    ¬n.EndsTurn d input left w := by
  obtain ⟨w', move, visited, -, -, goes⟩ := h
  rintro ⟨w'', f, failed, -, ends⟩
  rw [ends] at goes
  cases hr : Routing.resolve d.edges n.id (some outcome.name) with
  | none =>
    rw [hr] at goes
    cases goes
  | some e =>
    rw [hr] at goes
    replace goes : (Ending.failed f, w'') = walk d input left e.target w' := goes
    have grown : w'.visits <+: w''.visits := by
      have onward := (grows_walk d input left e.target w').visits
      rw [← goes] at onward
      exact onward
    rw [visited, failed, List.prefix_append_right_inj] at grown
    have same := grown.eq_of_length rfl
    cases same

theorem takesRoute_of_leave (hn : d.node? n.id = some n) (hid : n.id ≠ []) (hedges : input.edges = d.edges)
    {world : World} {note : Text} {outcome : EdgeType}
    (hr : n.run input (w.arrive n) = input.leave n ((w.arrive n).withWorld world) note (some outcome)) (left : Nat) :
    n.TakesRoute d input outcome left w := by
  obtain ⟨step, silent, hwalk⟩ := walk_of_leave hn hid hr left
  refine ⟨w.record n ((w.arrive n).withWorld world) step, step.move, Walk.visits_record _ _ _ _, ?_, ?_, ?_⟩
  · simp [Walk.record_eq, silent]
  · simp [Walk.record_eq, silent, Scene.withContext, Scene.withWorld]
  · rw [hwalk, TurnInput.edgeOf, hedges]
    rfl

theorem endsTurn_of_fail (hn : d.node? n.id = some n) (hid : n.id ≠ []) {world : World} {f : Fault}
    (hr : n.run input (w.arrive n) = .fail ((w.arrive n).withWorld world) f) (left : Nat) :
    n.EndsTurn d input left w := by
  exact ⟨({ w with scene := (w.arrive n).withWorld world } : Walk).visit n none, f, rfl, rfl, walk_of_error hn hid hr left⟩

/-! ## Calls without a reply -/

/-- The request can be made, and then the transport fails at every attempt. -/
def FailsInTransport (n : Node) (input : TurnInput) (s : Scene) : Prop :=
  ∃ url request, nonEmpty? n.apiUrl = some url ∧ n.request input url s.context = .ok request ∧
    ∀ k < Http.attemptsFor n.apiRetryAttempts, (Http.outcomeAt s.world.outcomes k).Fails

theorem runApiCall_of_failsInTransport (h : n.FailsInTransport input s) :
    ∃ world note, n.runApiCall input s = input.leave n (s.withWorld world) note (some .error) := by
  obtain ⟨url, request, hurl, hreq, failed⟩ := h
  obtain ⟨error, world, sent⟩ := World.send_of_fails failed request true
  refine ⟨world, "Request failed: " ++ error.getD "None", ?_⟩
  unfold runApiCall
  rw [hurl]
  dsimp only
  rw [hreq]
  dsimp only
  rw [sent]
  rfl

theorem runApiCall_of_not_failsInTransport (hurl : nonEmpty? n.apiUrl ≠ none)
    (unanswered : Http.Unanswered s.world.outcomes (Http.attemptsFor n.apiRetryAttempts))
    (h : ¬n.FailsInTransport input s) : ∃ world f, n.runApiCall input s = .fail (s.withWorld world) f := by
  obtain ⟨url, hurl⟩ := Option.ne_none_iff_exists'.mp hurl
  unfold runApiCall
  rw [hurl]
  dsimp only
  cases hreq : n.request input url s.context with
  | error f => exact ⟨s.world, f, rfl⟩
  | ok request =>
    rcases unanswered.cases with failed | ⟨k, hk, failed, breaks⟩
    · exact absurd ⟨url, request, hurl, hreq, failed⟩ h
    · obtain ⟨b, message, world, sent⟩ := World.send_of_breaks hk failed breaks request true
      dsimp only
      rw [sent]
      exact ⟨world, .brokenExchange b message, rfl⟩

end Node

namespace Interpreter

variable {it : Interpreter} {n : Node} {done : Walk}

/-- **Which failed calls take the error route.** When no reply comes, whatever the address, the number of retries and the
failures are, a walk takes the error route exactly when the node fails in transport only; and else the turn ends at the node
with an error. -/
theorem takes_errorRoute_iff (hn : it.definition.node? n.id = some n) (hid : n.id ≠ [])
    (hk : n.kind? = some .apiCall) (hurl : nonEmpty? n.apiUrl ≠ none)
    (unanswered : Http.Unanswered done.scene.world.outcomes (Http.attemptsFor n.apiRetryAttempts))
    (items : List KnowledgeItem) (call : TurnCall) (left : Nat) :
    (n.TakesRoute it.definition (it.input items call) .error left done ↔
      n.FailsInTransport (it.input items call) (done.arrive n)) ∧
    (n.EndsTurn it.definition (it.input items call) left done ↔
      ¬n.FailsInTransport (it.input items call) (done.arrive n)) := by
  have run : n.run (it.input items call) (done.arrive n) = n.runApiCall (it.input items call) (done.arrive n) := by
    unfold Node.run
    rw [hk]
  have takes (h : n.FailsInTransport (it.input items call) (done.arrive n)) :
      n.TakesRoute it.definition (it.input items call) .error left done := by
    obtain ⟨world, note, leaves⟩ := Node.runApiCall_of_failsInTransport h
    exact Node.takesRoute_of_leave hn hid rfl (run.trans leaves) left
  have ends (h : ¬n.FailsInTransport (it.input items call) (done.arrive n)) :
      n.EndsTurn it.definition (it.input items call) left done := by
    obtain ⟨world, f, fails⟩ := Node.runApiCall_of_not_failsInTransport (s := done.arrive n) hurl unanswered h
    exact Node.endsTurn_of_fail hn hid (run.trans fails) left
  constructor
  · refine ⟨fun route => ?_, takes⟩
    by_contra h
    exact route.not_endsTurn (ends h)
  · refine ⟨fun ended h => ?_, ends⟩
    exact (takes h).not_endsTurn ended

/-- The caller apologizes when its one attempt fails in transport: the walk takes the error route. -/
theorem apologizes_caller : ∃ n, ∃ done : Walk, Definition.caller.node? n.id = some n ∧ n.id ≠ [] ∧
    n.kind? = some .apiCall ∧ nonEmpty? n.apiUrl ≠ none ∧
    Http.Unanswered done.scene.world.outcomes (Http.attemptsFor n.apiRetryAttempts) ∧
    ∀ left, n.TakesRoute .caller ((make .caller .default).input [] ⟨.fresh, none, none, [], none⟩) .error left done := by
  let call : TurnCall := ⟨.fresh, none, none, [], none⟩
  let done : Walk := ⟨⟨.empty, false, ⟨[], [.failed "ConnectTimeout" ""], .empty⟩⟩, [], [], []⟩
  obtain ⟨n, url, hn, hk, hurl, made, once⟩ : ∃ n url, Definition.caller.node? "call" = some n ∧
      n.kind? = some .apiCall ∧ nonEmpty? n.apiUrl = some url ∧
      (n.request ((make .caller .default).input [] call) url (done.arrive n).context).isOk = true ∧
      Http.attemptsFor n.apiRetryAttempts = 1 := ⟨_, _, rfl, rfl, rfl, by decide +kernel, rfl⟩
  obtain ⟨request, hreq⟩ : ∃ request,
      n.request ((make .caller .default).input [] call) url (done.arrive n).context = .ok request := by
    cases hreq : n.request ((make .caller .default).input [] call) url (done.arrive n).context with
    | ok request => exact ⟨request, rfl⟩
    | error f =>
      rw [hreq] at made
      cases made
  have hid : n.id = "call" := Definition.id_of_node? hn
  have nonempty : n.id ≠ [] := by
    rw [hid]
    decide
  have found : (make .caller .default).definition.node? n.id = some n := by
    rw [hid]
    exact hn
  have addressed : nonEmpty? n.apiUrl ≠ none := by
    rw [hurl]
    exact nofun
  have failed : ∀ k < Http.attemptsFor n.apiRetryAttempts, (Http.outcomeAt done.scene.world.outcomes k).Fails := by
    intro k hk
    obtain rfl : k = 0 := by omega
    exact ⟨"ConnectTimeout", "", rfl⟩
  have unanswered : Http.Unanswered done.scene.world.outcomes (Http.attemptsFor n.apiRetryAttempts) :=
    Http.unanswered_of_fails failed
  refine ⟨n, done, found, nonempty, hk, addressed, unanswered, fun left => ?_⟩
  have route := (takes_errorRoute_iff found nonempty hk addressed unanswered [] call left).1
  exact route.mpr ⟨url, request, hurl, hreq, failed⟩

/-- **A call may end the turn** although its node has an edge for errors: a variable holds no port, and that the client
rejects the address is no failure of the transport. -/
theorem ends_caller : ∃ n t, Definition.caller.node? "call" = some n ∧ n.kind? = some .apiCall ∧
    nonEmpty? n.apiUrl ≠ none ∧ n.apiOutputVariable = none ∧
    (Routing.resolve Definition.caller.edges n.id (some EdgeType.error.name)).map Edge.target = some "sorry" ∧
    (make .caller .default).executeTurn
      ⟨.loaded { Context.empty with vars := [(("port" : Text), .str "x")] }, none, none, [], none⟩
      ⟨[], [.broken .invalidUrl "Invalid port: 'x'"], .empty⟩ = .ok t ∧
    t.visits.map (·.node.id) = (["s", "call"] : List Text) ∧ t.result.status = .error ∧
    t.result.error = some "Invalid port: 'x'" :=
  ⟨_, _, rfl, rfl, nofun, rfl, by decide +kernel, rfl, by decide +kernel, by decide +kernel, by decide +kernel⟩

end Interpreter

end Colloquy
