import Colloquy.Proofs.Service.Script
import Colloquy.Proofs.Turn.Walk

/-!
# Why a turn fails

The reasons for which a node fails (`Node.Fails`), by what the node does with the world and with names: nothing that the
model does is among them (`Node.accounts_run`). A walk that ends in a fault ends at a node that has a reason for it, and any
other walk at a node that has not failed (`Walk.Blames`, `Walk.tracks_blames`).
-/

namespace Colloquy

namespace Node

/-! ## Reasons -/

/-- **Why a node fails** in a scene. -/
inductive Fails (n : Node) (input : TurnInput) (s : Scene) : Fault → Prop
  /-- Its text has to go by a name that is kept for the bookkeeping. -/
  | reserved {key : Text} : n.target? = some key → key ∈ Context.reservedKeys →
      Fails n input s (.refused (.reserved key))
  | sleep : n.kind? = some .wait → Decimal.divide? (n.waitMs input) 1000 = none → Fails n input s .spanTooLarge
  | timeout : n.kind? = some .apiCall → Decimal.divide? (n.timeoutMs input) 1000 = none →
      Fails n input s .spanTooLarge
  | headers {e : Json.ReadError} : n.kind? = some .apiCall → n.headers = .error e → Fails n input s (.json e)
  | body {e : Json.ReadError} : n.kind? = some .apiCall → n.requestBody s.context = .error e →
      Fails n input s (.json e)
  | broken {b : Http.Breakdown} {message : Text} : n.kind? = some .apiCall → .broken b message ∈ s.world.outcomes →
      Fails n input s (.brokenExchange b message)

/-- What there is to say of an act's failure: it takes outcomes from the front of the script only, and it has one of
these reasons to fail if it fails. -/
def Accounts (n : Node) (input : TurnInput) (s : Scene) (act : Act) : Prop :=
  act.scene.world.outcomes <:+ s.world.outcomes ∧ ∀ f, act.result = .error f → n.Fails input s f

variable {n : Node} {input : TurnInput} {s : Scene}

theorem accounts_step {s' : Scene} (hw : s'.world.outcomes <:+ s.world.outcomes) (messages : List Text)
    (note : Option Text) (move : Move) : n.Accounts input s (.step s' messages note move) :=
  ⟨hw, nofun⟩

theorem accounts_fail {s' : Scene} {f : Fault} (hw : s'.world.outcomes <:+ s.world.outcomes)
    (hf : n.Fails input s f) : n.Accounts input s (.fail s' f) := by
  refine ⟨hw, fun f' h => ?_⟩
  cases h
  exact hf

theorem accounts_leaveCondition {w : World} (hw : w.outcomes <:+ s.world.outcomes) (value : Text)
    (chosen : Option Edge) (note : Option Text) :
    n.Accounts input s (n.leaveCondition input (s.withWorld w) value chosen note) := by
  unfold leaveCondition
  cases chosen with
  | some e => exact accounts_step hw _ _ _
  | none => exact accounts_step hw _ _ _

theorem accounts_getUserInput (hk : n.kind? = some .getUserInput) :
    n.Accounts input s (n.runGetUserInput input s) := by
  have same : s.world.outcomes <:+ s.world.outcomes := List.suffix_refl _
  unfold runGetUserInput
  split
  · split
    · split
      · have ht : n.target? = nonEmpty? n.variableName := by simp [target?, hk]
        exact storeIf_rule (s := { s with consumed := true }) ht (fun c _ => accounts_step same _ _ _)
          (fun key hkey hm => accounts_fail same (.reserved hkey hm))
      · exact accounts_step same _ _ _
    · exact accounts_step same _ _ _
  · exact accounts_step same _ _ _

theorem accounts_callModel (hk : n.kind? = some .callModel) : n.Accounts input s (n.runCallModel input s) := by
  unfold runCallModel
  split
  next template output _ ho =>
    split
    next answer w hg =>
      have hw : w.outcomes <:+ s.world.outcomes := Model.outcomes_generate hg ▸ List.suffix_refl _
      exact store_rule (s := s.withWorld w) (by simp [target?, hk, ho]) (fun c _ => accounts_step hw _ _ _)
        (fun key hkey hm => accounts_fail hw (.reserved hkey hm))
    next reason w hg => exact accounts_step (Model.outcomes_generate hg ▸ List.suffix_refl _) _ _ _
  next => exact accounts_step (List.suffix_refl _) _ _ _

theorem accounts_condition : n.Accounts input s (n.runCondition input s) := by
  have same : s.world.outcomes <:+ s.world.outcomes := List.suffix_refl _
  unfold runCondition
  split
  · exact accounts_step same _ _ _
  · dsimp only
    split
    · unfold chooseByModel
      dsimp only
      split
      · exact accounts_leaveCondition (w := s.world) same _ _ _
      · split
        next hg => exact accounts_leaveCondition (Model.outcomes_generate hg ▸ same) _ _ _
        next hg => exact accounts_leaveCondition (Model.outcomes_generate hg ▸ same) _ _ _
    · exact accounts_leaveCondition (w := s.world) same _ _ _

theorem accounts_lookup (hk : n.kind? = some .lookup) : n.Accounts input s (n.runLookup input s) := by
  have same : s.world.outcomes <:+ s.world.outcomes := List.suffix_refl _
  have ht : n.target? = nonEmpty? n.qnaOutputVariable := by simp [target?, hk]
  unfold runLookup
  split
  · exact storeIf_rule ht (fun c _ => accounts_step same _ _ _)
      (fun key hkey hm => accounts_fail same (.reserved hkey hm))
  · exact storeIf_rule ht (fun c _ => accounts_step same _ _ _)
      (fun key hkey hm => accounts_fail same (.reserved hkey hm))

theorem accounts_wait (hk : n.kind? = some .wait) : n.Accounts input s (n.runWait input s) := by
  have same : s.world.outcomes <:+ s.world.outcomes := List.suffix_refl _
  unfold runWait
  split
  · exact accounts_step same _ _ _
  next hd => exact accounts_fail same (.sleep hk hd)

/-- A request that cannot be made has headers or a body beyond the limits, or no time-out in seconds. -/
theorem fails_of_request (hk : n.kind? = some .apiCall) {url : Text} {f : Fault}
    (h : n.request input url s.context = .error f) : n.Fails input s f := by
  unfold request at h
  cases hh : n.headers with
  | error e =>
    rw [hh] at h
    cases h
    exact .headers hk hh
  | ok headers =>
    rw [hh] at h
    cases hb : n.requestBody s.context with
    | error e =>
      rw [hb] at h
      cases h
      exact .body hk hb
    | ok body =>
      rw [hb] at h
      cases hd : Decimal.divide? (n.timeoutMs input) 1000 with
      | none =>
        rw [hd] at h
        cases h
        exact .timeout hk hd
      | some seconds =>
        rw [hd] at h
        cases h

theorem accounts_apiCall (hk : n.kind? = some .apiCall) : n.Accounts input s (n.runApiCall input s) := by
  have same : s.world.outcomes <:+ s.world.outcomes := List.suffix_refl _
  have ht : n.target? = nonEmpty? n.apiOutputVariable := by simp [target?, hk]
  unfold runApiCall
  split
  · exact accounts_step same _ _ _
  · split
    next f hr => exact accounts_fail same (fails_of_request hk hr)
    · split
      next call w hs =>
        have hw := World.outcomes_suffix_of_send hs
        rw [leaveApiCall_eq]
        split
        · exact storeIf_rule (s := s.withWorld w) ht (fun c _ => accounts_step hw _ _ _)
            (fun key hkey hm => accounts_fail hw (.reserved hkey hm))
        · exact accounts_step hw _ _ _
      next b message w hs =>
        exact accounts_fail (World.outcomes_suffix_of_send hs) (.broken hk (World.broken_mem_of_send hs))

/-- **Every node that fails has one of these reasons.** -/
theorem accounts_run (n : Node) (input : TurnInput) (s : Scene) : n.Accounts input s (n.run input s) := by
  have same : s.world.outcomes <:+ s.world.outcomes := List.suffix_refl _
  exact run_rule (P := n.Accounts input s) (fun _ _ _ => accounts_step same _ _ _) accounts_getUserInput accounts_callModel
    (fun _ => accounts_condition) accounts_lookup accounts_wait (fun _ => accounts_step same _ _ _) accounts_apiCall

end Node

/-! ## Turns that fail -/

/-- A walk that ends in a fault ends at a node that has a reason for it, in the context that the walk leaves behind; any
other walk ends at a node that has not failed. -/
structure Walk.Blames (d : Definition) (input : TurnInput) (script : List Http.Outcome) (ending : Ending) (w : Walk) :
    Prop where
  reason : ∀ f, ending = .failed f → ∃ n ∈ d.nodes, ∃ s : Scene, w.visits.getLast? = some ⟨n, none⟩ ∧
    s.context = w.scene.context ∧ s.context.currentNode = .str n.id ∧ s.world.outcomes <:+ script ∧ n.Fails input s f
  unharmed : (∀ f, ending ≠ .failed f) → ∀ n, w.visits.getLast? ≠ some ⟨n, none⟩

/-- A walk that has not failed yet, with what is left of the script. -/
def Walk.Sound (script : List Http.Outcome) (w : Walk) : Prop :=
  w.scene.world.outcomes <:+ script ∧ ∀ n, w.visits.getLast? ≠ some ⟨n, none⟩

theorem Walk.Sound.record {script : List Http.Outcome} {input : TurnInput} {n : Node} {w : Walk} {step : Step} {s : Scene}
    (hw : w.Sound script) (hr : n.run input (w.arrive n) = ⟨.ok step, s⟩) : (w.record n s step).Sound script := by
  obtain ⟨taken, -⟩ := n.accounts_run input (w.arrive n)
  rw [hr] at taken
  constructor
  · rw [Walk.record_eq]
    exact taken.trans hw.1
  · intro m h
    rw [Walk.visits_record, List.getLast?_concat] at h
    cases h

theorem Walk.Sound.blames {script : List Http.Outcome} {d : Definition} {input : TurnInput} {ending : Ending} {w : Walk}
    (hw : w.Sound script) (h : ∀ f, ending ≠ .failed f) : w.Blames d input script ending :=
  ⟨fun f hf => absurd hf (h f), fun _ => hw.2⟩

theorem Walk.tracks_blames (d : Definition) (input : TurnInput) (script : List Http.Outcome) :
    Walk.Tracks d input (fun _ w => w.Sound script) (Walk.Blames d input script) where
  idle hw := hw.blames nofun
  outOfSteps _ hw := ⟨nofun, fun _ => hw.2⟩
  unknownNode _ _ hw := hw.blames nofun
  unusableId _ hw := hw.blames nofun
  failed {n w f s} hn _ hw hr := by
    refine ⟨fun f' hf => ?_, fun h => absurd rfl (h f)⟩
    cases hf
    have same := (Node.Does.of_run hr).context_eq_of_fail
    obtain ⟨-, fails⟩ := n.accounts_run input (w.arrive n)
    refine ⟨n, List.mem_of_find?_eq_some hn, w.arrive n, ?_, same.symm, rfl, hw.1, fails f ?_⟩
    · exact List.getLast?_concat
    · rw [hr]
  follows _ _ hw hr _ := hw.record hr
  waits _ _ hw hr _ := (hw.record hr).blames nofun
  finishes _ _ hw hr _ := (hw.record hr).blames nofun
  halts _ _ hw hr _ := ⟨nofun, fun _ => (hw.record hr).2⟩

end Colloquy
