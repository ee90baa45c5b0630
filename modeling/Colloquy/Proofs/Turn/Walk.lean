import Colloquy.Proofs.Turn.Act
import Colloquy.Turn.Interpreter

/-!
# What a walk keeps

A property that every node keeps holds when the walk ends. Two rules say so. `Walk.Tracks` is for properties of the
place where a walk stands and of what it has gathered, and shows each node at work; `Walk.Keeps` is for properties of
what a walk has gathered alone, and shows of each node what it can do (`Node.Does`). Both lists say what there is to show
for one node, and `walk`, `walkFrom` and `outcome` carry it along the walk of a whole turn. A third rule, `Walk.Abreast`,
is for two walks of one definition: if every node does the same for both, they go the same way.
-/

namespace Colloquy

/-! ## What a step leaves behind -/

namespace Walk

theorem foldl_emit (messages : List Text) (w : Walk) :
    messages.foldl emit w = { w with
      messages := w.messages ++ messages
      scene := w.scene.withContext { w.scene.context with
        history := w.scene.context.history ++ messages.map Context.agentLine } } := by
  induction messages generalizing w with
  | nil => simp [Scene.withContext]
  | cons m ms ih => simp [List.foldl_cons, ih, emit, Scene.withContext, Context.addAgentMessage]

variable (w : Walk) (n : Node) (s : Scene) (step : Step)

theorem record_eq : w.record n s step =
    { scene := s.withContext { s.context with history := s.context.history ++ step.messages.map Context.agentLine }
      messages := w.messages ++ step.messages
      log := w.log ++ (step.note.map fun line => "[" ++ n.id ++ "] " ++ line).toList
      visits := w.visits ++ [⟨n, some step.move⟩] } := by
  obtain ⟨messages, note, move⟩ := step
  cases note <;> simp [record, foldl_emit, visit, noteAt, Walk.note]

theorem visits_record : (w.record n s step).visits = w.visits ++ [⟨n, some step.move⟩] := by
  rw [record_eq]

@[simp] theorem record_consumed : (w.record n s step).scene.consumed = s.consumed := by
  rw [record_eq]; rfl

end Walk

/-! ## The rules -/

/-- Endings that no node brings about. -/
def Ending.Outside : Ending → Prop
  | idle | noStart | unknownNode _ | unusableId _ => True
  | _ => False

theorem Definition.id_of_node? {d : Definition} {id : Text} {n : Node} (h : d.node? id = some n) : n.id = id := by
  simpa using List.find?_some h

section

variable {d : Definition} {input : TurnInput} {n : Node} {w : Walk} {s : Scene}

/-- A walk that comes to a node goes on, or ends, as the node's step says. -/
theorem walk_of_ok (hn : d.node? n.id = some n) (hid : n.id ≠ []) {step : Step}
    (hr : n.run input (w.arrive n) = ⟨.ok step, s⟩) (left : Nat) : walk d input (left + 1) n.id w =
      match step.move with
      | .await => (.waiting n.id, w.record n s step)
      | .finish => (.finished, w.record n s step)
      | .halt => (.halted, (w.record n s step).halt n)
      | .follow e => walk d input left e.target (w.record n s step) := by
  rw [walk, if_neg (by simpa using hid)]
  cases hm : step.move <;> simp only [hn, hr, hm]

/-- A walk that comes to a node that fails ends there. -/
theorem walk_of_error (hn : d.node? n.id = some n) (hid : n.id ≠ []) {f : Fault}
    (hr : n.run input (w.arrive n) = ⟨.error f, s⟩) (left : Nat) :
    walk d input (left + 1) n.id w = (.failed f, ({ w with scene := s } : Walk).visit n none) := by
  rw [walk, if_neg (by simpa using hid)]
  simp only [hn, hr]

end

/-- `I` holds of where a walk stands and what it has gathered, and `Q` when it ends: what there is to show for each way in
which a walk ends or goes on. -/
structure Walk.Tracks (d : Definition) (input : TurnInput) (I : Value → Walk → Prop) (Q : Ending → Walk → Prop) :
    Prop where
  idle {w : Walk} : I (.str []) w → Q .idle w
  outOfSteps {v : Value} {w : Walk} : v ≠ .str [] → I v w → Q .outOfSteps (w.exhaust input.settings.maxSteps v.plain)
  unknownNode {v : Value} {w : Walk} : v ≠ .str [] → (∀ id, v = .str id → d.node? id = none) → I v w →
    Q (.unknownNode v) w
  unusableId {v : Value} {w : Walk} : v.key? = none → I v w → Q (.unusableId v.kindName) w
  failed {n : Node} {w : Walk} {f : Fault} {s : Scene} : d.node? n.id = some n → n.id ≠ [] → I (.str n.id) w →
    n.run input (w.arrive n) = ⟨.error f, s⟩ → Q (.failed f) ({ w with scene := s }.visit n none)
  follows {n : Node} {w : Walk} {step : Step} {s : Scene} {e : Edge} : d.node? n.id = some n → n.id ≠ [] →
    I (.str n.id) w → n.run input (w.arrive n) = ⟨.ok step, s⟩ → step.move = .follow e →
    I (.str e.target) (w.record n s step)
  waits {n : Node} {w : Walk} {step : Step} {s : Scene} : d.node? n.id = some n → n.id ≠ [] → I (.str n.id) w →
    n.run input (w.arrive n) = ⟨.ok step, s⟩ → step.move = .await → Q (.waiting n.id) (w.record n s step)
  finishes {n : Node} {w : Walk} {step : Step} {s : Scene} : d.node? n.id = some n → n.id ≠ [] → I (.str n.id) w →
    n.run input (w.arrive n) = ⟨.ok step, s⟩ → step.move = .finish → Q .finished (w.record n s step)
  halts {n : Node} {w : Walk} {step : Step} {s : Scene} : d.node? n.id = some n → n.id ≠ [] → I (.str n.id) w →
    n.run input (w.arrive n) = ⟨.ok step, s⟩ → step.move = .halt → Q .halted ((w.record n s step).halt n)

namespace Walk.Tracks

variable {d : Definition} {input : TurnInput} {I : Value → Walk → Prop} {Q : Ending → Walk → Prop} {w : Walk}

theorem walk (k : Tracks d input I Q) (left : Nat) (id : Text) (hw : I (.str id) w) :
    Q (walk d input left id w).1 (walk d input left id w).2 := by
  induction left generalizing id w with
  | zero =>
    unfold Colloquy.walk
    split
    next hid => exact k.idle (List.isEmpty_iff.mp hid ▸ hw)
    next hid => exact k.outOfSteps (v := .str id) (by simpa using hid) hw
  | succ left ih =>
    unfold Colloquy.walk
    split
    next hid => exact k.idle (List.isEmpty_iff.mp hid ▸ hw)
    next hid =>
      replace hid : id ≠ [] := by simpa using hid
      dsimp only
      cases hn : d.node? id with
      | none =>
        refine k.unknownNode (by simpa using hid) (fun id' h => ?_) hw
        cases h
        exact hn
      | some n =>
        obtain rfl := Definition.id_of_node? hn
        dsimp only
        split
        next f s hr => exact k.failed hn hid hw hr
        next step s hr =>
          split
          next hm => exact k.waits hn hid hw hr hm
          next hm => exact k.finishes hn hid hw hr hm
          next hm => exact k.halts hn hid hw hr hm
          next e hm => exact ih e.target (k.follows hn hid hw hr hm)

theorem walkFrom (k : Tracks d input I Q) (entry : Value) (hw : I entry w) :
    Q (walkFrom d input entry w).1 (walkFrom d input entry w).2 := by
  unfold Colloquy.walkFrom
  split
  · exact k.walk _ _ hw
  next hstr =>
    split
    · exact k.outOfSteps (hstr []) hw
    · split
      · exact k.unknownNode (hstr []) (fun id h => absurd h (hstr id)) hw
      next hkey => exact k.unusableId (by simpa using hkey) hw

/-- What holds where a turn enters the flow, and is kept, holds of the outcome of the turn. -/
theorem outcome {it : Interpreter} {items : List KnowledgeItem} {call : TurnCall}
    (k : Tracks it.definition (it.input items call) I Q) (c : Context) (world : World)
    (enters : ∀ entry, it.entry c call.startNode = some entry → I entry (it.opening c world))
    (noStart : it.entry c call.startNode = none → Q .noStart (it.opening c world)) :
    Q (it.outcome c items call world).1 (it.outcome c items call world).2 := by
  unfold Interpreter.outcome
  split
  next entry he => exact k.walkFrom _ (enters entry he)
  next he => exact noStart he

end Walk.Tracks

/-- `I` holds along a walk and `Q` at its end: what there is to show for each way in which a walk ends or goes on. -/
structure Walk.Keeps (d : Definition) (input : TurnInput) (I : Walk → Prop) (Q : Ending → Walk → Prop) : Prop where
  outside {e : Ending} {w : Walk} : e.Outside → I w → Q e w
  outOfSteps {w : Walk} (id : Text) : I w → Q .outOfSteps (w.exhaust input.settings.maxSteps id)
  failed {n : Node} {w : Walk} {f : Fault} {s : Scene} : d.node? n.id = some n → I w →
    n.Does input (w.arrive n) (.fail s f) → Q (.failed f) ({ w with scene := s }.visit n none)
  follows {n : Node} {w : Walk} {step : Step} {s : Scene} {e : Edge} : d.node? n.id = some n → I w →
    n.Does input (w.arrive n) ⟨.ok step, s⟩ → step.move = .follow e → I (w.record n s step)
  waits {n : Node} {w : Walk} {step : Step} {s : Scene} : d.node? n.id = some n → n.id ≠ [] → I w →
    n.Does input (w.arrive n) ⟨.ok step, s⟩ → step.move = .await → Q (.waiting n.id) (w.record n s step)
  finishes {n : Node} {w : Walk} {step : Step} {s : Scene} : d.node? n.id = some n → I w →
    n.Does input (w.arrive n) ⟨.ok step, s⟩ → step.move = .finish → Q .finished (w.record n s step)
  halts {n : Node} {w : Walk} {step : Step} {s : Scene} : d.node? n.id = some n → I w →
    n.Does input (w.arrive n) ⟨.ok step, s⟩ → step.move = .halt → Q .halted ((w.record n s step).halt n)

namespace Walk.Keeps

variable {d : Definition} {input : TurnInput} {I : Walk → Prop} {Q : Ending → Walk → Prop} {w : Walk}

/-- What is kept wherever a walk stands is tracked. -/
theorem tracks (k : Keeps d input I Q) : Tracks d input (fun _ => I) Q where
  idle hw := k.outside trivial hw
  outOfSteps _ hw := k.outOfSteps _ hw
  unknownNode _ _ hw := k.outside trivial hw
  unusableId _ hw := k.outside trivial hw
  failed hn _ hw hr := k.failed hn hw (.of_run hr)
  follows hn _ hw hr hm := k.follows hn hw (.of_run hr) hm
  waits hn hid hw hr hm := k.waits hn hid hw (.of_run hr) hm
  finishes hn _ hw hr hm := k.finishes hn hw (.of_run hr) hm
  halts hn _ hw hr hm := k.halts hn hw (.of_run hr) hm

/-- What holds of the walk before its first node and is kept holds of the outcome of the turn. -/
theorem outcome {it : Interpreter} {items : List KnowledgeItem} {call : TurnCall}
    (k : Keeps it.definition (it.input items call) I Q) {c : Context} {world : World} (hw : I (it.opening c world)) :
    Q (it.outcome c items call world).1 (it.outcome c items call world).2 :=
  k.tracks.outcome c world (fun _ _ => hw) (fun _ => k.outside trivial hw)

end Walk.Keeps

/-! ## Two walks -/

/-- Two walks, each with an input of its own, in which every node does the same and keeps `R` between them. -/
structure Walk.Abreast (input input' : TurnInput) (R : Walk → Walk → Prop) : Prop where
  maxSteps : input'.settings.maxSteps = input.settings.maxSteps
  acts {w w' : Walk} (n : Node) : R w w' → ∃ result s s',
    n.run input (w.arrive n) = ⟨result, s⟩ ∧ n.run input' (w'.arrive n) = ⟨result, s'⟩ ∧
      (∀ step, R (w.record n s step) (w'.record n s' step)) ∧
      R ({ w with scene := s }.visit n none) ({ w' with scene := s' }.visit n none)
  note {w w' : Walk} (line : Text) : R w w' → R (w.note line) (w'.note line)
  halt {w w' : Walk} (n : Node) : R w w' → R (w.halt n) (w'.halt n)

/-- Walks that end alike, with `R` between them. -/
def Walk.EndAlike (R : Walk → Walk → Prop) (o o' : Ending × Walk) : Prop := o'.1 = o.1 ∧ R o.2 o'.2

namespace Walk.Abreast

variable {input input' : TurnInput} {R : Walk → Walk → Prop} {w w' : Walk}

theorem exhaust (k : Abreast input input' R) (h : R w w') (id : Text) :
    R (w.exhaust input.settings.maxSteps id) (w'.exhaust input'.settings.maxSteps id) := by
  rw [k.maxSteps]
  exact k.note _ h

theorem walk (k : Abreast input input' R) (d : Definition) (left : Nat) (id : Text) (h : R w w') :
    EndAlike R (walk d input left id w) (walk d input' left id w') := by
  induction left generalizing id w w' with
  | zero =>
    unfold Colloquy.walk
    split
    · exact ⟨rfl, h⟩
    · exact ⟨rfl, k.exhaust h id⟩
  | succ left ih =>
    unfold Colloquy.walk
    split
    · exact ⟨rfl, h⟩
    · dsimp only
      cases d.node? id with
      | none => exact ⟨rfl, h⟩
      | some n =>
        obtain ⟨result, s, s', hr, hr', recorded, failed⟩ := k.acts n h
        dsimp only
        rw [hr, hr']
        cases result with
        | error f => exact ⟨rfl, failed⟩
        | ok step =>
          dsimp only
          cases step.move with
          | await | finish => exact ⟨rfl, recorded step⟩
          | halt => exact ⟨rfl, k.halt n (recorded step)⟩
          | follow e => exact ih e.target (recorded step)

theorem walkFrom (k : Abreast input input' R) (d : Definition) (entry : Value) (h : R w w') :
    EndAlike R (walkFrom d input entry w) (walkFrom d input' entry w') := by
  unfold Colloquy.walkFrom
  split
  · rw [k.maxSteps]
    exact k.walk d _ _ h
  · have exhausted := k.exhaust h entry.plain
    rw [k.maxSteps] at exhausted ⊢
    split
    · exact ⟨rfl, exhausted⟩
    · split <;> exact ⟨rfl, h⟩

end Walk.Abreast

/-! ## Turns that are taken -/

namespace Interpreter

variable {it : Interpreter} {call : TurnCall} {w : World} {t : Turn}

/-- A turn is taken exactly when its context and its knowledge items can be read; then it is the outcome, settled. -/
theorem executeTurn_eq_ok_iff : it.executeTurn call w = .ok t ↔ ∃ c items, call.context.read = .ok c ∧
    call.knowledge.mapM GivenItem.read = .ok items ∧ t = it.take c items call w := by
  unfold executeTurn
  cases hc : call.context.read with
  | error e => simp
  | ok c =>
    cases hi : call.knowledge.mapM GivenItem.read with
    | error issues => simp
    | ok items =>
      simp only [Except.ok.injEq]
      exact ⟨fun h => ⟨c, items, rfl, rfl, h.symm⟩, fun ⟨_, _, rfl, rfl, h⟩ => h.symm⟩

/-- A turn is refused exactly when its context cannot be read, or else its knowledge items cannot. -/
theorem executeTurn_eq_error_iff {r : TurnRefusal} : it.executeTurn call w = .error r ↔
    (∃ e, call.context.read = .error e ∧ r = .context e) ∨
    ∃ c issues, call.context.read = .ok c ∧ call.knowledge.mapM GivenItem.read = .error issues ∧ r = .knowledge issues := by
  unfold executeTurn
  cases call.context.read with
  | error e => simp [eq_comm]
  | ok c => cases call.knowledge.mapM GivenItem.read <;> simp [eq_comm]

/-- Settling a walk leaves its messages, its variables and its history as they are. -/
theorem settle_keeps (ending : Ending) (done : Walk) : (settle ending done).messages = done.messages ∧
    (settle ending done).context.vars = done.scene.context.vars ∧
    (settle ending done).context.history = done.scene.context.history := by
  cases ending <;> exact ⟨rfl, rfl, rfl⟩

theorem settle_error (ending : Ending) (done : Walk) : (settle ending done).error = ending.error? := by
  cases ending <;> rfl

/-- Only a waiting turn names a node to resume at: the one that it waits at. -/
theorem settle_next {ending : Ending} {done : Walk} {id : Text} (h : (settle ending done).next = some id) :
    ending = .waiting id ∧ (settle ending done).context = done.scene.context := by
  cases ending with
  | waiting id' =>
    cases h
    exact ⟨rfl, rfl⟩
  | _ => cases h

end Interpreter

end Colloquy
