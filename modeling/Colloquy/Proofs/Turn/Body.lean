import Colloquy.Proofs.Json.Lengths
import Colloquy.Proofs.Service.Exchange
import Colloquy.Proofs.Turn.Growth
import Colloquy.Proofs.Turn.Resilience

/-!
# Texts sent as bodies

A node whose body variable holds a text takes the text for JSON first. A list or an object is then sent as a value, and what
is no JSON is sent as it is. Every other value is sent by its own text, which need not be the text that was read: a truth
value begins with a capital letter, a string has lost its quotes, a number is written as numbers are shown, and null is not
sent at all. So the requests carry the text exactly when it is sent unaltered (`Http.Unaltered`, `Node.sends_text_iff`); the
courier's `true` is not (`Interpreter.alters_courier`).
-/

namespace Colloquy

/-! ## Texts and their bodies -/

namespace Http

/-- The request carries a text: as the value that the text denotes, or as the text itself. -/
def Request.Carries (r : Request) (text : Text) : Prop :=
  (∃ v, r.body = some (.json v) ∧ Json.read .standard text = .ok v) ∨ r.body = some (.content text)

/-- **A text that is sent unaltered**: one that is no JSON, that denotes a list or an object, or that writes a number as
numbers are shown. -/
inductive Unaltered (text : Text) : Prop
  | raw : Json.read .standard text = .error .malformed → Unaltered text
  | list {items : List Value} : Json.read .standard text = .ok (.list items) → Unaltered text
  | object {es : Entries Text Value} : Json.read .standard text = .ok (.object es) → Unaltered text
  | int {i : Int} : Json.read .standard text = .ok (.int i) → (Value.int i).plain = text → Unaltered text
  | float {x : Float} : Json.read .standard text = .ok (.float x) → (Value.float x).plain = text → Unaltered text

/-- The body that a text makes, if any. -/
inductive Body.Stands (text : Text) : Option Body → Prop
  | raw : Json.read .standard text = .error .malformed → Stands text (some (.content text))
  | value {v : Value} : Json.read .standard text = .ok v → Stands text (ofValue? v)

/-- The text of a truth value begins with a capital letter, and so is no JSON. -/
theorem read_plain_bool (b : Bool) : Json.read .standard (Value.bool b).plain = .error .malformed := by
  cases b <;> rfl

variable {r : Request} {text : Text}

/-- A value that is sent by its text is sent by the text that was read only if it is a number. -/
theorem Unaltered.of_content {v : Value} (hr : Json.read .standard text = .ok v)
    (hb : Body.ofValue? v = some (.content text)) : Unaltered text := by
  cases v with
  | null | list | object => cases hb
  | bool b =>
    obtain rfl : (Value.bool b).plain = text := by simpa [Body.ofValue?] using hb
    rw [read_plain_bool] at hr
    cases hr
  | int i => exact .int hr (by simpa [Body.ofValue?] using hb)
  | float x => exact .float hr (by simpa [Body.ofValue?] using hb)
  | str t =>
    have same : t = text := by simpa [Body.ofValue?, Value.plain] using hb
    have shorter := Json.length_lt_of_read_eq_str hr
    rw [same] at shorter
    exact absurd shorter (Nat.lt_irrefl _)

/-- A value that is sent as a value is a list or an object. -/
theorem Unaltered.of_json {v v' : Value} (hr : Json.read .standard text = .ok v)
    (hb : Body.ofValue? v = some (.json v')) : Unaltered text := by
  cases v with
  | null | bool | int | float | str => cases hb
  | list items => exact .list hr
  | object es => exact .object hr

theorem Body.Stands.carries_iff (h : Body.Stands text r.body) : r.Carries text ↔ Unaltered text := by
  constructor
  · rintro (⟨v, hb, hr⟩ | hb)
    · rw [hb] at h
      generalize made : some (Body.json v) = body at h
      cases h with
      | raw => cases made
      | value hr => exact .of_json hr made.symm
    · rw [hb] at h
      generalize made : some (Body.content text) = body at h
      cases h with
      | raw hr => exact .raw hr
      | value hr => exact .of_content hr made.symm
  · intro unaltered
    unfold Request.Carries
    generalize r.body = body at h
    cases h with
    | raw => exact .inr rfl
    | value hr =>
      rename_i v
      cases unaltered with
      | raw hr' => cases hr.symm.trans hr'
      | list hr' | object hr' =>
        cases hr.symm.trans hr'
        exact .inl ⟨_, rfl, hr⟩
      | int hr' shown | float hr' shown =>
        cases hr.symm.trans hr'
        exact .inr (congrArg (some ∘ Body.content) shown)

/-- Only null makes no body. -/
theorem Body.Stands.eq_none_iff {body : Option Body} (h : Body.Stands text body) :
    body = none ↔ Json.read .standard text = .ok .null := by
  cases h with
  | raw hr =>
    rw [hr]
    exact iff_of_false nofun nofun
  | value hr =>
    rw [hr]
    rename_i v
    cases v <;> simp [ofValue?]

end Http

/-! ## Nodes that send a text -/

namespace Node

variable {n : Node} {input : TurnInput} {s : Scene} {name text url : Text} {r : Http.Request}

/-- No request is made: there is no address, or the headers, the body or the time-out are beyond the limits. -/
inductive Prevented (n : Node) (input : TurnInput) (text : Text) : Prop
  | address : nonEmpty? n.apiUrl = none → Prevented n input text
  | headers {e : Json.ReadError} : n.headers = .error e → Prevented n input text
  | body {e : Json.ReadError} : Json.read .standard text = .error e → e ≠ .malformed → Prevented n input text
  | timeout : Decimal.divide? (n.timeoutMs input) 1000 = none → Prevented n input text

/-- A held text makes the body that it stands for. -/
theorem requestBody_eq_ok_iff {c : Context} {body : Option Http.Body} (hv : nonEmpty? n.apiBodyVariable = some name)
    (held : c.get? name = some (.str text)) : n.requestBody c = .ok body ↔ Http.Body.Stands text body := by
  -- the history is a list and no text
  have own : name ≠ Context.historyKey := by
    rintro rfl
    cases held
  unfold requestBody
  rw [hv]
  dsimp only
  rw [if_neg own, held]
  dsimp only
  constructor
  · intro h
    split at h
    next hr =>
      cases h
      exact .value hr
    next hr =>
      cases h
      exact .raw hr
    next => cases h
  · rintro (hr | hr)
    · rw [hr]
    · rw [hr]

theorem request_eq_ok_iff {c : Context} : n.request input url c = .ok r ↔
    ∃ headers body seconds, n.headers = .ok headers ∧ n.requestBody c = .ok body ∧
      Decimal.divide? (n.timeoutMs input) 1000 = some seconds ∧
      r = .make (Template.render c url) (some n.apiMethod.name) (headers.mapValues (Template.render c)) body
        (.float seconds) := by
  unfold request
  cases n.headers with
  | error e => simp [Except.mapError, bind, Except.bind]
  | ok headers =>
    cases n.requestBody c with
    | error e => simp [Except.mapError, bind, Except.bind]
    | ok body =>
      cases Decimal.divide? (n.timeoutMs input) 1000 with
      | none => simp [Except.mapError, bind, Except.bind, throw, throwThe, MonadExceptOf.throw]
      | some seconds => simp [Except.mapError, bind, Except.bind, pure, Except.pure, eq_comm]

/-- The methods of requests that carry a body. -/
def carriers : List Method := [.post, .put, .patch]

theorem not_bodyless_of_mem_carriers {m : Method} (hm : m ∈ carriers) :
    Http.bodyless (Text.upper ((nonEmpty? (some m.name)).getD "GET")) = false := by
  revert m
  decide

/-- A request that is made has the body that the text stands for. -/
theorem stands_of_request {c : Context} (hm : n.apiMethod ∈ carriers) (hv : nonEmpty? n.apiBodyVariable = some name)
    (held : c.get? name = some (.str text)) (hr : n.request input url c = .ok r) : Http.Body.Stands text r.body := by
  obtain ⟨headers, body, seconds, -, hb, -, rfl⟩ := request_eq_ok_iff.mp hr
  have whole : (Http.Request.make (Template.render c url) (some n.apiMethod.name) (headers.mapValues (Template.render c))
      body (.float seconds)).body = body := by
    unfold Http.Request.make
    dsimp only
    rw [not_bodyless_of_mem_carriers hm]
    rfl
  rw [whole]
  exact (requestBody_eq_ok_iff hv held).mp hb

/-- A node with an address makes a request unless it is prevented. -/
theorem exists_request_iff {c : Context} (hurl : nonEmpty? n.apiUrl = some url)
    (hv : nonEmpty? n.apiBodyVariable = some name) (held : c.get? name = some (.str text)) :
    (∃ r, n.request input url c = .ok r) ↔ ¬n.Prevented input text := by
  constructor
  · rintro ⟨r, hr⟩ prevented
    obtain ⟨headers, body, seconds, hh, hb, hd, -⟩ := request_eq_ok_iff.mp hr
    cases prevented with
    | address h => cases hurl.symm.trans h
    | headers h => cases hh.symm.trans h
    | timeout h => cases hd.symm.trans h
    | body h hm =>
      cases (requestBody_eq_ok_iff hv held).mp hb with
      | raw h' =>
        cases h.symm.trans h'
        exact hm rfl
      | value h' => cases h.symm.trans h'
  · intro free
    obtain ⟨headers, hh⟩ : ∃ headers, n.headers = .ok headers := by
      cases hh : n.headers with
      | error e => exact absurd (.headers hh) free
      | ok headers => exact ⟨headers, rfl⟩
    obtain ⟨seconds, hd⟩ : ∃ seconds, Decimal.divide? (n.timeoutMs input) 1000 = some seconds :=
      Option.ne_none_iff_exists'.mp fun hd => free (.timeout hd)
    obtain ⟨body, hb⟩ : ∃ body, Http.Body.Stands text body := by
      cases hr : Json.read .standard text with
      | ok v => exact ⟨_, .value hr⟩
      | error e =>
        by_cases he : e = .malformed
        · exact ⟨_, .raw (he ▸ hr)⟩
        · exact absurd (.body hr he) free
    exact ⟨_, request_eq_ok_iff.mpr ⟨headers, body, seconds, hh, (requestBody_eq_ok_iff hv held).mpr hb, hd, rfl⟩⟩

/-- **What becomes of a text body.** A node that calls a service by a method with a body, and whose body variable holds a
text, sends requests unless it is prevented from it. Each of them carries the text exactly if the text is sent unaltered, and
has no body exactly if the text says null. -/
theorem sends_text_iff (hk : n.kind? = some .apiCall) (hm : n.apiMethod ∈ carriers)
    (hv : nonEmpty? n.apiBodyVariable = some name) (held : s.context.get? name = some (.str text)) :
    ∃ sent, (n.run input s).scene.world.journal.requests = s.world.journal.requests ++ sent ∧
      (sent = [] ↔ n.Prevented input text) ∧
      ∀ r ∈ sent, (r.Carries text ↔ Http.Unaltered text) ∧ (r.body = none ↔ Json.read .standard text = .ok .null) := by
  have run : n.run input s = n.runApiCall input s := by
    unfold Node.run
    rw [hk]
  rw [run]
  rcases n.world_apiCall input s with ⟨url, r, hurl, hr, sends⟩ | ⟨none_made, still⟩
  · obtain ⟨sent, result, course⟩ := Http.exists_course s.world.outcomes (Nat.succ_pos n.apiRetryAttempts.toNat)
    refine ⟨List.replicate sent r, ?_, iff_of_false ?_ ((exists_request_iff hurl hv held).mp ⟨r, hr⟩), ?_⟩
    · rw [sends, World.send_of_course course]
      rfl
    · rw [List.replicate_eq_nil_iff]
      exact course.sent_pos.ne'
    · intro r' hr'
      obtain rfl := List.eq_of_mem_replicate hr'
      have stands := stands_of_request hm hv held hr
      exact ⟨stands.carries_iff, stands.eq_none_iff⟩
  · refine ⟨[], by rw [still, List.append_nil], iff_of_true rfl ?_, nofun⟩
    cases hurl : nonEmpty? n.apiUrl with
    | none => exact .address hurl
    | some url =>
      by_contra free
      obtain ⟨r, hr⟩ := (exists_request_iff hurl hv held).mpr free
      exact none_made url r hurl hr

/-- The courier is not prevented from sending a list, and sends it as it was written. -/
theorem sends_text_courier : ∃ n input, Definition.courier.node? "call" = some n ∧ n.kind? = some .apiCall ∧
    n.apiMethod ∈ carriers ∧ nonEmpty? n.apiBodyVariable = some "p" ∧
    (Interpreter.parcel "[1, 2]").get? ("p" : Text) = some (.str "[1, 2]") ∧
    ∃ sent, (n.run input ⟨Interpreter.parcel "[1, 2]", false, ⟨[], [.reply 200 "ok"], .empty⟩⟩).scene.world.journal.requests =
        sent ∧ sent ≠ [] ∧ ∀ r ∈ sent, r.Carries "[1, 2]" := by
  let input := (Interpreter.make .courier .default).input [] ⟨.fresh, none, none, [], none⟩
  let s : Scene := ⟨Interpreter.parcel "[1, 2]", false, ⟨[], [.reply 200 "ok"], .empty⟩⟩
  obtain ⟨n, hn, hk, hm, hv, hurl, hheaders, hd⟩ : ∃ n, Definition.courier.node? "call" = some n ∧
      n.kind? = some .apiCall ∧ n.apiMethod ∈ carriers ∧ nonEmpty? n.apiBodyVariable = some "p" ∧
      nonEmpty? n.apiUrl = some ("http://h/" : Text) ∧ n.headers = .ok [] ∧
      Decimal.divide? (n.timeoutMs input) 1000 ≠ none := ⟨_, rfl, rfl, by decide, rfl, rfl, rfl, by decide +kernel⟩
  have held : s.context.get? ("p" : Text) = some (.str "[1, 2]") := rfl
  have list : Json.read .standard "[1, 2]" = .ok (.list [.int 1, .int 2]) := rfl
  obtain ⟨sent, requests, empty_iff, each⟩ := @sends_text_iff n input s "p" "[1, 2]" hk hm hv held
  have free : ¬n.Prevented input "[1, 2]" := by
    rintro (h | h | h | h)
    · cases hurl.symm.trans h
    · cases hheaders.symm.trans h
    · cases list.symm.trans h
    · exact hd h
  exact ⟨n, input, hn, hk, hm, hv, held, sent, requests, fun nothing => free (empty_iff.mp nothing),
    fun r hr => (each r hr).1.mpr (.list list)⟩

end Node

namespace Interpreter

/-- **Not every text arrives as it was written**: the courier's parcel `true` is sent with a capital letter. -/
theorem alters_courier : ∃ n t r, Definition.courier.node? "call" = some n ∧ n.kind? = some .apiCall ∧
    n.apiMethod = .post ∧ nonEmpty? n.apiBodyVariable = some "p" ∧
    (parcel "true").get? ("p" : Text) = some (.str "true") ∧
    (make .courier .default).executeTurn ⟨.loaded (parcel "true"), none, none, [], none⟩
      ⟨[], [.reply 200 "ok"], .empty⟩ = .ok t ∧
    t.world.journal.requests = [r] ∧ r.body = some (.content "True") ∧ ¬r.Carries "true" := by
  refine ⟨_, _, _, rfl, rfl, rfl, rfl, rfl, rfl, rfl, rfl, ?_⟩
  rintro (⟨v, hb, -⟩ | hb)
  · cases hb
  · cases hb

end Interpreter

end Colloquy
