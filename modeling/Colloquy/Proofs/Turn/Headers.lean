import Colloquy.Proofs.Flow.Wire
import Colloquy.Proofs.Json.RoundTrip
import Colloquy.Proofs.Turn.Body

/-!
# Headers as an object and as its JSON text

The editor stores the headers of a node as an object of texts, or as the JSON text of this object. Both mean the same mapping
(`Headers.entries_json`), so a node does the same with either, in every scene (`Node.run_withHeaders`); the requests that it
sends carry the mapping with its values rendered (`Node.headers_of_requests`).
-/

namespace Colloquy

/-! ## The mapping that is meant -/

namespace Headers

/-- The JSON text of a mapping. -/
def json (h : Entries Text Text) : Text := Json.write (.object (h.mapValues .str))

variable {h : Entries Text Text}

theorem portable_texts (distinct : h.keys.Nodup) (unicode : ∀ e ∈ h, e.1.isUnicode = true ∧ e.2.isUnicode = true) :
    (Value.object (h.mapValues .str)).Portable := by
  refine .object ?_ (fun e hm => ?_) fun e hm => ?_
  · show (Entries.keys (h.mapValues Value.str)).Nodup
    rw [Entries.keys_mapValues]
    exact distinct
  · obtain ⟨e, he, rfl⟩ := List.mem_map.mp hm
    exact (unicode e he).1
  · obtain ⟨e, he, rfl⟩ := List.mem_map.mp hm
    exact .str (unicode e he).2

/-- **The JSON text of a mapping means the mapping**, with its names in their order. -/
theorem entries_json (distinct : h.keys.Nodup) (unicode : ∀ e ∈ h, e.1.isUnicode = true ∧ e.2.isUnicode = true) :
    (Headers.text (json h)).entries = .ok h := by
  have read : Json.read .standard (json h) = .ok (.object (h.mapValues .str)) := by
    rw [json, Json.read_write (portable_texts distinct unicode), Json.check_object_texts]
    rfl
  have plain : (h.mapValues Value.str).mapValues Value.plain = h := (Entries.mapValues_mapValues ..).trans (List.map_id h)
  rw [entries, read]
  exact congrArg Except.ok plain

end Headers

/-! ## Nodes with either form -/

namespace Node

/-- The node with other headers. -/
def withHeaders (n : Node) (h : Headers) : Node := { n with apiHeaders := some h }

variable {n : Node} {input : TurnInput} {s : Scene} {a b : Headers} {h : Entries Text Text}

theorem request_withHeaders (same : a.entries = b.entries) (url : Text) (c : Context) :
    (n.withHeaders a).request input url c = (n.withHeaders b).request input url c := by
  have headers : (n.withHeaders a).headers = (n.withHeaders b).headers := same
  unfold request
  rw [headers]
  rfl

theorem runApiCall_withHeaders (same : a.entries = b.entries) :
    (n.withHeaders a).runApiCall input s = (n.withHeaders b).runApiCall input s := by
  have requests (url : Text) : (n.withHeaders a).request input url s.context = (n.withHeaders b).request input url s.context :=
    request_withHeaders same url s.context
  unfold runApiCall
  simp only [requests]
  rfl

/-- **A node does the same with headers that mean the same**, in every scene. -/
theorem run_withHeaders (same : a.entries = b.entries) :
    (n.withHeaders a).run input s = (n.withHeaders b).run input s := by
  have kind : (n.withHeaders a).kind? = (n.withHeaders b).kind? := rfl
  unfold run
  rw [kind]
  cases (n.withHeaders b).kind? with
  | none => rfl
  | some kind =>
    cases kind with
    | apiCall => exact runApiCall_withHeaders same
    | start | sendMessage | getUserInput | callModel | condition | lookup | wait | finish | action | code | transition
    | agentSkill => rfl

/-- Every request of a node carries the headers of the node, with their values rendered. -/
theorem headers_of_requests (hk : n.kind? = some .apiCall) (hh : n.headers = .ok h) :
    ∃ sent, (n.run input s).scene.world.journal.requests = s.world.journal.requests ++ sent ∧
      ∀ r ∈ sent, r.headers = h.mapValues (Template.render s.context) := by
  rw [run_apiCall hk]
  rcases n.world_apiCall input s with ⟨url, r, -, hr, sends⟩ | ⟨-, still⟩
  · obtain ⟨headers, body, seconds, made, -, -, rfl⟩ := request_eq_ok_iff.mp hr
    cases hh.symm.trans made
    refine ⟨_, by rw [sends]; rfl, fun r hm => ?_⟩
    rw [List.eq_of_mem_replicate hm]
    rfl
  · exact ⟨[], by rw [still, List.append_nil], nofun⟩

end Node

/-! ## One form for the other -/

namespace Headers

/-- **Headers as an object and as its JSON text are interchangeable**, for every mapping that has no name twice and no halves of
surrogate pairs. Either is read as such from what the editor stores, and means the mapping; a node does the same with either in
every scene; and if it calls a service, its requests carry the mapping with the values rendered. -/
theorem interchangeable {h : Entries Text Text} (distinct : h.keys.Nodup)
    (unicode : ∀ e ∈ h, e.1.isUnicode = true ∧ e.2.isUnicode = true) (n : Node) :
    codec.read (.object (h.mapValues .str)) = .value (.table h) ∧ codec.read (.str (json h)) = .value (.text (json h)) ∧
    (n.withHeaders (.table h)).headers = .ok h ∧ (n.withHeaders (.text (json h))).headers = .ok h ∧
    ∀ input s, (n.withHeaders (.text (json h))).run input s = (n.withHeaders (.table h)).run input s ∧
      (n.kind? = some .apiCall → ∃ sent,
        ((n.withHeaders (.table h)).run input s).scene.world.journal.requests = s.world.journal.requests ++ sent ∧
        ∀ r ∈ sent, r.headers = h.mapValues (Template.render s.context)) := by
  have meant := entries_json distinct unicode
  refine ⟨Node.lawful_headers.read_write (.table h), rfl, rfl, meant, fun input s => ⟨?_, fun hk => ?_⟩⟩
  · exact Node.run_withHeaders meant
  · exact Node.headers_of_requests hk rfl

/-- Headers that name a parcel, with characters that JSON text escapes. -/
def labels : Entries Text Text := [("X-Näme", "\"\x7b\x7bp\x7d\x7d\"\\\n"), ("", "😀")]

/-- The courier, given these headers as JSON text, sends one request with them rendered. -/
theorem interchangeable_courier :
    labels.keys.Nodup ∧ (∀ e ∈ labels, e.1.isUnicode = true ∧ e.2.isUnicode = true) ∧
      ∃ n input sent, Definition.courier.node? "call" = some n ∧ n.kind? = some .apiCall ∧
        ((n.withHeaders (.text (json labels))).run input
          ⟨Interpreter.parcel "[1]", false, ⟨[], [.reply 200 "ok"], .empty⟩⟩).scene.world.journal.requests = sent ∧
        sent.length = 1 ∧ ∀ r ∈ sent, r.headers = ([("X-Näme", "\"[1]\"\\\n"), ("", "😀")] : Entries Text Text) := by
  have distinct : labels.keys.Nodup := by decide
  have unicode : ∀ e ∈ labels, e.1.isUnicode = true ∧ e.2.isUnicode = true := by decide
  obtain ⟨n, input, hn, hk, once⟩ : ∃ n input, Definition.courier.node? "call" = some n ∧ n.kind? = some .apiCall ∧
      ((n.withHeaders (.table labels)).run input
        ⟨Interpreter.parcel "[1]", false, ⟨[], [.reply 200 "ok"], .empty⟩⟩).scene.world.journal.requests.length = 1 :=
    ⟨_, (Interpreter.make .courier .default).input [] ⟨.fresh, none, none, [], none⟩, rfl, rfl, rfl⟩
  obtain ⟨-, -, -, -, acts⟩ := interchangeable distinct unicode n
  obtain ⟨same, carried⟩ := acts input ⟨Interpreter.parcel "[1]", false, ⟨[], [.reply 200 "ok"], .empty⟩⟩
  obtain ⟨sent, requests, headers⟩ := carried hk
  have rendered : labels.mapValues (Template.render (Interpreter.parcel "[1]")) =
      ([("X-Näme", "\"[1]\"\\\n"), ("", "😀")] : Entries Text Text) := by decide +kernel
  refine ⟨distinct, unicode, n, input, sent, hn, hk, ?_, ?_, fun r hm => (headers r hm).trans rendered⟩
  · rw [same]
    exact requests
  · rw [requests] at once
    exact once

end Headers

end Colloquy
