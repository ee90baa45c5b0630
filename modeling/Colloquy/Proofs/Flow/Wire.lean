import Colloquy.Flow.Definition
import Colloquy.Flow.Knowledge
import Colloquy.Proofs.Schema.Wire

/-!
# Definitions come back from their editor form

Definitions, nodes, edges and knowledge items that were read from objects are read again from what is written of them, and
come back with all of their fields and extra entries but the extra entries that hold null (`pruned`), which make no
difference to what is written (`reload_toWire`). Only an object that gives a field under both of its names is excepted.
-/

namespace Colloquy

open Schema

/-! ## Edges -/

namespace Edge

/-- The edge without the extra entries that hold null. -/
def pruned (e : Edge) : Edge := { e with extras := withoutNulls e.extras }

theorem pruned_eq_self (e : Edge) (h : e.extras = []) : e.pruned = e := by
  cases e
  cases h
  rfl

theorem toWire_pruned (e : Edge) : e.pruned.toWire = e.toWire := congrArg Value.object (wire_withoutNulls e.fieldEntries _)

/-- The fields of an edge with their values. -/
def written (e : Edge) : List Written :=
  [.same Fields.id e.id, .same Fields.source e.source, .same Fields.target e.target, .same Fields.label e.label,
    .same Fields.condition e.condition, .same Fields.edgeType e.edgeType]

theorem separate_names : Separate Fields.names := by
  apply Spelled.separate
  case h => repeat constructor
  case distinct => decide +kernel
  case plain => decide +kernel

theorem lawful_edgeType : EdgeType.codec.Lawful :=
  Codec.lawful_choice (fun t => by cases t <;> decide) (fun t => by cases t <;> decide)

theorem returns_written (e : Edge) : ∀ w ∈ e.written, w.Returns := by
  have text := Written.returns_required Codec.lawful_text
  have text? := Written.returns_optional Codec.lawful_text
  simp only [written, List.forall_mem_cons]
  exact ⟨text .., text .., text .., text? .., text? .., Written.returns_optional lawful_edgeType .., nofun⟩

theorem read_toWire {e : Edge} (foreign : Foreign Fields.names e.extras) : read e.toWire = .value e.pruned := by
  refine readRecord_written ofEntries e.written separate_names foreign e.returns_written fun es reads others => ?_
  change Schema.extras Fields.names es = withoutNulls e.extras at others
  simp only [written, List.forall_mem_cons, Written.same] at reads
  simp only [ofEntries, reads, others]
  rfl

theorem all_extras (es : Entries Text Value) : (ofEntries es).All fun e => e.extras = Schema.extras Fields.names es := by
  refine Reading.all_seq_value ?_
  repeat refine Reading.all_seq ?_
  exact Reading.all_map (fun _ => by intros; rfl) _

theorem foreign_of_read {v : Value} {e : Edge} (h : read v = .value e) (once : GivesOnce Fields.names v) :
    Foreign Fields.names e.extras :=
  foreign_of_readRecord all_extras h once

end Edge

/-! ## Nodes -/

namespace Node

/-- The node without the extra entries that hold null. -/
def pruned (n : Node) : Node := { n with extras := withoutNulls n.extras }

theorem pruned_eq_self (n : Node) (h : n.extras = []) : n.pruned = n := by
  cases n
  cases h
  rfl

theorem toWire_pruned (n : Node) : n.pruned.toWire = n.toWire := congrArg Value.object (wire_withoutNulls n.fieldEntries _)

/-- The fields of a node with their values. -/
def written (n : Node) : List Written :=
  [.same Fields.id n.id, .same Fields.type n.type, .same Fields.label n.label, .same Fields.position n.position,
    .same Fields.message n.message, .same Fields.prompt n.prompt, .same Fields.variableName n.variableName,
    .same Fields.inputType n.inputType, .same Fields.validationRules n.validationRules,
    .same Fields.llmPrompt n.llmPrompt, .same Fields.outputVariable n.outputVariable,
    .same Fields.useKnowledge n.useKnowledge, .same Fields.conditionVariable n.conditionVariable,
    .same Fields.useLLMForDecision n.useLLMForDecision, .same Fields.conditionExpressions n.conditionExpressions,
    .same Fields.apiUrl n.apiUrl, .same Fields.apiMethod n.apiMethod, .same Fields.apiHeaders n.apiHeaders,
    .same Fields.apiBodyVariable n.apiBodyVariable, .same Fields.apiTimeout n.apiTimeout,
    .same Fields.apiRetryAttempts n.apiRetryAttempts, .same Fields.apiOutputVariable n.apiOutputVariable,
    .same Fields.endOutputVariable n.endOutputVariable, .same Fields.qnaKnowledgeBaseId n.qnaKnowledgeBaseId,
    .same Fields.qnaQueryVariable n.qnaQueryVariable, .same Fields.qnaThreshold n.qnaThreshold,
    .same Fields.qnaOutputVariable n.qnaOutputVariable, .same Fields.qnaFallbackText n.qnaFallbackText,
    .same Fields.waitDurationMs n.waitDurationMs]

theorem separate_names : Separate Fields.names := by
  apply Spelled.separate
  case h => repeat constructor
  case distinct => decide +kernel
  case plain => decide +kernel

/-- Methods are lawful: their names are upper case already. -/
theorem lawful_method : Method.codec.Lawful := by
  have named : (Codec.choice Method.all Method.name).Lawful :=
    Codec.lawful_choice (fun m => by cases m <;> decide) (fun m => by cases m <;> decide)
  have upper (m : Method) : Text.upper m.name = m.name := by cases m <;> decide
  refine ⟨fun m => ?_, fun _ => rfl⟩
  show (Codec.choice Method.all Method.name).read (.str (Text.upper m.name)) = _
  rw [upper m]
  exact named.read_write m

/-- Headers are lawful: an object is not read as a text, nor a text as an object. -/
theorem lawful_headers : Headers.codec.Lawful := by
  refine ⟨fun h => ?_, fun h => by cases h <;> rfl⟩
  cases h with
  | text s => rfl
  | table es =>
    have table := Codec.lawful_text.table.read_write es
    have read : Headers.codec.read (.object (es.mapValues .str)) = .value (.table es) := by
      unfold Headers.codec
      dsimp only
      rw [show Codec.text.table.read (.object (es.mapValues .str)) = .value es from table]
    exact read

theorem returns_written (n : Node) : ∀ w ∈ n.written, w.Returns := by
  have text := Written.returns_required Codec.lawful_text
  have text? := Written.returns_optional Codec.lawful_text
  have flag := Written.returns_withDefault Codec.lawful_flag
  have whole := Written.returns_withDefault Codec.lawful_whole
  simp only [written, List.forall_mem_cons]
  exact ⟨text .., text .., text? .., Written.returns_optional Codec.lawful_real.table .., text? .., text? .., text? ..,
    text? .., text? .., text? .., text? .., flag .., text? .., flag .., Written.returns_optional Codec.lawful_text.list ..,
    text? .., Written.returns_withDefault lawful_method .., Written.returns_optional lawful_headers .., text? ..,
    Written.returns_optional Codec.lawful_whole .., whole .., text? .., text? .., text? .., text? ..,
    Written.returns_withDefault Codec.lawful_real .., text? .., text? .., whole .., nofun⟩

theorem read_toWire {n : Node} (foreign : Foreign Fields.names n.extras) : read n.toWire = .value n.pruned := by
  refine readRecord_written ofEntries n.written separate_names foreign n.returns_written fun es reads others => ?_
  change Schema.extras Fields.names es = withoutNulls n.extras at others
  simp only [written, List.forall_mem_cons, Written.same] at reads
  simp only [ofEntries, reads, others]
  rfl

theorem all_extras (es : Entries Text Value) : (ofEntries es).All fun n => n.extras = Schema.extras Fields.names es := by
  refine Reading.all_seq_value ?_
  repeat refine Reading.all_seq ?_
  exact Reading.all_map (fun _ => by intros; rfl) _

theorem foreign_of_read {v : Value} {n : Node} (h : read v = .value n) (once : GivesOnce Fields.names v) :
    Foreign Fields.names n.extras :=
  foreign_of_readRecord all_extras h once

end Node

/-! ## Knowledge items -/

namespace KnowledgeItem

/-- The item without the extra entries that hold null. -/
def pruned (k : KnowledgeItem) : KnowledgeItem := { k with extras := withoutNulls k.extras }

theorem toWire_pruned (k : KnowledgeItem) : k.pruned.toWire = k.toWire :=
  congrArg Value.object (wire_withoutNulls k.fieldEntries _)

/-- The fields of an item with their values. -/
def written (k : KnowledgeItem) : List Written :=
  [.same Fields.id k.id, .same Fields.fileName k.fileName, .same Fields.uploadedAt k.uploadedAt,
    .same Fields.summary k.summary, .same Fields.keywords k.keywords]

theorem separate_names : Separate Fields.names := by
  apply Spelled.separate
  case h => repeat constructor
  case distinct => decide +kernel
  case plain => decide +kernel

/-- Keywords are lawful: only a list without any counts as absent, and absence means no keywords. -/
theorem lawful_keywords : keywordsCodec.Lawful := by
  refine ⟨fun words => ?_, fun _ => rfl⟩
  cases words with
  | nil => rfl
  | cons word words => exact Codec.lawful_text.list.read_write (word :: words)

theorem returns_written (k : KnowledgeItem) : ∀ w ∈ k.written, w.Returns := by
  simp only [written, List.forall_mem_cons]
  exact ⟨Written.returns_required Codec.lawful_text .., Written.returns_withDefault Codec.lawful_text ..,
    Written.returns_optional Codec.lawful_text .., Written.returns_optional Codec.lawful_text ..,
    Written.returns_withDefault lawful_keywords .., nofun⟩

theorem read_toWire {k : KnowledgeItem} (foreign : Foreign Fields.names k.extras) : read k.toWire = .value k.pruned := by
  refine readRecord_written ofEntries k.written separate_names foreign k.returns_written fun es reads others => ?_
  change Schema.extras Fields.names es = withoutNulls k.extras at others
  simp only [written, List.forall_mem_cons, Written.same] at reads
  simp only [ofEntries, reads, others]
  rfl

theorem all_extras (es : Entries Text Value) : (ofEntries es).All fun k => k.extras = Schema.extras Fields.names es := by
  refine Reading.all_seq_value ?_
  repeat refine Reading.all_seq ?_
  exact Reading.all_map (fun _ => by intros; rfl) _

theorem foreign_of_read {v : Value} {k : KnowledgeItem} (h : read v = .value k) (once : GivesOnce Fields.names v) :
    Foreign Fields.names k.extras :=
  foreign_of_readRecord all_extras h once

end KnowledgeItem

/-! ## Definitions -/

namespace Definition

/-- The definition without the extra entries that hold null, its own and those of its nodes and edges. -/
def pruned (d : Definition) : Definition :=
  { d with nodes := d.nodes.map Node.pruned, edges := d.edges.map Edge.pruned, extras := withoutNulls d.extras }

theorem toWire_pruned (d : Definition) : d.pruned.toWire = d.toWire := by
  have nodes : Fields.nodes.entry (d.nodes.map Node.pruned) = Fields.nodes.entry d.nodes := by
    have same : (d.nodes.map Node.pruned).map Node.toWire = d.nodes.map Node.toWire :=
      (List.map_map ..).trans (List.map_congr_left fun n _ => n.toWire_pruned)
    exact congrArg (fun items => (Fields.nodes.key, Value.list items)) same
  have edges : Fields.edges.entry (d.edges.map Edge.pruned) = Fields.edges.entry d.edges := by
    have same : (d.edges.map Edge.pruned).map Edge.toWire = d.edges.map Edge.toWire :=
      (List.map_map ..).trans (List.map_congr_left fun e _ => e.toWire_pruned)
    exact congrArg (fun items => (Fields.edges.key, Value.list items)) same
  have fields : d.pruned.fieldEntries = d.fieldEntries := by
    simp only [fieldEntries, pruned, nodes, edges]
  rw [toWire, fields]
  exact congrArg Value.object (wire_withoutNulls d.fieldEntries _)

/-- The fields of a definition with their values, and the values that come back. -/
def written (d : Definition) : List Written :=
  [.same Fields.flowId d.flowId, .same Fields.name d.name, .same Fields.description d.description,
    ⟨Fields.nodes, d.nodes, d.nodes.map Node.pruned⟩, ⟨Fields.edges, d.edges, d.edges.map Edge.pruned⟩]

theorem separate_names : Separate Fields.names := by
  apply Spelled.separate
  case h => repeat constructor
  case distinct => decide +kernel
  case plain => decide +kernel

/-- An object gives no field of the definition, of a node or of an edge under both of its names. -/
structure GivesOnce (v : Value) : Prop where
  fields : Schema.GivesOnce Fields.names v
  nodes : ∀ es items, v = .object es → Entries.get? es Fields.nodes.key = some (.list items) →
    ∀ item ∈ items, Schema.GivesOnce Node.Fields.names item
  edges : ∀ es items, v = .object es → Entries.get? es Fields.edges.key = some (.list items) →
    ∀ item ∈ items, Schema.GivesOnce Edge.Fields.names item

/-- No extra entry of the definition, of a node or of an edge goes by the name of a field. -/
structure AllForeign (d : Definition) : Prop where
  fields : Foreign Fields.names d.extras
  nodes : ∀ n ∈ d.nodes, Foreign Node.Fields.names n.extras
  edges : ∀ e ∈ d.edges, Foreign Edge.Fields.names e.extras

theorem AllForeign.returns_written {d : Definition} (foreign : d.AllForeign) : ∀ w ∈ d.written, w.Returns := by
  have text := Written.returns_withDefault Codec.lawful_text
  simp only [written, List.forall_mem_cons]
  exact ⟨text .., text .., text .., Reading.sequence_map (fun n hn => Node.read_toWire (foreign.nodes n hn)) 0,
    Reading.sequence_map (fun e he => Edge.read_toWire (foreign.edges e he)) 0, nofun⟩

theorem read_toWire {d : Definition} (foreign : d.AllForeign) : read d.toWire = .value d.pruned := by
  refine readRecord_written ofEntries d.written separate_names foreign.fields foreign.returns_written
    fun es reads others => ?_
  change Schema.extras Fields.names es = withoutNulls d.extras at others
  simp only [written, List.forall_mem_cons, Written.same] at reads
  simp only [ofEntries, reads, others]
  rfl

/-- A definition without extra entries, its own and those of its nodes and edges. -/
structure Plain (d : Definition) : Prop where
  own : d.extras = []
  nodes : ∀ n ∈ d.nodes, n.extras = []
  edges : ∀ e ∈ d.edges, e.extras = []

theorem Plain.allForeign {d : Definition} (h : d.Plain) : d.AllForeign where
  fields := h.own ▸ List.forall_mem_nil _
  nodes n hn := h.nodes n hn ▸ List.forall_mem_nil _
  edges e he := h.edges e he ▸ List.forall_mem_nil _

theorem Plain.pruned_eq {d : Definition} (h : d.Plain) : d.pruned = d := by
  have nodes : d.nodes.map Node.pruned = d.nodes :=
    (List.map_congr_left fun n hn => n.pruned_eq_self (h.nodes n hn)).trans (List.map_id _)
  have edges : d.edges.map Edge.pruned = d.edges :=
    (List.map_congr_left fun e he => e.pruned_eq_self (h.edges e he)).trans (List.map_id _)
  have own : withoutNulls d.extras = d.extras := by
    rw [h.own]
    rfl
  unfold pruned
  rw [nodes, edges, own]

/-- A definition without extra entries comes back as it is. -/
theorem Plain.read_toWire {d : Definition} (h : d.Plain) : read d.toWire = .value d := by
  rw [Definition.read_toWire h.allForeign, h.pruned_eq]

/-- The parts of a definition are read from the entries of its object. -/
theorem all_parts (es : Entries Text Value) : (ofEntries es).All fun d =>
    Fields.nodes.read es = .value d.nodes ∧ Fields.edges.read es = .value d.edges ∧
      d.extras = Schema.extras Fields.names es := by
  refine Reading.all_seq_value ?_
  repeat refine Reading.all_seq ?_
  exact Reading.all_map (fun _ _ _ _ _ nodes hn edges he => ⟨hn, he, rfl⟩) _

theorem allForeign_of_read {v : Value} {d : Definition} (h : read v = .value d) (once : GivesOnce v) : d.AllForeign := by
  obtain ⟨es, rfl, unicode, h⟩ := readRecord_eq_value h
  obtain ⟨nodes, edges, others⟩ := (all_parts es).of_eq_value h
  refine ⟨others ▸ foreign_extras unicode once.fields, fun n hn => ?_, fun e he => ?_⟩
  · obtain ⟨items, given, item, hm, read⟩ := exists_of_read_list nodes hn
    exact Node.foreign_of_read read (once.nodes es items rfl given item hm)
  · obtain ⟨items, given, item, hm, read⟩ := exists_of_read_list edges he
    exact Edge.foreign_of_read read (once.edges es items rfl given item hm)

end Definition

/-! ## The round trip -/

/-- **What was read is read again from what is written of it.** A definition, a node, an edge or a knowledge item that was
read from an object, which at no level gives a field under both of its names, comes back with all of its fields and extra
entries, in their order, but the extra entries that hold null; and what is written of it stays the same. -/
theorem reload_toWire :
    (∀ v d, Definition.read v = .value d → Definition.GivesOnce v →
      Definition.read d.toWire = .value d.pruned ∧ d.pruned.toWire = d.toWire) ∧
    (∀ v n, Node.read v = .value n → GivesOnce Node.Fields.names v →
      Node.read n.toWire = .value n.pruned ∧ n.pruned.toWire = n.toWire) ∧
    (∀ v e, Edge.read v = .value e → GivesOnce Edge.Fields.names v →
      Edge.read e.toWire = .value e.pruned ∧ e.pruned.toWire = e.toWire) ∧
    (∀ v k, KnowledgeItem.read v = .value k → GivesOnce KnowledgeItem.Fields.names v →
      KnowledgeItem.read k.toWire = .value k.pruned ∧ k.pruned.toWire = k.toWire) :=
  ⟨fun _ d h once => ⟨Definition.read_toWire (Definition.allForeign_of_read h once), d.toWire_pruned⟩,
    fun _ n h once => ⟨Node.read_toWire (Node.foreign_of_read h once), n.toWire_pruned⟩,
    fun _ e h once => ⟨Edge.read_toWire (Edge.foreign_of_read h once), e.toWire_pruned⟩,
    fun _ k h once => ⟨KnowledgeItem.read_toWire (KnowledgeItem.foreign_of_read h once), k.toWire_pruned⟩⟩

/-- Plain names, numbers and flags as texts, a method in small letters and nulls among the extra entries. -/
theorem reload_toWire_lenient :
    let node : Value := .object [("id", .str "call"), ("type", .str "apiCall"), ("api_method", .str "post"),
      ("wait_duration_ms", .str " 1_500 "), ("useKnowledge", .str "Yes"), ("note", .null), ("color", .list [.null])]
    let edge : Value := .object [("id", .str "e"), ("source", .str "call"), ("target", .str "call"),
      ("edge_type", .str "notFound"), ("style", .null)]
    let flow : Value := .object [("flow_id", .str "f"), ("nodes", .list [node]), ("edges", .list [edge]), ("meta", .null)]
    ∃ d, Definition.read flow = .value d ∧ Definition.GivesOnce flow ∧ Definition.read d.toWire = .value d.pruned ∧
      d.pruned.toWire = d.toWire := by
  intro node edge flow
  obtain ⟨d, hd⟩ : ∃ d, Definition.read flow = .value d := by
    have accepted : (Definition.read flow).toExcept.toOption.isSome = true := by decide +kernel
    cases hr : Definition.read flow with
    | value d => exact ⟨d, rfl⟩
    | issues found =>
      rw [hr] at accepted
      cases accepted
  have hnode : GivesOnce Node.Fields.names node := by
    apply Spelled.givesOnce ["id", "type", "api_method", "wait_duration_ms", "useKnowledge", "note", "color"] rfl
    case h => repeat constructor
    case once => decide +kernel
  have hedge : GivesOnce Edge.Fields.names edge := by
    apply Spelled.givesOnce ["id", "source", "target", "edge_type", "style"] rfl
    case h => repeat constructor
    case once => decide +kernel
  have hflow : GivesOnce Definition.Fields.names flow := by
    apply Spelled.givesOnce ["flow_id", "nodes", "edges", "meta"] rfl
    case h => repeat constructor
    case once => decide +kernel
  have once : Definition.GivesOnce flow := by
    refine ⟨hflow, fun es items he given item hm => ?_, fun es items he given item hm => ?_⟩
    · obtain rfl := Value.object.inj he
      obtain rfl : [node] = items := Value.list.inj (Option.some.inj given)
      exact List.mem_singleton.mp hm ▸ hnode
    · obtain rfl := Value.object.inj he
      obtain rfl : [edge] = items := Value.list.inj (Option.some.inj given)
      exact List.mem_singleton.mp hm ▸ hedge
  exact ⟨d, hd, once, reload_toWire.1 flow d hd once⟩

end Colloquy
