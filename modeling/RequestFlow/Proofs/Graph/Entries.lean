import Mathlib.Data.List.Forall2
import RequestFlow.Proofs.Assoc
import RequestFlow.Proofs.Graph.Document

/-!
# The nodes of a document

The nodes of a graph are those that its document declares: one for each entry, in the order of the
document, with the id, the type, the configuration and the outputs of the entry. No two have the
same id, so a node is found by its id whether the list is searched from the start or the nodes were
put into an index one after another.
-/

namespace RequestFlow

/-! ## Lists of parts -/

namespace Checked

variable {α β : Type}

/-- Parts pass their checks exactly if each of them does. -/
theorem all_eq_ok_iff
    {check : α → Checked β}
    {items : List α}
    {parts : List β} :
    all check items = .ok parts ↔
      List.Forall₂ (fun item part => check item = .ok part) items parts := by
  induction items generalizing parts with
  | nil =>
      rw [all, List.forall₂_nil_left_iff, Except.ok.injEq]
      exact eq_comm
  | cons item items inductionHypothesis =>
      rw [all, List.forall₂_cons_left_iff]
      constructor
      · intro checked
        split at checked
        next part others both =>
          cases checked
          obtain ⟨first, rest⟩ := both_eq_ok_iff.1 both
          exact ⟨part, others, first, inductionHypothesis.1 rest, rfl⟩
        · cases checked
      · rintro ⟨part, others, first, rest, rfl⟩
        rw [first, inductionHypothesis.2 rest]
        rfl

theorem forall₂_of_allAt
    {check : Nat → α → Checked β}
    {items : List α}
    {parts : List β}
    (checked : allAt check items = .ok parts) :
    List.Forall₂ (fun item part => ∃ position, check position item = .ok part) items parts := by
  have each : List.Forall₂ (fun item part => ∃ position, check position item = .ok part)
      (items.zipIdx.map Prod.fst) parts :=
    List.forall₂_map_left_iff.2 ((all_eq_ok_iff.1 checked).imp fun _ _ found => ⟨_, found⟩)
  rwa [List.zipIdx_map_fst] at each

/-- Whatever does not pass its check is reported with its problems. -/
theorem exists_of_toFault
    {checked : Checked α}
    {fault : Fault}
    (fails : checked.toFault = .error fault) :
    ∃ problems, fault = .invalidDocument problems := by
  cases checked with
  | ok part => cases fails
  | error problems => exact ⟨problems, (Except.error.inj fails).symm⟩

end Checked

/-! ## What an entry declares -/

namespace Document

open Checked

/-- The items of a value that is a list. -/
def listed : Value → List Value
  | .list items | .tuple items => items
  | _ => []

/-- The name under which an edge declares its target. -/
def targetName (fields : Fields) : String :=
  if Assoc.has (.text "toNodeId") fields then "toNodeId" else "to_node_id"

/-- An edge has the target that its entry declares, and the other fields of the entry. -/
structure DeclaresEdge
    (fields : Fields)
    (edge : Edge) : Prop where
  /-- The target is the one that is declared. -/
  target : fields.get (targetName fields) = Endpoint.textOrNull edge.target
  /-- The other fields are those under other names. -/
  extras : ∀ name value, (name, value) ∈ edge.extras ↔
    (.text name, value) ∈ fields ∧ name ≠ targetName fields

/-- An output without an edge is null. -/
inductive DeclaresOutput : Value → Option Edge → Prop
  | unwired : DeclaresOutput .null none
  | wired {fields : Fields} {edge : Edge} :
      DeclaresEdge fields edge → DeclaresOutput (.object fields) (some edge)

/-- A node has the id, the type, the configuration and the outputs that its entry declares. -/
structure DeclaresNode
    (fields : Fields)
    (node : Node) : Prop where
  /-- The id is declared as a text. -/
  id : Assoc.get? (.text "id") fields = some (.text node.id)
  /-- The type is the one beside the configuration, if there is one. -/
  declaredType : fields.get "type" = Endpoint.textOrNull node.declaredType
  /-- The configuration is the one that is declared, empty without one. -/
  data : emptyAsObject (fields.get "data") = .object node.data
  /-- The outputs are those that are declared, in order and under their names. -/
  outputs : ∃ declared, emptyAsObject (fields.get "outputs") = .object declared ∧
    List.Forall₂
      (fun field output => field.1 = .text output.1 ∧ DeclaresOutput field.2 output.2)
      declared node.outputs

/-- An entry that is an object declares the node. -/
def Declares (entry : Value) (node : Node) : Prop :=
  ∃ fields, entry = .object fields ∧ DeclaresNode fields node

/-- The id of an entry, of whatever sort it is. -/
def idOf? : Value → Option Value
  | .object fields => Assoc.get? (.text "id") fields
  | _ => none

/-- Two entries have ids that denote the same. -/
def EqualIds (entry other : Value) : Prop :=
  ∃ id otherId, idOf? entry = some id ∧ idOf? other = some otherId ∧ id.same otherId = true

/-! ## What is checked -/

variable {α : Type} {path : List PathStep} {name : String} {value : Value} {fields : Fields}
  {check : List PathStep → Value → Checked α}

theorem eq_of_checkText
    {content : String}
    (checked : checkText path value = .ok content) :
    value = .text content := by
  cases value <;> cases checked
  rfl

theorem eq_of_checkOptionalText
    {content : Option String}
    (checked : checkOptionalText path value = .ok content) :
    value = Endpoint.textOrNull content := by
  unfold checkOptionalText at checked
  split at checked
  · cases checked
    rfl
  · obtain ⟨given, found, rfl⟩ := exists_of_map_eq_ok checked
    exact eq_of_checkText found

theorem exists_of_checkRequired
    {part : α}
    (checked : checkRequired path name check fields = .ok part) :
    ∃ value, fields.get? (.text name) = some value ∧
      check (path ++ [.field name]) value = .ok part := by
  unfold checkRequired at checked
  split at checked
  · cases checked
  next value found => exact ⟨value, found, checked⟩

/-- A field that is not there counts as one that is null, if null gives the default. -/
theorem of_checkDefault
    {default part : α}
    (gives : Value → α → Prop)
    (absent : gives .null default)
    (present : ∀ here value, check here value = .ok part → gives value part)
    (checked : checkDefault path name default check fields = .ok part) :
    gives (fields.get name) part := by
  unfold checkDefault at checked
  unfold Fields.get
  split at checked
  next missing =>
    cases checked
    rwa [missing]
  next value found =>
    rw [found]
    exact present _ value checked

/-- The fields of an object pass their checks one by one, under texts for keys. -/
theorem exists_of_checkObject
    {entries : Assoc String α}
    (checked : checkObject path check value = .ok entries) :
    ∃ fields, value = .object fields ∧
      List.Forall₂
        (fun field entry => field.1 = .text entry.1 ∧ ∃ here, check here field.2 = .ok entry.2)
        fields entries := by
  cases value with
  | object fields =>
      refine ⟨fields, rfl, (all_eq_ok_iff.1 checked).imp fun field entry found => ?_⟩
      obtain ⟨named, given⟩ := both_eq_ok_iff.1 found
      refine ⟨?_, _, given⟩
      split at named
      next name key_eq =>
        cases named
        exact key_eq
      · cases named
  | _ => cases checked

theorem named_of_forall₂
    {entries : Assoc String Value}
    (same : List.Forall₂ (fun field entry => field = (.text entry.1, entry.2)) fields entries) :
    Fields.named entries = fields := by
  have equal : List.Forall₂ Eq fields (Fields.named entries) := List.forall₂_map_right_iff.2 same
  rw [List.forall₂_eq_eq_eq] at equal
  exact equal.symm

/-- Fields that are taken as they stand are those of the object. -/
theorem eq_of_checkObject
    {entries : Assoc String Value}
    (checked : checkObject path (fun _ part => .ok part) value = .ok entries) :
    value = .object (Fields.named entries) := by
  obtain ⟨fields, rfl, each⟩ := exists_of_checkObject checked
  rw [named_of_forall₂ (each.imp _)]
  rintro ⟨key, part⟩ ⟨name, given⟩ ⟨rfl, -, same⟩
  cases same
  rfl

/-- The extra fields are those that are not declared. -/
theorem mem_checkExtras_iff
    {declared : List String}
    {extras : Assoc String Value}
    (checked : checkExtras path declared fields = .ok extras) :
    (name, value) ∈ extras ↔ (.text name, value) ∈ fields ∧ name ∉ declared := by
  have same := named_of_forall₂ ((all_eq_ok_iff.1 checked).imp fun field entry found => by
    obtain ⟨key, part⟩ := field
    cases key <;> cases found
    rfl)
  have listed : (name, value) ∈ extras ↔ (.text name, value) ∈ Fields.named extras := by
    simp [Fields.named]
  rw [listed, same, List.mem_filter]
  simp

theorem declaresEdge_of_checkEdge
    {edge : Edge}
    (checked : checkEdge path value = .ok edge) :
    ∃ fields, value = .object fields ∧ DeclaresEdge fields edge := by
  cases value with
  | object fields =>
      obtain ⟨⟨target, extras⟩, both, rfl⟩ := exists_of_map_eq_ok checked
      obtain ⟨targetChecked, extrasChecked⟩ := both_eq_ok_iff.1 both
      refine ⟨fields, rfl, eq_of_checkOptionalText targetChecked, fun name value => ?_⟩
      rw [mem_checkExtras_iff extrasChecked, List.mem_singleton]
      rfl
  | _ => cases checked

theorem declaresOutput_of_checkOutput
    {output : Option Edge}
    (checked : checkOutput path value = .ok output) :
    DeclaresOutput value output := by
  unfold checkOutput at checked
  split at checked
  · cases checked
    exact .unwired
  · obtain ⟨edge, found, rfl⟩ := exists_of_map_eq_ok checked
    obtain ⟨fields, rfl, declares⟩ := declaresEdge_of_checkEdge found
    exact .wired declares

/-- A node that was read is the one that its entry declares. -/
theorem declares_of_checkNode
    {node : Node}
    (checked : checkNode path value = .ok node) :
    Declares value node := by
  cases value with
  | object fields =>
      obtain ⟨⟨id, declaredType, data, outputs, extras⟩, both, rfl⟩ := exists_of_map_eq_ok checked
      simp only [both_eq_ok_iff] at both
      obtain ⟨idChecked, typeChecked, dataChecked, outputsChecked, -⟩ := both
      obtain ⟨given, idGiven, isText⟩ := exists_of_checkRequired idChecked
      refine ⟨fields, rfl, ?_, ?_, ?_, ?_⟩
      · rw [idGiven, eq_of_checkText isText]
      · exact of_checkDefault (fun value part => value = Endpoint.textOrNull part) rfl
          (fun _ _ => eq_of_checkOptionalText) typeChecked
      · exact of_checkDefault
          (fun value part => emptyAsObject value = .object (Fields.named part)) rfl
          (fun _ _ => eq_of_checkObject) dataChecked
      · refine of_checkDefault
          (fun value part => ∃ declared, emptyAsObject value = .object declared ∧
            List.Forall₂ _ declared part)
          ⟨[], rfl, .nil⟩ (fun _ _ found => ?_) outputsChecked
        obtain ⟨declared, same, each⟩ := exists_of_checkObject found
        refine ⟨declared, same, each.imp ?_⟩
        rintro field output ⟨named, _, outputChecked⟩
        exact ⟨named, declaresOutput_of_checkOutput outputChecked⟩
  | _ => cases checked

/-- What counts as false stands for an empty list. -/
theorem forall₂_of_checkList
    {parts : List α}
    (checked : checkList path check (value.orElse (.list [])) = .ok parts) :
    List.Forall₂ (fun item part => ∃ here, check here item = .ok part) (listed value) parts := by
  have among {items : List Value}
      (found : allAt (fun position item => check (path ++ [.index position]) item) items =
        .ok parts) :
      List.Forall₂ (fun item part => ∃ here, check here item = .ok part) items parts :=
    (forall₂_of_allAt found).imp fun _ _ ⟨_, passed⟩ => ⟨_, passed⟩
  unfold Value.orElse at checked
  split at checked
  next counts =>
    cases value with
    | list items => exact among checked
    | tuple items => exact among checked
    | _ => cases checked
  next fails =>
    obtain rfl : parts = [] := by
      cases checked
      rfl
    cases value with
    | list items => simp_all [Value.isTruthy, listed]
    | tuple items => simp_all [Value.isTruthy, listed]
    | _ => exact .nil

/-- Nodes with distinct ids are declared by entries no two of which have equal ids. -/
theorem pairwise_not_equalIds
    {entries : List Value}
    {nodes : List Node}
    (declares : List.Forall₂ Declares entries nodes)
    (distinct : (nodes.map (·.id)).Nodup) :
    entries.Pairwise fun entry other => ¬EqualIds entry other := by
  have ids : entries.map idOf? = nodes.map fun node => some (.text node.id) := by
    have each := declares.imp (S := fun entry node => idOf? entry = some (.text node.id)) ?_
    · rw [← List.forall₂_eq_eq_eq, List.forall₂_map_left_iff, List.forall₂_map_right_iff]
      exact each
    · rintro _ node ⟨fields, rfl, declared⟩
      exact declared.id
  have differ : (entries.map idOf?).Pairwise fun given other =>
      ¬∃ id otherId, given = some id ∧ other = some otherId ∧ id.same otherId = true := by
    rw [ids, List.pairwise_map]
    refine (List.pairwise_map.1 distinct).imp ?_
    rintro node other different ⟨_, _, ⟨⟩, ⟨⟩, same⟩
    exact different (Value.text.inj (Value.same_text_iff.1 same))
  exact List.pairwise_map.1 differ

/-- The object in which a document holds its graph: what stands under `flows`, or the document
itself if no object stands there. -/
inductive HoldsGraph : Value → Fields → Prop
  | underFlows {fields flows : Fields} :
      fields.get "flows" = .object flows →
      HoldsGraph (.object fields) flows
  | atRoot {fields : Fields} :
      (∀ flows, fields.get "flows" ≠ .object flows) →
      HoldsGraph (.object fields) fields

theorem HoldsGraph.exists_object
    {document : Value}
    {part : Fields}
    (holds : HoldsGraph document part) :
    ∃ fields, document = .object fields := by
  cases holds <;> exact ⟨_, rfl⟩

theorem holdsGraph_iff
    {part : Fields} :
    HoldsGraph (.object fields) part ↔ section? fields = part := by
  unfold section?
  constructor
  · intro holds
    cases holds with
    | underFlows found => rw [found]
    | atRoot none_there =>
        split
        next flows found => exact absurd found (none_there flows)
        · rfl
  · rintro rfl
    split
    next flows found => exact .underFlows found
    next none_there => exact .atRoot none_there

end Document

/-! ## Ids -/

namespace Graph

variable {graph : Graph}

/-- No id is repeated exactly if they differ from each other and from those seen before. -/
theorem repeatedIds_eq_nil_iff
    {seen : List String}
    {nodes : List Node} :
    repeatedIds seen nodes = [] ↔ (nodes.map (·.id)).Nodup ∧ ∀ node ∈ nodes, node.id ∉ seen := by
  induction nodes generalizing seen with
  | nil => simp [repeatedIds]
  | cons node nodes inductionHypothesis =>
      unfold repeatedIds
      split
      next known => simp [known]
      next unknown =>
        rw [inductionHypothesis, List.map_cons, List.nodup_cons]
        simp only [List.mem_cons, List.mem_map, not_or, not_exists, not_and, forall_eq_or_imp]
        constructor
        · rintro ⟨distinct, others⟩
          exact ⟨⟨fun other member => (others other member).1, distinct⟩, unknown,
            fun other member => (others other member).2⟩
        · rintro ⟨⟨different, distinct⟩, -, unseen⟩
          exact ⟨distinct, fun other member => ⟨different other member, unseen other member⟩⟩

/-- No two nodes have the same id, a node is found by its id and nothing else is found, and the
index gives just what is found in the list. -/
structure FindsNodes (graph : Graph) : Prop where
  /-- No id is that of two nodes. -/
  distinct : (graph.nodes.map (·.id)).Nodup
  /-- There is a node with an id exactly if it is the id of a listed one. -/
  hasNode_iff : ∀ id, graph.hasNode id = true ↔ id ∈ graph.nodes.map (·.id)
  /-- A node is found for an id exactly if it is listed and has the id. -/
  find?_iff : ∀ id node, graph.find? id = some node ↔ node ∈ graph.nodes ∧ node.id = id
  /-- The index gives what a search of the list from its start gives. -/
  get?_index : ∀ id, graph.index.entries.get? id = graph.nodes.find? (·.id == id)

/-- Distinct ids are enough for nodes to be found. -/
theorem findsNodes_of_nodup
    (distinct : (graph.nodes.map (·.id)).Nodup) :
    graph.FindsNodes := by
  let entries : Assoc String Node := graph.nodes.map fun node => (node.id, node)
  have distinctKeys : entries.keys.Nodup := by
    simpa [entries, Assoc.keys, Function.comp_def] using distinct
  have differ := List.pairwise_map.1 distinctKeys
  have merged : graph.index.entries = entries :=
    graph.index.made.trans
      (Assoc.merge_of_distinct (differ.imp fun different => beq_eq_false_iff_ne.2 different))
  have finds : ∀ id node, graph.find? id = some node ↔ node ∈ graph.nodes ∧ node.id = id := by
    intro id node
    rw [find?, merged, Assoc.get?_eq_some_iff distinctKeys]
    simp [entries, and_comm]
  refine ⟨distinct, fun id => ?_, finds, fun id => ?_⟩
  · simp [hasNode, Option.isSome_iff_exists, finds]
  · rw [merged, get?_map_id]

/-- Every document that is read holds its graph in one of the two places. -/
theorem exists_holdsGraph
    {document : Value}
    {controller : String}
    (reads : ofDocument document controller = .ok graph) :
    ∃ part, Document.HoldsGraph document part := by
  cases document with
  | object fields => exact ⟨_, Document.holdsGraph_iff.2 rfl⟩
  | _ => cases reads

/-- The nodes of a document's graph are those that its entries declare, and they are found. -/
theorem declares_of_ofDocument
    {document : Value}
    {part : Fields}
    (holds : Document.HoldsGraph document part)
    {controller : String}
    (reads : ofDocument document controller = .ok graph) :
    List.Forall₂ Document.Declares (Document.listed (part.get "nodes")) graph.nodes ∧
      graph.FindsNodes := by
  obtain ⟨fields, rfl⟩ := holds.exists_object
  obtain rfl := Document.holdsGraph_iff.1 holds
  obtain ⟨checked, none_repeated⟩ := ofDocument_object_eq_ok_iff.1 reads
  refine ⟨?_, findsNodes_of_nodup (repeatedIds_eq_nil_iff.1 none_repeated).1⟩
  obtain ⟨⟨endpoints, nodes, environments, selected⟩, both, rfl⟩ := exists_of_map_eq_ok checked
  simp only [Checked.both_eq_ok_iff] at both
  obtain ⟨-, nodesChecked, -, -⟩ := both
  exact (Document.forall₂_of_checkList nodesChecked).imp fun _ _ ⟨_, found⟩ =>
    Document.declares_of_checkNode found

/-- A document in which two entries have equal ids gives no graph. -/
theorem exists_problems_of_equalIds
    {document : Value}
    {part : Fields}
    (holds : Document.HoldsGraph document part)
    (equal : ¬(Document.listed (part.get "nodes")).Pairwise fun entry other =>
      ¬Document.EqualIds entry other)
    (controller : String) :
    ∃ problems, ofDocument document controller = .error (.invalidDocument problems) := by
  obtain ⟨fields, rfl⟩ := holds.exists_object
  cases reads : ofDocument (.object fields) controller with
  | ok graph =>
      obtain ⟨declares, finds⟩ := declares_of_ofDocument holds reads
      exact absurd (Document.pairwise_not_equalIds declares finds.distinct) equal
  | error fault =>
      obtain ⟨problems, rfl⟩ := Checked.exists_of_toFault reads
      exact ⟨problems, rfl⟩

end Graph
end RequestFlow
