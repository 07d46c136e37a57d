import RequestFlow.Graph.Document
import RequestFlow.Proofs.Json.Writable

/-!
# What a document gives its graph

The configurations of nodes and the variables of environments are taken from the document as they
stand there, under texts for keys. So they can be written as JSON if the document can.
-/

namespace RequestFlow

/-- A changed result is that of a result before the change. -/
theorem exists_of_map_eq_ok
    {ε α β : Type}
    {result : Except ε α}
    {change : α → β}
    {changed : β}
    (maps : result.map change = .ok changed) :
    ∃ given, result = .ok given ∧ change given = changed := by
  cases result with
  | error problems => cases maps
  | ok given => exact ⟨given, rfl, Except.ok.inj maps⟩

namespace Checked

variable {α β : Type}

theorem both_eq_ok_iff
    {first : Checked α}
    {second : Checked β}
    {parts : α × β} :
    both first second = .ok parts ↔ first = .ok parts.1 ∧ second = .ok parts.2 := by
  obtain ⟨part, other⟩ := parts
  cases first <;> cases second <;> simp [both]

/-- Every part that was checked is that of an item. -/
theorem exists_of_mem_all
    {check : α → Checked β}
    {items : List α}
    {parts : List β}
    (checked : all check items = .ok parts)
    {part : β}
    (member : part ∈ parts) :
    ∃ item ∈ items, check item = .ok part := by
  induction items generalizing parts with
  | nil =>
      cases checked
      cases member
  | cons item items inductionHypothesis =>
      rw [all] at checked
      split at checked
      next first others both =>
        cases checked
        obtain ⟨firstChecked, othersChecked⟩ := both_eq_ok_iff.1 both
        rcases List.mem_cons.1 member with rfl | later
        · exact ⟨item, List.mem_cons_self, firstChecked⟩
        · obtain ⟨other, among, found⟩ := inductionHypothesis othersChecked later
          exact ⟨other, List.mem_cons_of_mem _ among, found⟩
      · cases checked

end Checked

namespace Document

open Checked Json

variable {α : Type} {path : List PathStep} {value : Value} {fields : Fields}
  {check : List PathStep → Value → Checked α}

/-- Every checked field of an object that can be written is that of a value that can be. -/
theorem exists_of_mem_checkObject
    (writable : Writable value)
    {entries : Assoc String α}
    (checked : checkObject path check value = .ok entries)
    {entry : String × α}
    (member : entry ∈ entries) :
    ∃ here part, Writable part ∧ check here part = .ok entry.2 := by
  cases value with
  | object fields =>
      obtain ⟨field, among, found⟩ := exists_of_mem_all checked member
      exact ⟨_, field.2, (writable_object_iff.1 writable field among).2,
        (both_eq_ok_iff.1 found).2⟩
  | _ => cases checked

/-- Every checked item of a list that can be written is that of a value that can be. -/
theorem exists_of_mem_checkList
    (writable : Writable value)
    {parts : List α}
    (checked : checkList path check value = .ok parts)
    {part : α}
    (member : part ∈ parts) :
    ∃ here item, Writable item ∧ check here item = .ok part := by
  have among {items : List Value} (each : ∀ item ∈ items, Writable item)
      (allChecked : allAt (fun position item => check (path ++ [.index position]) item) items =
        .ok parts) :
      ∃ here item, Writable item ∧ check here item = .ok part := by
    obtain ⟨entry, listed, found⟩ := exists_of_mem_all allChecked member
    exact ⟨_, entry.1, each _ (List.fst_mem_of_mem_zipIdx listed), found⟩
  cases value with
  | list items => exact among (writable_list_iff.1 writable) checked
  | tuple items => exact among (writable_tuple_iff.1 writable) checked
  | _ => cases checked

theorem writable_emptyAsObject
    (writable : Writable value) :
    Writable (emptyAsObject value) := by
  unfold emptyAsObject
  split
  · rfl
  · rfl
  · exact writable

/-- Fields that are kept as they stand can be written. -/
theorem writable_named
    (writable : Writable value)
    {entries : Assoc String Value}
    (checked : checkObject path (fun _ part => .ok part) value = .ok entries) :
    Writable (.object (Fields.named entries)) := by
  refine writable_object_iff.2 fun field member => ?_
  obtain ⟨entry, among, rfl⟩ := List.mem_map.1 member
  obtain ⟨_, part, partWritable, same⟩ := exists_of_mem_checkObject writable checked among
  cases same
  exact ⟨isName_text _, partWritable⟩

theorem writable_checkNode
    (writable : Writable value)
    {node : Node}
    (checked : checkNode path value = .ok node) :
    Writable (.object node.data) := by
  cases value with
  | object fields =>
      obtain ⟨⟨id, declaredType, data, outputs, extras⟩, both, rfl⟩ := exists_of_map_eq_ok checked
      simp only [both_eq_ok_iff] at both
      obtain ⟨-, -, dataChecked, -, -⟩ := both
      unfold checkDefault at dataChecked
      split at dataChecked
      · cases dataChecked
        rfl
      next declared found =>
        exact writable_named (writable_emptyAsObject (writable.get? found)) dataChecked
  | _ => cases checked

theorem writable_section?
    (writable : Writable (.object fields)) :
    Writable (.object (section? fields)) := by
  have declared := writable.get "flows"
  unfold section?
  split
  next flows same => rwa [same] at declared
  · exact writable

end Document

open Json

/-- Configurations and environments can be written as JSON. -/
structure Graph.Writable (graph : Graph) : Prop where
  /-- The configuration of every node can be written. -/
  data : ∀ node ∈ graph.nodes, Json.Writable (.object node.data)
  /-- The variables of every environment can be written. -/
  environments : ∀ entry ∈ graph.environments, Json.Writable (.object entry.2)

namespace Graph

/-- A document gives a graph exactly if its parts pass their checks and no id occurs again. -/
theorem ofDocument_object_eq_ok_iff
    {fields : Fields}
    {controller : String}
    {graph : Graph} :
    ofDocument (.object fields) controller = .ok graph ↔
      Document.checkGraph controller fields = .ok graph ∧ repeatedIds [] graph.nodes = [] := by
  simp only [ofDocument, Document.checkDistinct]
  cases Document.checkGraph controller fields with
  | error problems => simp [Checked.toFault]
  | ok found =>
      cases repeated : repeatedIds [] found.nodes with
      | nil =>
          simp only [repeated, Checked.toFault, Except.ok.injEq]
          refine ⟨?_, And.left⟩
          rintro rfl
          exact ⟨rfl, repeated⟩
      | cons id ids =>
          simp only [repeated, Checked.toFault, Checked.refuse, Except.ok.injEq]
          refine ⟨nofun, ?_⟩
          rintro ⟨rfl, none_repeated⟩
          rw [none_repeated] at repeated
          cases repeated

/-- The graph of a document that can be written has only what can be written. -/
theorem writable_of_ofDocument
    {document : Value}
    (writable : Json.Writable document)
    {controller : String}
    {graph : Graph}
    (reads : ofDocument document controller = .ok graph) :
    graph.Writable := by
  cases document with
  | object fields =>
      have checked := (ofDocument_object_eq_ok_iff.1 reads).1
      obtain ⟨⟨endpoints, nodes, environments, selected⟩, both, rfl⟩ :=
        exists_of_map_eq_ok checked
      simp only [Checked.both_eq_ok_iff] at both
      obtain ⟨-, nodesChecked, environmentsChecked, -⟩ := both
      refine ⟨fun node member => ?_, fun entry member => ?_⟩
      · have listed :=
          ((Document.writable_section? writable).get "nodes").orElse writable_list_nil
        obtain ⟨_, item, itemWritable, found⟩ :=
          Document.exists_of_mem_checkList listed nodesChecked member
        exact Document.writable_checkNode itemWritable found
      · have listed := (writable.get "environmentVariables").orElse writable_object_nil
        obtain ⟨here, part, partWritable, found⟩ :=
          Document.exists_of_mem_checkObject listed environmentsChecked member
        obtain ⟨entries, variablesChecked, same⟩ := exists_of_map_eq_ok found
        rw [← same]
        exact Document.writable_named partWritable variablesChecked
  | _ => cases reads

/-- The variables of an environment can be written, also of one that is not there. -/
theorem Writable.environment
    {graph : Graph}
    (writable : graph.Writable)
    (name : Option String) :
    Json.Writable (.object (graph.environment name)) :=
  Assoc.of_getD (fun fields => Json.Writable (.object fields)) writable.environments
    writable_object_nil _

end Graph
end RequestFlow
