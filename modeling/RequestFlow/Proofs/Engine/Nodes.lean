import RequestFlow.Proofs.Engine.Tables
import RequestFlow.Proofs.Graph.Entries

/-!
# The nodes of registered graphs

A document that is read gives the nodes of its entries, which are found by their ids. When the graph
is registered under another name its nodes stay as they are, and both tables of the engine have the
copy in which they are found as before.
-/

namespace RequestFlow
namespace Engine

variable {ν η : Type} {graph : Graph}

/-- The graph is the given one but for its name. -/
theorem named_some
    (graph : Graph)
    {name : String}
    (nonempty : name ≠ "") :
    named graph (some name) = graph.renamed name := by
  have given : (some name).bind nonEmpty? = some name := by
    simp [nonEmpty?, nonempty]
  rw [named, given]
  by_cases same : name = graph.controller
  · simp [same, Graph.renamed]
  · simp [same]

/-- Which nodes are found does not depend on the name of the graph. -/
theorem findsNodes_renamed
    (finds : graph.FindsNodes)
    (name : String) :
    (graph.renamed name).FindsNodes :=
  ⟨finds.distinct, finds.hasNode_iff, finds.find?_iff, finds.get?_index⟩

/-- An engine that is not sealed registers a graph under any name. -/
theorem register_some
    {engine : Engine ν η}
    (unsealed : engine.isSealed = false)
    (graph : Graph)
    {name : String}
    (nonempty : name ≠ "") :
    register graph (some name) engine =
      (.ok (graph.renamed name), install (graph.renamed name) engine) := by
  rw [register_apply, named_some graph nonempty, add_apply]
  simp [unsealed, Graph.renamed, nonempty]

/-- A document that is read, whether its graph stands under `flows` or at the root, gives the nodes
that its entries declare, in their order and with distinct ids, and each is found by its id and
nothing else is. A copy that is registered under another name has the same nodes, which are found in
the same way, and it is the graph that is listed and walked under that name. A document of which two
entries have equal ids is not read. -/
theorem nodes_of_document
    (document : Value)
    (controller : String) :
    (∀ graph, Graph.ofDocument document controller = .ok graph →
      (∃ part, Document.HoldsGraph document part ∧
        List.Forall₂ Document.Declares (Document.listed (part.get "nodes")) graph.nodes) ∧
      graph.FindsNodes ∧
      ∀ (ν η : Type) (engine : Engine ν η) (name : String),
        engine.isSealed = false →
        name ≠ "" →
        ∃ copy final, register graph (some name) engine = (.ok copy, final) ∧
          copy.nodes = graph.nodes ∧
          copy.FindsNodes ∧
          (∀ id, copy.find? id = graph.find? id) ∧
          final.controllers.get? name = some copy ∧
          final.walkers.get? name = some ⟨copy, engine.settings.depthLimit⟩) ∧
    ∀ part, Document.HoldsGraph document part →
      ¬((Document.listed (part.get "nodes")).Pairwise fun entry other =>
        ¬Document.EqualIds entry other) →
      ∃ problems, Graph.ofDocument document controller = .error (.invalidDocument problems) := by
  refine ⟨fun graph reads => ?_, fun part holds equal =>
    Graph.exists_problems_of_equalIds holds equal controller⟩
  obtain ⟨part, holds⟩ := Graph.exists_holdsGraph reads
  obtain ⟨declares, finds⟩ := Graph.declares_of_ofDocument holds reads
  refine ⟨⟨part, holds, declares⟩, finds, fun ν η engine name unsealed nonempty => ?_⟩
  exact ⟨graph.renamed name, _, register_some unsealed graph nonempty, rfl,
    findsNodes_renamed finds name, fun _ => rfl, Assoc.get?_put_self _ _ _,
    Assoc.get?_put_self _ _ _⟩

namespace Sample

/-- A document with its graph under `flows`: an entry node that leads to a response. -/
def greeting : Value :=
  .record [("nodes", .list [.record [("id", .text "stray")]]),
    ("flows", .record [("nodes", .list [
      .record [("id", .text "get-1"),
        ("outputs", .record [("out", .record [("toNodeId", .text "reply")])])],
      .record [("id", .text "reply"), ("data", .record [("type", .text "response")])]])])]

/-- The graph of that document. -/
def greeted : Graph where
  controller := "a"
  nodes := [{ id := "get-1", outputs := [("out", some { target := some "reply" })] },
    { id := "reply", data := [(.text "type", .text "response")] }]

/-- A document at whose root two entries have the same id. -/
def twins : Value :=
  .record [("nodes", .list [.record [("id", .text "a")], .record [("id", .text "b")],
    .record [("id", .text "a"), ("type", .text "get")]])]

end Sample

/-- What stands at the root is no node of the first document, whose graph is registered under
another name; the second document is not read. -/
theorem nodes_of_document_greeting :
    Graph.ofDocument Sample.greeting "a" = .ok Sample.greeted ∧
    Sample.greeted.FindsNodes ∧
    (∃ copy final, register Sample.greeted (some "b") Sample.opened = (.ok copy, final) ∧
      copy.nodes = Sample.greeted.nodes ∧ final.controllers.get? "b" = some copy) ∧
    ∃ problems, Graph.ofDocument Sample.twins "a" = .error (.invalidDocument problems) := by
  have reads : Graph.ofDocument Sample.greeting "a" = .ok Sample.greeted := rfl
  have atRoot : Document.HoldsGraph Sample.twins _ := .atRoot nofun
  obtain ⟨-, finds, registers⟩ := (nodes_of_document Sample.greeting "a").1 _ reads
  obtain ⟨copy, final, registered, nodes, -, -, listed, -⟩ :=
    registers _ _ Sample.opened "b" rfl (by decide)
  refine ⟨reads, finds, ⟨copy, final, registered, nodes, listed⟩, ?_⟩
  refine (nodes_of_document Sample.twins "a").2 _ atRoot fun differ => ?_
  have first := List.rel_of_pairwise_cons differ (List.mem_cons_of_mem _ List.mem_cons_self)
  exact first ⟨_, _, rfl, rfl, rfl⟩

end Engine
end RequestFlow
