import Mathlib.Data.List.Find
import Mathlib.Data.List.Nodup
import Mathlib.Data.Set.Defs
import RequestFlow.Graph.Basic
import RequestFlow.Proofs.Assoc

/-!
# Which ids a graph leads to

From an id a graph leads on by the outputs of the node that has it. Graphs that agree on the ids
which one of them leads to cannot be told apart from there: the order of the nodes, and nodes out
of reach, make no difference.
-/

namespace RequestFlow

/-- The outputs of a node lead to the given ids and to no others. -/
def Node.LeadsInto
    (ids : Set String)
    (node : Node) : Prop :=
  ∀ output target, node.next? output = some target → target ∈ ids

/-- A node whose edges end at given ids leads to these. -/
theorem Node.leadsInto_of_targets
    {ids : Set String}
    {node : Node}
    (targets : ∀ key edge target, (key, some edge) ∈ node.outputs →
      edge.target = some target → target ∈ ids) :
    node.LeadsInto ids := by
  intro output target next
  simp only [next?, Option.bind_eq_bind, Option.bind_eq_some_iff] at next
  obtain ⟨name, _, key, _, declared, found, edge, rfl, ending, ended, nonempty⟩ := next
  obtain rfl : ending = target := by
    unfold nonEmpty? at nonempty
    split at nonempty
    · cases nonempty
    · exact Option.some.inj nonempty
  obtain ⟨present, listed⟩ := Assoc.exists_mem_of_get? found
  exact targets present edge ending listed ended

namespace Graph

/-- The ids to which a graph leads from a start, the start among them. -/
inductive Reaches
    (graph : Graph)
    (start : String) : String → Prop
  | start : Reaches graph start start
  | onward {id node output target} :
      Reaches graph start id →
      graph.find? id = some node →
      node.next? output = some target →
      Reaches graph start target

/-- Two graphs look the same from some ids: each of these has the same node in both, or none in
both, and the outputs of these nodes lead to no other ids. -/
structure AgreeOn
    (ids : Set String)
    (graph other : Graph) : Prop where
  /-- Each id has the same node in both. -/
  same : ∀ id ∈ ids, graph.find? id = other.find? id
  /-- No output of a node with such an id leads elsewhere. -/
  closed : ∀ id ∈ ids, ∀ node, graph.find? id = some node → node.LeadsInto ids

variable {graph other : Graph} {start id : String}

/-- The ids that a graph leads to are left by none of its outputs. -/
theorem agreeOn_reaches
    (same : ∀ id, graph.Reaches start id → graph.find? id = other.find? id) :
    AgreeOn { id | graph.Reaches start id } graph other where
  same := same
  closed _ reached _ found _ _ next := reached.onward found next

/-- Graphs look the same from either of them. -/
theorem AgreeOn.symm
    {ids : Set String}
    (agree : AgreeOn ids graph other) :
    AgreeOn ids other graph where
  same id inside := (agree.same id inside).symm
  closed id inside node found := agree.closed id inside node ((agree.same id inside).trans found)

/-- A graph does not lead out of ids that none of its outputs leaves. -/
theorem AgreeOn.mem_of_reaches
    {ids : Set String}
    (agree : AgreeOn ids graph other)
    (inside : start ∈ ids)
    (reached : graph.Reaches start id) :
    id ∈ ids := by
  induction reached with
  | start => exact inside
  | onward _ found next inductionHypothesis =>
      exact agree.closed _ inductionHypothesis _ found _ _ next

/-- A walk at the ids is confined to them, and carries out only nodes whose ids are among those
named second. -/
structure Confines
    (graph : Graph)
    (ids carried : Set String) : Prop where
  /-- A node that is found is among those that may be carried out. -/
  carries : ∀ id ∈ ids, ∀ node, graph.find? id = some node → id ∈ carried
  /-- No output leads away from the ids. -/
  closed : ∀ id ∈ ids, ∀ node, graph.find? id = some node → node.LeadsInto ids

theorem confines_univ (graph : Graph) : graph.Confines Set.univ Set.univ where
  carries _ _ _ _ := trivial
  closed _ _ _ _ _ _ _ := trivial

/-- The nodes that are reached from a start confine the walks from there. -/
theorem confines_reaches
    (graph : Graph)
    (start : String) :
    graph.Confines { id | graph.Reaches start id }
      { id | graph.Reaches start id ∧ graph.hasNode id = true } where
  carries _ reached _ found := ⟨reached, Option.isSome_of_mem found⟩
  closed _ reached _ found _ _ next := reached.onward found next

/-- Where ids do not repeat, every node is the one that is found for its id. -/
theorem find?_eq_some_iff_of_nodup
    (distinct : (graph.nodes.map (·.id)).Nodup)
    {node : Node} :
    graph.find? id = some node ↔ node ∈ graph.nodes ∧ node.id = id := by
  constructor
  · intro found
    exact ⟨mem_of_find? found, id_of_find? found⟩
  · rintro ⟨member, rfl⟩
    cases found : graph.find? node.id with
    | none =>
        rw [find?_eq_find?_reverse, List.find?_eq_none] at found
        exact absurd (by simp) (found node (List.mem_reverse.2 member))
    | some first =>
        have one : first = node :=
          List.inj_on_of_nodup_map distinct (mem_of_find? found) member (id_of_find? found)
        rw [one]

/-- Where ids do not repeat, the order of the nodes does not matter. -/
theorem find?_of_perm
    (distinct : (graph.nodes.map (·.id)).Nodup)
    {nodes : List Node}
    (permuted : graph.nodes.Perm nodes)
    (id : String) :
    graph.find? id = (graph.withNodes nodes).find? id := by
  have still : ((graph.withNodes nodes).nodes.map (·.id)).Nodup :=
    (permuted.map (·.id)).nodup_iff.1 distinct
  ext node
  rw [find?_eq_some_iff_of_nodup distinct, find?_eq_some_iff_of_nodup still, permuted.mem_iff]
  rfl

/-- Leaving out nodes with other ids does not change which node has an id. -/
theorem find?_of_filter
    {fewer more : Graph}
    {keep : Node → Bool}
    (rest : fewer.nodes = more.nodes.filter keep)
    (kept : ∀ node ∈ more.nodes, node.id = id → keep node = true) :
    fewer.find? id = more.find? id := by
  rw [find?_eq_find?_reverse, find?_eq_find?_reverse, rest, ← List.filter_reverse,
    List.find?_filter]
  refine List.find?_congr fun node member => ?_
  by_cases asked : node.id = id
  · simp [asked, kept node (List.mem_reverse.1 member) asked]
  · simp [asked]

end Graph
end RequestFlow
