import Mathlib.Data.Set.Insert
import RequestFlow.Proofs.Walk.Alike
import RequestFlow.Proofs.Walk.Execution

/-!
# Walks depend on what they can reach

A walk with built-in nodes ends the same on two graphs that look the same from where it starts: with
the same record or fault, and in the same session. So the order of the nodes does not matter, nor do
nodes out of reach.
-/

namespace RequestFlow
namespace Walk

open Transition

variable {ω : Type} {graph other : Graph} {ids : Set String} {limit depth : Int} {start : String}
  {resolve : String → Transition ω (Option Builtin)} {support : Rules.Support}

/-- Built-in nodes tell nothing apart but worlds that differ. -/
theorem respects_builtins :
    (builtins resolve support).Respects ids Eq := by
  rintro typeTag world _ rfl
  refine ⟨.refl fun found _ => ?_, rfl⟩
  cases found with
  | none => exact .none
  | some builtin =>
      exact .some fun call _ _ inside walks =>
        builtin.alike_perform support (walks call.node inside)

/-- Graphs that look the same from where a walk starts give the same walk. -/
theorem run_eq_of_agreeOn
    (agree : graph.AgreeOn ids other)
    (inside : start ∈ ids)
    (session : Session ω) :
    run graph (builtins resolve support) limit depth start session =
      run other (builtins resolve support) limit depth start session := by
  obtain ⟨same, kept⟩ := alike_run agree respects_builtins limit depth inside session session
    (Session.related_eq_iff.2 rfl)
  exact Prod.ext same (Session.related_eq_iff.1 kept)

/-- Graphs that agree on every id that one of them reaches give the same walk. -/
theorem run_eq_of_same_reach
    (same : ∀ id, graph.Reaches start id → graph.find? id = other.find? id)
    (session : Session ω) :
    run graph (builtins resolve support) limit depth start session =
      run other (builtins resolve support) limit depth start session :=
  run_eq_of_agreeOn (Graph.agreeOn_reaches same) .start session

/-- A walk with built-in nodes is decided by what it can reach: it has the same result and leaves
the same session behind on any two graphs that agree on a set of ids which holds the start and
which no output leaves. Reordering the nodes, leaving out nodes that are not reached, and adding
such nodes are cases of this. -/
theorem run_depends_on_reach
    (graph : Graph)
    (resolve : String → Transition ω (Option Builtin))
    (support : Rules.Support)
    (limit depth : Int)
    (start : String) :
    (∀ (other : Graph) (ids : Set String), start ∈ ids → graph.AgreeOn ids other →
      ∀ session : Session ω,
        run graph (builtins resolve support) limit depth start session =
          run other (builtins resolve support) limit depth start session) ∧
    (∀ nodes, (graph.nodes.map (·.id)).Nodup → graph.nodes.Perm nodes →
      ∀ session : Session ω,
        run graph (builtins resolve support) limit depth start session =
          run (graph.withNodes nodes) (builtins resolve support) limit depth start session) ∧
    (∀ keep : Node → Bool,
      (∀ node ∈ graph.nodes, graph.Reaches start node.id → keep node = true) →
      ∀ session : Session ω,
        run graph (builtins resolve support) limit depth start session =
          run (graph.withNodes (graph.nodes.filter keep)) (builtins resolve support) limit depth
            start session) ∧
    (∀ (nodes : List Node) (keep : Node → Bool), graph.nodes = nodes.filter keep →
      (∀ node ∈ nodes, graph.Reaches start node.id → keep node = true) →
      ∀ session : Session ω,
        run graph (builtins resolve support) limit depth start session =
          run (graph.withNodes nodes) (builtins resolve support) limit depth start session) := by
  refine ⟨?_, ?_, ?_, ?_⟩
  · intro other ids inside agree session
    exact run_eq_of_agreeOn agree inside session
  · intro nodes distinct permuted session
    exact run_eq_of_same_reach (fun id _ => Graph.find?_of_perm distinct permuted id) session
  · intro keep kept session
    refine run_eq_of_same_reach (fun id reached => ?_) session
    exact (Graph.find?_of_filter rfl fun node member same => kept node member (same ▸ reached)).symm
  · intro nodes keep rest kept session
    refine run_eq_of_same_reach (fun id reached => ?_) session
    exact Graph.find?_of_filter rest fun node member same => kept node member (same ▸ reached)

namespace Sample

/-- A loop whose body leads back to it, and which leads on to an id without a node. -/
def around : Node where
  id := "around"
  data := [(.text "type", .text "loop"), (.text "items", .list [.int 1, .int 2])]
  outputs := [("inLoop", some ⟨some "inner", []⟩), ("afterLoop", some ⟨some "nowhere", []⟩)]

/-- The body of the loop. -/
def inner : Node where
  id := "inner"
  data := [(.text "type", .text "variable"), (.text "variableName", .text "last")]
  outputs := [("out", some ⟨some "around", []⟩)]

/-- A node that leads to the loop and to which nothing leads. -/
def stray : Node where
  id := "stray"
  outputs := [("out", some ⟨some "around", []⟩)]

/-- A graph with a node that is not reached from the loop. -/
def roomy : Graph where
  nodes := [around, stray, inner]

/-- The nodes that are reached from the loop, in another order and under another name. -/
def narrow : Graph where
  controller := "narrow"
  nodes := [inner, around]

/-- The ids that are reached from the loop. -/
def circle : Set String :=
  {"around", "inner", "nowhere"}

theorem agreeOn_circle : roomy.AgreeOn circle narrow where
  same id inside := by
    rcases inside with rfl | rfl | rfl <;> rfl
  closed id inside node found := by
    have leads : node = around ∨ node = inner := by
      rcases inside with rfl | rfl | rfl
      · exact .inl (Option.some.inj found).symm
      · exact .inr (Option.some.inj found).symm
      · cases found
    refine Node.leadsInto_of_targets fun key edge target declared ends => ?_
    rcases leads with rfl | rfl
    · simp only [around, List.mem_cons, Prod.mk.injEq, Option.some.injEq, List.not_mem_nil,
        or_false] at declared
      rcases declared with ⟨_, rfl⟩ | ⟨_, rfl⟩ <;> cases ends <;> simp [circle]
    · simp only [inner, List.mem_cons, Prod.mk.injEq, Option.some.injEq, List.not_mem_nil,
        or_false] at declared
      obtain ⟨_, rfl⟩ := declared
      cases ends
      simp [circle]

/-- The stray node is not reached from the loop. -/
theorem kept_of_reaches
    {graph other : Graph}
    (agree : graph.AgreeOn circle other)
    {node : Node}
    (reached : graph.Reaches "around" node.id) :
    (node.id != "stray") = true := by
  have inside : "around" ∈ circle := .inl rfl
  have known : node.id ∈ circle := agree.mem_of_reaches inside reached
  simp only [circle, Set.mem_insert_iff, Set.mem_singleton_iff] at known
  rcases known with same | same | same <;> simp [same]

/-- The built-in node of a type, in a world without a registry. -/
def known (typeTag : String) : Transition Unit (Option Builtin) :=
  pure (Builtin.ofType? typeTag)

/-- The built-in nodes without predicates. -/
def direct : Handlers Unit Builtin :=
  builtins known {}

end Sample

/-- The walk from the loop is the same without the stray node and under another name, in the
opposite order, with the stray node left out, and with the stray node put back. -/
theorem run_depends_on_reach_circle :
    (∀ session, run Sample.roomy Sample.direct 32 0 "around" session =
      run Sample.narrow Sample.direct 32 0 "around" session) ∧
    (∀ session, run Sample.roomy Sample.direct 32 0 "around" session =
      run (Sample.roomy.withNodes Sample.roomy.nodes.reverse) Sample.direct 32 0 "around"
        session) ∧
    (∀ session, run Sample.roomy Sample.direct 32 0 "around" session =
      run (Sample.roomy.withNodes (Sample.roomy.nodes.filter (·.id != "stray"))) Sample.direct
        32 0 "around" session) ∧
    ∀ session, run Sample.narrow Sample.direct 32 0 "around" session =
      run (Sample.narrow.withNodes [Sample.stray, Sample.inner, Sample.around]) Sample.direct
        32 0 "around" session := by
  have depends := run_depends_on_reach Sample.roomy Sample.known {} 32 0 "around"
  have dependsToo := run_depends_on_reach Sample.narrow Sample.known {} 32 0 "around"
  refine ⟨?_, ?_, ?_, ?_⟩
  · exact depends.1 Sample.narrow Sample.circle (.inl rfl) Sample.agreeOn_circle
  · exact depends.2.1 _ (by decide) (List.reverse_perm _).symm
  · exact depends.2.2.1 _ fun node _ reached => Sample.kept_of_reaches Sample.agreeOn_circle reached
  · exact dependsToo.2.2.2 _ (·.id != "stray") (by rfl)
      fun node _ reached => Sample.kept_of_reaches Sample.agreeOn_circle.symm reached

end Walk
end RequestFlow
