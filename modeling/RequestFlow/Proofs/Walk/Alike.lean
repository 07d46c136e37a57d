import RequestFlow.Proofs.Graph.Reach
import RequestFlow.Proofs.Nodes.Alike
import RequestFlow.Proofs.Walk.Arrival

/-!
# Walks that cannot be told apart

Two walks are compared that start at the same id: of graphs that look the same from there, in
sessions that differ in the world outside. Handlers respect this comparison if looking one up finds
handlers that act alike, whatever the world. The walks are then alike: at one level by the
recursion of the walk, and from one level to the next by induction on the levels that are left.
-/

namespace RequestFlow

open Transition Session

variable {ω η : Type} {ids : Set String} {related : ω → ω → Prop}

/-- Two ways to walk at outputs are alike at every node that leads to the given ids. -/
def Subflow.Alike
    (ids : Set String)
    (related : ω → ω → Prop)
    (first second : Subflow ω) : Prop :=
  ∀ node, node.LeadsInto ids → ∀ output,
    Transition.Alike (Related related) (first node output) (second node output)

/-- Two handlers act alike: at nodes that lead to the given ids, in sessions that differ in related
worlds, they reply the same if the ways to walk are alike. -/
def Handlers.ActAlike
    (ids : Set String)
    (related : ω → ω → Prop)
    (handlers : Handlers ω η)
    (handler other : η) : Prop :=
  ∀ call first second, call.node.LeadsInto ids → Subflow.Alike ids related first second →
    Transition.Alike (Related related) (handlers.perform handler call first)
      (handlers.perform other call second)

/-- Looking a type up in related worlds finds nothing in either, or handlers that act alike, or
fails the same; and the worlds stay related. -/
def Handlers.Respects
    (ids : Set String)
    (related : ω → ω → Prop)
    (handlers : Handlers ω η) : Prop :=
  ∀ typeTag world other, related world other →
    Fit (Option.Rel (handlers.ActAlike ids related)) (handlers.resolve typeTag world).1
        (handlers.resolve typeTag other).1 ∧
      related (handlers.resolve typeTag world).2 (handlers.resolve typeTag other).2

namespace Walk

variable {handlers : Handlers ω η} {graph other : Graph} {first second : Subflow ω} {depth : Int}

/-- Keeping a payload does not look at the world. -/
theorem alike_keep
    (node : String)
    (outcome : Outcome) :
    Alike (Related related) (keep node outcome) (keep node outcome) := by
  unfold keep
  split
  · exact alike_pure _
  · exact alike_remember _

theorem alike_visit
    (respects : handlers.Respects ids related)
    (walks : Subflow.Alike ids related first second)
    {node : Node}
    (inside : node.LeadsInto ids) :
    Alike (Related related) (visit handlers first depth node)
      (visit handlers second depth node) := by
  refine (alike_enterNode node.id).bind fun _ => ?_
  have looked : ∀ session other, Related related session other →
      Fit (Option.Rel (handlers.ActAlike ids related))
          (outside (handlers.resolve node.typeTag) session).1
          (outside (handlers.resolve node.typeTag) other).1 ∧
        Related related (outside (handlers.resolve node.typeTag) session).2
          (outside (handlers.resolve node.typeTag) other).2 := by
    intro session other holds
    obtain ⟨fit, kept⟩ := respects node.typeTag session.world other.world holds.world
    exact ⟨fit, related_outside holds kept⟩
  refine alike_bind_of_fit looked fun found otherFound fits => ?_
  cases fits with
  | none => exact alike_pure _
  | @some handler otherHandler actAlike =>
      have resolved : Alike (Related related) (resolveData node) (resolveData node) :=
        (Session.alike_read fun _ _ => rfl).bind fun _ => alike_ofExcept _
      refine resolved.bind fun data => Alike.bind ?_ fun outcome => ?_
      · have performed := actAlike ⟨node.withData data, depth⟩ first second inside walks
        exact (performed.bind fun _ => alike_ofExcept _).mapFault _
      · exact (alike_keep node.id outcome).bind fun _ => alike_pure _

/-- Walks at one level are alike if the walks at outputs are. -/
theorem alike_onward
    (agree : graph.AgreeOn ids other)
    (respects : handlers.Respects ids related)
    (walks : Subflow.Alike ids related first second)
    (visited : List String)
    {current : String}
    (inside : current ∈ ids) :
    Alike (Related related) (onward graph handlers first depth visited current)
      (onward other handlers second depth visited current) := by
  -- The recursion is that of the first graph; the second graph has the same nodes ahead.
  induction visited, current using onward.induct graph with
  | case1 visited current seen =>
      rw [onward_of_mem seen, onward_of_mem seen]
      exact alike_pure _
  | case2 visited current fresh missing =>
      have missingToo : other.find? current = none := (agree.same current inside).symm.trans missing
      rw [onward_of_missing fresh missing, onward_of_missing fresh missingToo]
      exact alike_pure _
  | case3 visited current fresh node found inductionHypothesis =>
      have foundToo : other.find? current = some node :=
        (agree.same current inside).symm.trans found
      have leads : node.LeadsInto ids := agree.closed current inside node found
      rw [onward_of_found fresh found, onward_of_found fresh foundToo]
      refine (alike_visit respects walks leads).bind fun carried => ?_
      cases carried with
      | none => exact alike_pure _
      | some outcome =>
          cases next : node.next? outcome.output with
          | none => simpa only [next] using alike_pure _
          | some target =>
              have further := inductionHypothesis target (leads outcome.output target next)
              simpa only [next] using further.bind fun _ => alike_pure _

/-- With the same levels left, the walks at outputs are alike. -/
theorem alike_subflow
    (agree : graph.AgreeOn ids other)
    (respects : handlers.Respects ids related)
    (limit : Int)
    (levels : Nat)
    (depth : Int) :
    Subflow.Alike ids related (subflow graph handlers limit levels depth)
      (subflow other handlers limit levels depth) := by
  induction levels generalizing depth with
  | zero =>
      intro node _ output
      unfold subflow
      cases node.next? output with
      | none => exact alike_pure _
      | some start => exact alike_fail _
  | succ levels inductionHypothesis =>
      intro node leads output
      unfold subflow
      cases next : node.next? output with
      | none => simpa only [next] using alike_pure _
      | some start =>
          have walked : Alike (Related related)
              (onward graph handlers (subflow graph handlers limit levels (depth + 1))
                (depth + 1) [] start)
              (onward other handlers (subflow other handlers limit levels (depth + 1))
                (depth + 1) [] start) :=
            alike_onward agree respects (inductionHypothesis (depth + 1)) []
              (leads output start next)
          simpa only [next] using
            walked.bind fun _ => (alike_enterNode node.id).bind fun _ => alike_pure _

/-- Walks from one of the ids are alike. -/
theorem alike_run
    (agree : graph.AgreeOn ids other)
    (respects : handlers.Respects ids related)
    (limit depth : Int)
    {start : String}
    (inside : start ∈ ids) :
    Alike (Related related) (run graph handlers limit depth start)
      (run other handlers limit depth start) :=
  alike_onward agree respects
    (alike_subflow agree respects limit (levelsLeft limit depth) depth) [] inside

end Walk
end RequestFlow
