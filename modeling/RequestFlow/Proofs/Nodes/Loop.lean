import RequestFlow.Nodes.Loop

/-!
# Loops, move by move

A loop reads its items, walks once before them, and then binds one item after another and walks for
it. Only reading the items can fail: the faults of the walks become replies.
-/

namespace RequestFlow
namespace Nodes

variable {ω : Type} {subflow : Subflow ω} {node : Node} {session : Session ω}

/-- The session in which the walk for an item starts. -/
def bound (node : Node) (item : Item) (session : Session ω) : Session ω :=
  { session with
    memory := (session.memory.setVariable (itemVariable node) item.value).record node.id
      (.text "currentItem") (.record [("index", item.index), ("value", item.value)]) }

theorem walkIfDeclared_apply
    {output : String} :
    walkIfDeclared subflow node output session =
      if node.hasOutput output then
        ((subflow node (some output) session).1.map fun _ => (),
          (subflow node (some output) session).2)
      else (.ok (), session) := by
  unfold walkIfDeclared
  split
  · rw [Transition.bind_apply]
    rcases subflow node (some output) session with ⟨fault | traversal, final⟩ <;> rfl
  · rfl

/-- The first of the items is bound, and the walk for it says whether the next one follows. -/
theorem eachItem_cons
    {processed : Nat}
    {item : Item}
    {rest : List Item} :
    eachItem subflow node processed (item :: rest) session =
      match walkIfDeclared subflow node "inLoop" (bound node item session) with
      | (.error fault, final) => (.ok (failedAt item fault), final)
      | (.ok (), after) => eachItem subflow node (processed + 1) rest after := by
  have carried : carryOut subflow node item session =
      (.ok (walkIfDeclared subflow node "inLoop" (bound node item session)).1,
        (walkIfDeclared subflow node "inLoop" (bound node item session)).2) := rfl
  rw [eachItem, Transition.bind_apply, carried]
  rcases walkIfDeclared subflow node "inLoop" (bound node item session) with ⟨fault | done, after⟩
  · rfl
  · rfl

/-- A loop goes through the items that it has read before its first walk. -/
theorem loop_apply
    {depth : Int} :
    loop ⟨node, depth⟩ subflow session =
      match loopItems (node.data.get "items") with
      | .error fault => (.error fault, session)
      | .ok items =>
        match walkIfDeclared subflow node "beforeLoop" session with
        | (.error fault, final) => (.ok (failedBefore fault), final)
        | (.ok (), after) => eachItem subflow node 0 items after := by
  unfold loop
  rw [Transition.bind_apply, Transition.ofExcept_apply]
  cases loopItems (node.data.get "items") with
  | error fault => rfl
  | ok items =>
      simp only [Transition.bind_apply, Transition.attempt_apply]
      rcases walkIfDeclared subflow node "beforeLoop" session with ⟨fault | done, after⟩
      · rfl
      · rfl

end Nodes
end RequestFlow
