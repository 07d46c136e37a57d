import RequestFlow.Nodes.Builtin
import RequestFlow.Proofs.Flow.Alike

/-!
# Built-in nodes do not see the world outside

A built-in node reads what is remembered and the request, and starts walks at its own outputs. If
two ways to walk cannot be told apart at these outputs, the node cannot be told apart either.
-/

namespace RequestFlow

open Transition Session

namespace Nodes

variable {ω : Type} {related : ω → ω → Prop} {call : Call} {node : Node}
  {first second : Subflow ω}

section Alone

variable (call : Call) (first second : Subflow ω)

theorem alike_assign :
    Alike (Related related) (assign call first) (assign call second) := by
  unfold assign
  by_cases named : (call.node.data.get "variableName").isTruthy
  · simp only [named]
    exact (alike_remember _).bind fun _ => alike_pure _
  · simp only [named]
    exact alike_fail _

theorem alike_enter :
    Alike (Related related) (enter call first) (enter call second) :=
  (Session.alike_read fun _ _ => rfl).bind fun _ => alike_pure _

theorem alike_responding :
    Alike (Related related) (Nodes.respond call first) (Nodes.respond call second) :=
  (alike_ofExcept _).bind fun response =>
    (Session.alike_respond response).bind fun _ => alike_pure _

theorem alike_validate (support : Rules.Support) :
    Alike (Related related) (validate support call first)
      (validate support call second) := by
  refine (Session.alike_read fun _ _ => rfl).bind fun request => ?_
  refine (Session.alike_read fun _ _ => rfl).bind fun memory => ?_
  refine (alike_ofExcept _).bind fun rules => (alike_ofExcept _).bind fun messages => ?_
  cases messages with
  | nil => exact (alike_remember _).bind fun _ => alike_pure _
  | cons message messages => exact (alike_remember _).bind fun _ => alike_pure _

end Alone

section Loop

variable (walks : ∀ output, Alike (Related related) (first node output) (second node output))

include walks

theorem alike_walkIfDeclared (output : String) :
    Alike (Related related) (walkIfDeclared first node output)
      (walkIfDeclared second node output) := by
  unfold walkIfDeclared
  split
  · exact (walks (some output)).bind fun _ => alike_pure _
  · exact alike_pure _

theorem alike_carryOut (item : Item) :
    Alike (Related related) (carryOut first node item) (carryOut second node item) :=
  (alike_remember _).bind fun _ => (alike_remember _).bind fun _ =>
    (alike_walkIfDeclared walks "inLoop").attempt

theorem alike_eachItem
    (processed : Nat)
    (items : List Item) :
    Alike (Related related) (eachItem first node processed items)
      (eachItem second node processed items) := by
  induction items generalizing processed with
  | nil => exact alike_pure _
  | cons item items inductionHypothesis =>
      refine (alike_carryOut walks item).bind fun ended => ?_
      cases ended with
      | error fault => exact alike_pure _
      | ok done => exact inductionHypothesis (processed + 1)

end Loop

theorem alike_loop
    (walks : ∀ output,
      Alike (Related related) (first call.node output) (second call.node output)) :
    Alike (Related related) (loop call first) (loop call second) := by
  refine (alike_ofExcept _).bind fun items => ?_
  refine (alike_walkIfDeclared walks "beforeLoop").attempt.bind fun ended => ?_
  cases ended with
  | error fault => exact alike_pure _
  | ok done => exact alike_eachItem walks 0 items

end Nodes

/-- Built-in nodes can be told apart by the walks at their own outputs alone. -/
theorem Builtin.alike_perform
    {ω : Type}
    {related : ω → ω → Prop}
    (support : Rules.Support)
    (builtin : Builtin)
    {call : Call}
    {first second : Subflow ω}
    (walks : ∀ output,
      Alike (Related related) (first call.node output) (second call.node output)) :
    Alike (Related related) (builtin.perform support call first)
      (builtin.perform support call second) := by
  cases builtin with
  | assignment => exact Nodes.alike_assign call first second
  | entry => exact Nodes.alike_enter call first second
  | response => exact Nodes.alike_responding call first second
  | loop => exact Nodes.alike_loop walks
  | validation => exact Nodes.alike_validate call first second support

end RequestFlow
