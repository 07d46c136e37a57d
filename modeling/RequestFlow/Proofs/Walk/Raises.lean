import RequestFlow.Proofs.Graph.Document
import RequestFlow.Proofs.Nodes.Writable
import RequestFlow.Proofs.Template.Overlong
import RequestFlow.Proofs.Walk.Arrival

/-!
# What a walk can fail for

What a handler fails for is always reported. Apart from that a walk fails only where references are
resolved, and there, while all data can be written as JSON, only for a number of too many digits in
the configuration of a node. Handlers are taken to keep that data can be written; then so do walks.
-/

namespace RequestFlow

open Transition Template

variable {ω η : Type} {holds : ω → Prop} {handlers : Handlers ω η}

/-- A fault leaves a handler as one that is reported. -/
theorem Fault.isReported_leaving
    (node typeTag : String)
    (fault : Fault) :
    (fault.leaving node typeTag).isReported = true := by
  unfold leaving
  split
  next reported => exact reported
  · rfl

/-- A fault that is reported, or one for a number of too many digits. -/
def Fault.Expected (lengths : Nat → Prop) (fault : Fault) : Prop :=
  fault.isReported = true ∨ fault.TooLong lengths

theorem Fault.Expected.mono
    {lengths others : Nat → Prop}
    (contained : ∀ count, lengths count → others count)
    (fault : Fault)
    (expected : fault.Expected lengths) :
    fault.Expected others :=
  expected.imp_right (TooLong.mono contained fault)

/-- A number of too many digits stands in the configuration of a node. -/
def Graph.OverlongIn (graph : Graph) (count : Nat) : Prop :=
  ∃ node ∈ graph.nodes, Template.OverlongIn (.object node.data) count

/-- The walks that start at outputs keep that data can be written. -/
def Subflow.Keeps
    (holds : ω → Prop)
    (subflow : Subflow ω) : Prop :=
  ∀ node output,
    Ensures (Session.Sound holds) (fun _ => True) (fun _ => True) (subflow node output)

/-- Looking up a type does not fail, and what is found keeps that data can be written, if the walks
that it starts do. -/
def Handlers.Keep
    (holds : ω → Prop)
    (handlers : Handlers ω η) : Prop :=
  ∀ typeTag, Ensures holds
    (fun found => ∀ handler, found = some handler → ∀ call subflow,
      Json.Writable (.object call.node.data) → Subflow.Keeps holds subflow →
        Ensures (Session.Sound holds) Reply.Writable (fun _ => True)
          (handlers.perform handler call subflow))
    (fun _ => False) (handlers.resolve typeTag)

namespace Walk

section Visit

variable {subflow : Subflow ω} {depth : Int}

theorem ensures_resolveData
    {node : Node}
    (writable : Json.Writable (.object node.data)) :
    Ensures (Session.Sound holds) (fun data => Json.Writable (.object data))
      (Fault.TooLong (Template.OverlongIn (.object node.data))) (resolveData node) :=
  (ensures_read fun _ sound => sound.memory).bind fun _ memoryWritable =>
    ensures_ofExcept (yields_resolveFields memoryWritable node.data writable)

theorem ensures_dispatch
    {handler : η}
    {typeTag : String}
    {node : Node}
    (performs : Ensures (Session.Sound holds) Reply.Writable (fun _ => True)
      (handlers.perform handler ⟨node, depth⟩ subflow)) :
    Ensures (Session.Sound holds) (fun outcome => Json.Writable outcome.payload)
      (fun fault => fault.isReported = true)
      (dispatch handlers subflow depth handler typeTag node) := by
  refine (performs.bind fun reply writable => ?_).mapFault fun fault _ =>
    fault.isReported_leaving node.id typeTag
  exact ensures_ofExcept (.of_ok fun outcome => writable outcome)

theorem ensures_keep
    (node : String)
    {outcome : Outcome}
    {raises : Fault → Prop}
    (writable : Json.Writable outcome.payload) :
    Ensures (Session.Sound holds) (fun _ => True) raises (keep node outcome) := by
  have named : Json.IsName outcome.key := by
    unfold Outcome.key
    cases outcome.output with
    | none => exact Json.isName_null
    | some name => exact Json.isName_text name
  unfold keep
  split
  · exact ensures_pure trivial
  · exact Session.ensures_remember fun _ memoryWritable =>
      memoryWritable.record node named writable

/-- A visit fails for what its handler fails for, which is reported, or for a number of too many
digits in the configuration of its node. -/
theorem ensures_visit
    (keep : handlers.Keep holds)
    (walks : Subflow.Keeps holds subflow)
    (depth : Int)
    {node : Node}
    (writable : Json.Writable (.object node.data)) :
    Ensures (Session.Sound holds) (fun _ => True)
      (Fault.Expected (Template.OverlongIn (.object node.data)))
      (visit handlers subflow depth node) := by
  refine (Session.ensures_enterNode node.id).bind fun _ _ => ?_
  have looked := Session.ensures_outside (keep node.typeTag)
  refine (looked.mono_raises fun _ => False.elim).bind fun found keeps => ?_
  cases found with
  | none => exact ensures_pure trivial
  | some handler =>
      refine ((ensures_resolveData writable).mono_raises fun _ => .inr).bind fun data given => ?_
      have performs := keeps handler rfl ⟨node.withData data, depth⟩ subflow given walks
      refine ((ensures_dispatch performs).mono_raises fun _ => .inl).bind fun outcome payload => ?_
      exact (ensures_keep node.id payload).bind fun _ _ => ensures_pure trivial

end Visit

section Walk

variable {graph : Graph} (writable : graph.Writable) (keep : handlers.Keep holds)

include writable keep

/-- A walk at one level fails as its visits do. -/
theorem ensures_onward
    {subflow : Subflow ω}
    (walks : Subflow.Keeps holds subflow)
    (depth : Int)
    (visited : List String)
    (current : String) :
    Ensures (Session.Sound holds) (fun _ => True) (Fault.Expected graph.OverlongIn)
      (onward graph handlers subflow depth visited current) := by
  induction visited, current using onward.induct graph with
  | case1 visited current seen =>
      rw [onward_of_mem seen]
      exact ensures_pure trivial
  | case2 visited current fresh missing =>
      rw [onward_of_missing fresh missing]
      exact ensures_pure trivial
  | case3 visited current fresh node found inductionHypothesis =>
      have member := Graph.mem_of_find? found
      have here : ∀ count, Template.OverlongIn (.object node.data) count → graph.OverlongIn count :=
        fun count overlong => ⟨node, member, overlong⟩
      have visits := ensures_visit keep walks depth (writable.data node member)
      rw [onward_of_found fresh found]
      refine (visits.mono_raises (Fault.Expected.mono here)).bind fun carried _ => ?_
      cases carried with
      | none => exact ensures_pure trivial
      | some outcome =>
          cases next : node.next? outcome.output with
          | none => simpa only [next] using ensures_pure trivial
          | some target =>
              simpa only [next] using
                (inductionHypothesis target).bind fun _ _ => ensures_pure trivial

/-- The walks that are started at outputs keep that data can be written, whatever they fail for. -/
theorem keeps_subflow
    (limit : Int)
    (levels : Nat)
    (depth : Int) :
    Subflow.Keeps holds (subflow graph handlers limit levels depth) := by
  -- A walk with one level left starts its own walks one deeper, with one level less.
  induction levels generalizing depth with
  | zero =>
      intro node output
      unfold subflow
      cases node.next? output with
      | none => exact ensures_pure trivial
      | some start => exact ensures_fail trivial
  | succ levels inductionHypothesis =>
      intro node output
      unfold subflow
      cases next : node.next? output with
      | none => simpa only [next] using ensures_pure trivial
      | some start =>
          have walked := ensures_onward writable keep (inductionHypothesis (depth + 1))
            (depth + 1) [] start
          simpa only [next] using (walked.mono_raises fun _ _ => trivial).bind fun _ _ =>
            (Session.ensures_enterNode node.id).bind fun _ _ => ensures_pure trivial

/-- A walk fails for what is reported, or for a number of too many digits in the configuration of a
node. -/
theorem ensures_run
    (limit depth : Int)
    (start : String) :
    Ensures (Session.Sound holds) (fun _ => True) (Fault.Expected graph.OverlongIn)
      (run graph handlers limit depth start) :=
  ensures_onward writable keep
    (keeps_subflow writable keep limit (levelsLeft limit depth) depth) depth [] start

end Walk

end Walk
end RequestFlow
