import RequestFlow.Flow.Session
import RequestFlow.Graph.Basic
import RequestFlow.Template.Resolve
import RequestFlow.Walk.Traversal

/-!
# Walking a graph

A walk carries out one node after another. At each node the handler for its type is looked up, the
references in the configuration are resolved, the handler runs on that copy of the node, and its
payload is recorded; the outcome names the output to follow. A walk enters no node twice, so it is
as long as the graph has nodes at most.

A handler may start a walk of its own at one of the node's outputs. Such a walk is one level deeper,
and levels are limited, so a graph that leads back into itself through its compound nodes is finite
too.
-/

namespace RequestFlow

/-- What a handler is called with: the node with its resolved configuration, and how deep the walk
is. -/
structure Call where
  /-- The node with its resolved configuration. -/
  node : Node
  /-- The level of the walk. -/
  depth : Int

/-- How a handler starts the walk that begins at an output of a node. There is none if the output
leads nowhere. -/
abbrev Subflow (ω : Type) :=
  Node → Option String → Transition (Session ω) (Option Traversal)

/-- How nodes are carried out: which handler a type has, and what a handler does. -/
structure Handlers (ω η : Type) where
  /-- The handler of a type, if there is one. -/
  resolve : String → Transition ω (Option η)
  /-- What a handler does. -/
  perform : η → Call → Subflow ω → Transition (Session ω) Reply

/-- A fault as it leaves the handler of a node: what is not reported to clients as it is becomes a
fault of that handler. -/
def Fault.leaving (node typeTag : String) (fault : Fault) : Fault :=
  if fault.isReported then fault else .inHandler fault node typeTag

namespace Graph

/-- The nodes that have not been visited. -/
def unvisited (graph : Graph) (visited : List String) : List Node :=
  graph.nodes.filter fun node => node.id ∉ visited

/-- Visiting a node leaves fewer nodes to visit. -/
theorem unvisited_lt
    {graph : Graph}
    {visited : List String}
    {current : String}
    {node : Node}
    (fresh : current ∉ visited)
    (found : graph.find? current = some node) :
    (graph.unvisited (current :: visited)).length < (graph.unvisited visited).length := by
  have known : node.id = current := id_of_find? found
  have narrowed : graph.unvisited (current :: visited) =
      (graph.unvisited visited).filter fun other => other.id ≠ current := by
    simp only [unvisited, List.filter_filter]
    congr 1
    funext other
    simp [List.mem_cons, not_or]
  rw [narrowed]
  refine List.length_filter_lt_length_iff_exists.2 ⟨node, ?_, by simp [known]⟩
  simp [unvisited, mem_of_find? found, known, fresh]

end Graph

namespace Walk

variable {ω η : Type}

/-- Run a handler on a node. The fault of a handler is attributed to the node and its type. -/
def dispatch (handlers : Handlers ω η) (subflow : Subflow ω) (depth : Int) (handler : η)
    (typeTag : String) (node : Node) : Transition (Session ω) Outcome :=
  .mapFault (Fault.leaving node.id typeTag) do
    let reply ← handlers.perform handler ⟨node, depth⟩ subflow
    .ofExcept reply.toOutcome

/-- The configuration of a node with its references resolved. -/
def resolveData (node : Node) : Transition (Session ω) Fields := do
  let memory ← .read (·.memory)
  .ofExcept (Template.resolveFields memory node.data)

/-- Record the payload of an outcome, unless it is null. -/
def keep (node : String) (outcome : Outcome) : Transition (Session ω) Unit :=
  match outcome.payload with
  | .null => pure ()
  | payload => Session.record node outcome.key payload

/-- Carry out a node, unless nothing handles its type. -/
def visit (handlers : Handlers ω η) (subflow : Subflow ω) (depth : Int) (node : Node) :
    Transition (Session ω) (Option Outcome) := do
  Session.enterNode node.id
  match ← Session.outside (handlers.resolve node.typeTag) with
  | none => pure none
  | some handler =>
    let data ← resolveData node
    let outcome ← dispatch handlers subflow depth handler node.typeTag (node.withData data)
    keep node.id outcome
    pure (some outcome)

/-- Walk on from a node after the visited ones. -/
def onward (graph : Graph) (handlers : Handlers ω η) (subflow : Subflow ω) (depth : Int)
    (visited : List String) (current : String) : Transition (Session ω) Traversal :=
  if _seen : current ∈ visited then pure { start := current, stop := .cycle }
  else
    match _found : graph.find? current with
    | none => pure { start := current, stop := .missingNode }
    | some node => do
      match ← visit handlers subflow depth node with
      | none => pure { start := current, stop := .unresolvedHandler node.typeTag node.id }
      | some outcome =>
        match node.next? outcome.output with
        | none => pure { start := current, steps := [⟨node.id, outcome⟩], stop := .deadEnd }
        | some target => do
          let rest ← onward graph handlers subflow depth (current :: visited) target
          pure (rest.after ⟨node.id, outcome⟩)
termination_by (graph.unvisited visited).length
decreasing_by exact Graph.unvisited_lt _seen _found

/-- The walks that handlers may start at outputs of their nodes, with so many levels left. -/
def subflow (graph : Graph) (handlers : Handlers ω η) (limit : Int) :
    (levels : Nat) → (depth : Int) → Subflow ω
  | 0, _ => fun node output =>
    match node.next? output with
    | none => pure none
    | some _ => .fail (.tooDeep node.id limit)
  | levels + 1, depth => fun node output =>
    match node.next? output with
    | none => pure none
    | some start => do
      let traversal ←
        onward graph handlers (subflow graph handlers limit levels (depth + 1)) (depth + 1) [] start
      Session.enterNode node.id
      pure (some traversal)

/-- The number of levels between a depth and the limit. -/
def levelsLeft (limit depth : Int) : Nat :=
  (limit - depth).toNat

/-- The walks that handlers may start at outputs of their nodes, at a depth. -/
def subflowAt (graph : Graph) (handlers : Handlers ω η) (limit depth : Int) : Subflow ω :=
  subflow graph handlers limit (levelsLeft limit depth) depth

/-- Walk a graph from a node. -/
def run (graph : Graph) (handlers : Handlers ω η) (limit depth : Int) (start : String) :
    Transition (Session ω) Traversal :=
  onward graph handlers (subflowAt graph handlers limit depth) depth [] start

end Walk
end RequestFlow
