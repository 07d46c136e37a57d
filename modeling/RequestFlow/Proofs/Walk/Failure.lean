import RequestFlow.Proofs.Nodes.Unreported
import RequestFlow.Proofs.Registry.Builtins
import RequestFlow.Proofs.Walk.Invariant

/-!
# Walks that fail

With a registry of the built-in nodes a walk fails at a node at which it has arrived itself: the
faults of the walks inside loops stay there. The node that fails has changed nothing.
-/

namespace RequestFlow
namespace Walk

variable {ν : Type}
  {graph : Graph} {files : FileTree} {load : PackageLoader ν Builtin}
  {support : Rules.Support} {limit depth : Int}
  {start : String} {session final : Session (Registry ν Builtin)} {fault : Fault}

/-- The handlers of a registry of built-in nodes. -/
def registered
    (files : FileTree)
    (load : PackageLoader ν Builtin)
    (support : Rules.Support) : Handlers (Registry ν Builtin) Builtin :=
  builtins (Registry.resolve files load) support

/-- A built-in node is prepared once its references resolve. -/
theorem prepare_of_known
    (known : session.world.ExactlyBuiltins)
    {node : Node}
    {builtin : Builtin}
    (typed : Builtin.ofType? node.typeTag = some builtin)
    {data : Fields}
    (read : Template.resolveFields session.memory node.data = .ok data) :
    prepare (registered files load support) node session =
      (.ok (some (builtin, data)), dispatched (registered files load support) node session) := by
  have resolved : ((registered files load support).resolve node.typeTag session.world).1 =
      .ok (some builtin) := known.resolve.1.trans (congrArg Except.ok typed)
  rw [prepare_apply, resolved, read]
  rfl

/-- No move of a walk adds anything to the built-in nodes, or takes any away. -/
theorem stepInvariant_exactlyBuiltins :
    StepInvariant (Registry.resolve files load) support
      fun session : Session (Registry ν Builtin) => session.world.ExactlyBuiltins where
  dispatched _ _ holds := holds.resolve.2
  kept _ _ _ holds := by simpa using holds
  bound _ _ _ holds := holds
  returned _ _ holds := holds
  alone notLoop performed holds := by
    rw [Builtin.perform_world notLoop performed]
    exact holds

/-- A built-in handler fails as it reads, and its fault leaves it as that of the node. -/
theorem eq_leaving_of_dispatch
    {ω : Type}
    {resolve : String → Transition ω (Option Builtin)}
    {subflow : Subflow ω}
    {builtin : Builtin}
    {node : Node}
    {data : Fields}
    {ready after : Session ω}
    (failed :
      dispatch (builtins resolve support) subflow depth builtin node.typeTag
        (node.withData data) ready = (.error fault, after)) :
    after = ready ∧ ∃ cause,
      builtin.fault? support (node.withData data) ready = some cause ∧
      fault = cause.leaving node.id node.typeTag := by
  rw [dispatch_apply] at failed
  cases blamed : builtin.fault? support (node.withData data) ready with
  | none =>
      obtain ⟨outcome, final, ended⟩ : ∃ outcome final,
          (builtins resolve support).perform builtin ⟨node.withData data, depth⟩ subflow
            ready = (.ok (.outcome outcome), final) := Builtin.perform_of_none blamed subflow
      rw [ended] at failed
      cases failed
  | some cause =>
      have ended : (builtins resolve support).perform builtin
          ⟨node.withData data, depth⟩ subflow ready = (.error cause, ready) :=
        Builtin.perform_of_fault blamed subflow
      rw [ended] at failed
      cases failed
      exact ⟨rfl, cause, rfl, rfl⟩

namespace Sample

/-- A loop over two items, with the same node to walk to for each and after a fault. -/
def each : Node where
  id := "each"
  data := [(.text "type", .text "loop"), (.text "items", .list [.int 1, .int 2])]
  outputs := [("inLoop", some ⟨some "nameless", []⟩), ("error", some ⟨some "nameless", []⟩)]

/-- A variable node that names no variable. -/
def nameless : Node where
  id := "nameless"
  data := [(.text "type", .text "variable")]

def faulty : Graph where
  nodes := [each, nameless]

/-- The built-in nodes, without files, packages or predicates. -/
def plain : Handlers (Registry Unit Builtin) Builtin :=
  registered {} (fun _ _ => pure none) {}

/-- A session in which nothing has happened. -/
def untouched : Session (Registry Unit Builtin) where
  world := Registry.withBuiltins id { outside := () }

theorem resolveFields_nameless (memory : Memory) :
    Template.resolveFields memory nameless.data = .ok nameless.data := by
  cbv

/-- A walk to the node without a name fails. -/
theorem executes_nameless
    (visited : List String)
    (fresh : "nameless" ∉ visited)
    (depth : Int)
    {session : Session (Registry Unit Builtin)}
    (known : session.world.ExactlyBuiltins) :
    Executes faulty (Registry.resolve {} fun _ _ => pure none) {} 32
      (.walk visited "nameless") depth session [⟨nameless, depth⟩]
      (.error (.inHandler (.noVariableName "nameless") "nameless" "variable"))
      (dispatched plain nameless session) :=
  .failed fresh (by rfl)
    (prepare_of_known known (by rfl) (resolveFields_nameless session.memory))
    (.alone (by decide) fun subflow => Builtin.perform_of_fault (by rfl) subflow)
    (by rfl)

end Sample

namespace Sample

/-- A validation by a predicate of the host program. -/
def check : Node where
  id := "check"
  data := [(.text "type", .text "validation"), (.text "rules", .list [.object
    [(.text "type", .text "custom"), (.text "function", .text "refuse")]])]

def checked : Graph where
  nodes := [check]

end Sample

end Walk
end RequestFlow
