import RequestFlow.Engine.Handle

/-!
# How running a request ends

A request for an unknown controller, for an endpoint that is not there, or for one whose flow has no
start, ends before a walk; every other one ends as its walk does. In each case the trace and the
registry are all that may be different in the engine afterwards.
-/

namespace RequestFlow
namespace Engine

open Transition

variable {ν η α : Type}

theorem inSession_apply
    (request : Request)
    (transition : Transition (Session (Registry ν η)) α)
    (engine : Engine ν η) :
    inSession request transition engine =
      let ended := transition { request, trace := engine.trace, world := engine.registry }
      (ended.1.map (·, ended.2.memory, ended.2.response),
        { engine with trace := ended.2.trace, registry := ended.2.world }) := rfl

/-- What is made of the end of a session. -/
theorem inSession_bind_pure
    {β : Type}
    (request : Request)
    (transition : Transition (Session (Registry ν η)) α)
    (finish : α × Memory × Option Response → β)
    (engine : Engine ν η) :
    (inSession request transition >>= fun ended => pure (finish ended)) engine =
      let ended := transition { request, trace := engine.trace, world := engine.registry }
      (ended.1.map fun result => finish (result, ended.2.memory, ended.2.response),
        { engine with trace := ended.2.trace, registry := ended.2.world }) := by
  rw [bind_apply, inSession_apply]
  dsimp only
  cases (transition { request, trace := engine.trace, world := engine.registry }).1 <;> rfl

/-- What a request has led to when the walk of its flow, which saw the given request, has ended. -/
def served
    (incoming : Incoming)
    (engine : Engine ν η)
    (endpoint : Endpoint)
    (start : String)
    (seen : Request)
    (ended : Except Fault Traversal × Session (Registry ν η)) : Except Fault Run × Engine ν η :=
  (ended.1.map fun traversal =>
    { controller := incoming.controller, endpoint, start, traversal, memory := ended.2.memory,
      request := seen, answered := ended.2.response },
    { engine with trace := ended.2.trace, registry := ended.2.world })

/-- The trace of a request whose endpoint is not known yet. -/
def openingTrace (incoming : Incoming) : Trace :=
  Assoc.put "controller" (.text incoming.controller)
    (Assoc.put "request_id" (.text incoming.id) [])

/-- The trace of a request for an endpoint. -/
def endpointTrace
    (incoming : Incoming)
    (endpoint : Endpoint) : Trace :=
  Assoc.put "endpoint_id" (Endpoint.textOrNull endpoint.id) (openingTrace incoming)

/-- Running a request, by what is found of its controller, its endpoint and the start of its flow.
-/
theorem execute_eq
    (host : Host ν η)
    (incoming : Incoming)
    (engine : Engine ν η) :
    execute host incoming engine =
      match engine.controllers.get? incoming.controller with
      | none =>
        (.error (.controllerNotFound incoming.controller),
          { engine with trace := openingTrace incoming })
      | some graph =>
        match graph.matchEndpoint? incoming.method incoming.path with
        | none =>
          (.error (.endpointNotFound incoming.controller incoming.method incoming.path),
            { engine with trace := openingTrace incoming })
        | some found =>
          match graph.startNode? found.endpoint with
          | none =>
            (.error (.startNodeNotFound incoming.controller found.endpoint.toCompactValue),
              { engine with trace := endpointTrace incoming found.endpoint })
          | some start =>
            match engine.walkers.get? incoming.controller with
            | none =>
              (.error (.raised .key incoming.controller),
                { engine with trace := endpointTrace incoming found.endpoint })
            | some walker =>
              served incoming engine found.endpoint start (requestFor incoming graph found)
                (Walk.run walker.graph host.handlers walker.limit 0 start
                  { request := requestFor incoming graph found
                    trace := endpointTrace incoming found.endpoint
                    world := engine.registry }) := by
  unfold execute graphOf
  simp only [bind_apply, clearTrace, traceField, modify_apply, read_apply]
  cases engine.controllers.get? incoming.controller with
  | none => rfl
  | some graph =>
      simp only [pure_apply]
      cases graph.matchEndpoint? incoming.method incoming.path with
      | none => rfl
      | some found =>
          simp only [bind_apply, modify_apply]
          cases graph.startNode? found.endpoint with
          | none => rfl
          | some start =>
              simp only [bind_apply, read_apply]
              cases engine.walkers.get? incoming.controller with
              | none => rfl
              | some walker =>
                  exact inSession_bind_pure (requestFor incoming graph found)
                    (Walk.run walker.graph host.handlers walker.limit 0 start)
                    (fun ended => ({
                      controller := incoming.controller, endpoint := found.endpoint, start
                      traversal := ended.1, memory := ended.2.1
                      request := requestFor incoming graph found
                      answered := ended.2.2 } : Run))
                    { engine with trace := endpointTrace incoming found.endpoint }

/-- Running a request is walking a flow, once its endpoint and the start of the walk are found. -/
theorem execute_apply
    {host : Host ν η}
    {incoming : Incoming}
    {engine : Engine ν η}
    {graph : Graph}
    {found : EndpointMatch}
    {start : String}
    {walker : Walker}
    (named : engine.controllers.get? incoming.controller = some graph)
    (matched : graph.matchEndpoint? incoming.method incoming.path = some found)
    (starts : graph.startNode? found.endpoint = some start)
    (walks : engine.walkers.get? incoming.controller = some walker) :
    ∃ trace, execute host incoming engine =
      served incoming engine found.endpoint start (requestFor incoming graph found)
        (Walk.run walker.graph host.handlers walker.limit 0 start
          { request := requestFor incoming graph found, trace, world := engine.registry }) := by
  refine ⟨endpointTrace incoming found.endpoint, ?_⟩
  rw [execute_eq, named]
  simp only [matched, starts, walks]

/-- Running a request changes the trace and the registry of an engine alone. -/
theorem exists_execute_state
    (host : Host ν η)
    (incoming : Incoming)
    (engine : Engine ν η) :
    ∃ trace registry, (execute host incoming engine).2 = { engine with trace, registry } := by
  rw [execute_eq]
  split
  · exact ⟨_, _, rfl⟩
  · split
    · exact ⟨_, _, rfl⟩
    · split
      · exact ⟨_, _, rfl⟩
      · split <;> exact ⟨_, _, rfl⟩

/-- What a request gets when its run has ended: a response, unless the run has ended with a fault
that is not reported. -/
def concluded
    (ended : Except Fault Run)
    (engine : Engine ν η) : Except Fault Response :=
  match ended with
  | .ok run => .ok (runResponse run engine)
  | .error fault => if fault.isReported then .ok (faultResponse fault engine) else .error fault

theorem concluded_of_reported
    {fault : Fault}
    (reported : fault.isReported = true)
    (engine : Engine ν η) :
    concluded (.error fault) engine = .ok (faultResponse fault engine) :=
  if_pos reported

theorem concluded_of_unreported
    {fault : Fault}
    (unreported : ¬fault.isReported = true)
    (engine : Engine ν η) :
    concluded (.error fault) engine = .error fault :=
  if_neg unreported

theorem handle_apply
    (host : Host ν η)
    (incoming : Incoming)
    (engine : Engine ν η) :
    (handle host incoming engine).1 =
      concluded (execute host incoming engine).1
        { (execute host incoming engine).2 with trace := [] } := by
  unfold handle concluded
  rw [bind_apply, attempt_apply]
  simp only [clearTrace, bind_apply, modify_apply]
  cases (execute host incoming engine).1 with
  | ok run => rfl
  | error fault =>
      dsimp only
      split <;> rfl

/-- After a request has been responded to, its trace is forgotten. -/
theorem handle_state
    (host : Host ν η)
    (incoming : Incoming)
    (engine : Engine ν η) :
    (handle host incoming engine).2 = { (execute host incoming engine).2 with trace := [] } := by
  unfold handle
  simp only [bind_apply, attempt_apply, clearTrace, modify_apply]
  cases (execute host incoming engine).1 with
  | ok run => rfl
  | error fault =>
      dsimp only
      split <;> rfl

end Engine
end RequestFlow
