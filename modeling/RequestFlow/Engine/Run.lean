import RequestFlow.Engine.Basic

/-!
# Running a request

A request names a controller. The first of the controller's endpoints that serves the method and the
path is run: its flow is walked from its start node, over a memory of its own. Nothing of a request
stays with the engine but its trace, until the next request, and what looking up handlers has found.
-/

namespace RequestFlow

/-- A request as it reaches an engine, with an id for log lines. -/
structure Incoming where
  /-- The id for log lines. -/
  id : String := ""
  /-- The name of the controller that is asked. -/
  controller : String
  /-- The method. -/
  method : String
  /-- The path as it was received. -/
  path : String
  /-- The body, null without one. -/
  body : Value := .null
  /-- The parameters of the query. -/
  query : Fields := []
  /-- The headers. -/
  headers : Fields := []

/-- All that one request led to. -/
structure Run where
  /-- The controller that was asked. -/
  controller : String
  /-- The endpoint that serves the request. -/
  endpoint : Endpoint
  /-- The node at which the walk started. -/
  start : String
  /-- The record of the walk. -/
  traversal : Traversal
  /-- What was remembered in the end. -/
  memory : Memory
  /-- The request as the flow has it in the end. -/
  request : Request
  /-- The response that the flow has set, if it has set one. -/
  answered : Option Response

namespace Run

/-- What is said to a client whose flow has set no response. -/
def defaultMessage : String := "Executed successfully"

/-- The response that the flow has set, or one that says that it has run. -/
def response (run : Run) : Response :=
  run.answered.getD { status := 200, body := .record [("message", .text defaultMessage)] }

end Run

namespace Engine

variable {ν η : Type}

/-- Set a field of the trace. -/
def traceField (name : String) (value : Value) : Transition (Engine ν η) Unit :=
  .modify fun engine => { engine with trace := engine.trace.put name value }

/-- Forget the trace. -/
def clearTrace : Transition (Engine ν η) Unit :=
  .modify fun engine => { engine with trace := [] }

/-- Run a transition of a session that begins with a request and the trace and registry of the
engine. The trace and the registry are kept; the result comes with the memory and the response of
the session. -/
def inSession {α : Type} (request : Request) (transition : Transition (Session (Registry ν η)) α) :
    Transition (Engine ν η) (α × Memory × Option Response) := fun engine =>
  let (result, session) := transition
    { request, trace := engine.trace, world := engine.registry }
  (result.map (·, session.memory, session.response),
    { engine with trace := session.trace, registry := session.world })

/-- The request that a flow sees. -/
def requestFor (incoming : Incoming) (graph : Graph) (found : EndpointMatch) : Request where
  method := upperCase incoming.method
  path := incoming.path
  body := incoming.body
  query := incoming.query
  headers := incoming.headers
  parameters := found.parameters.map fun parameter => (.text parameter.1, .text parameter.2)
  env := graph.environment none

/-- Run the flow that serves a request. -/
def execute (host : Host ν η) (incoming : Incoming) : Transition (Engine ν η) Run := do
  clearTrace
  traceField "request_id" (.text incoming.id)
  traceField "controller" (.text incoming.controller)
  let graph ← graphOf incoming.controller
  match graph.matchEndpoint? incoming.method incoming.path with
  | none => .fail (.endpointNotFound incoming.controller incoming.method incoming.path)
  | some found =>
    traceField "endpoint_id" (Endpoint.textOrNull found.endpoint.id)
    match graph.startNode? found.endpoint with
    | none => .fail (.startNodeNotFound incoming.controller found.endpoint.toCompactValue)
    | some start =>
      match ← .read (·.walkers.get? incoming.controller) with
      | none => .fail (.raised .key incoming.controller)
      | some walker =>
        let request := requestFor incoming graph found
        let (traversal, memory, answered) ← inSession request
          (Walk.run walker.graph host.handlers walker.limit 0 start)
        pure { controller := incoming.controller, endpoint := found.endpoint, start, traversal,
               memory, request, answered }

end Engine
end RequestFlow
