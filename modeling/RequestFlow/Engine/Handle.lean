import RequestFlow.Engine.Run

/-!
# Responding to a request

Whatever happens while a request is run, a client gets a response: that of the flow, or one that
reports the fault. With diagnostics on, the response says more: which endpoints there are, what went
wrong in which node, or which nodes were visited.
-/

namespace RequestFlow

/-- A value with further fields, if it is an object. -/
def Value.withFields (further : List (String × Value)) : Value → Value
  | .object fields =>
    .object (Assoc.merge fields (Fields.named further))
  | value => value

namespace Engine

variable {ν η : Type}

/-- What an engine tells of a fault beyond its report. -/
def diagnostics (controllers : Assoc String Graph) (fault : Fault) : List (String × Value) :=
  match fault with
  | .endpointNotFound controller method path =>
    let endpoints := match controllers.get? controller with
      | some graph => graph.endpoints.map Endpoint.summary
      | none => []
    [("method", .text method), ("path", .text path), ("availableEndpoints", .list endpoints)]
  | fault =>
    if fault.isHandlerFault then
      [("exception", .text (fault.origin.sort ++ ": " ++ fault.origin.message)),
        ("node", .text fault.node)]
    else []

/-- The response that reports a fault. -/
def faultResponse (fault : Fault) (engine : Engine ν η) : Response where
  status := fault.status
  body :=
    if engine.settings.showsExceptions then
      fault.body.withFields (diagnostics engine.controllers fault)
    else fault.body

/-- The response to a request that was run. -/
def runResponse (run : Run) (engine : Engine ν η) : Response :=
  if run.answered.isNone && engine.settings.showsExceptions then
    { run.response with
      body := run.response.body.withFields [("visitedNodes", .texts run.traversal.path)] }
  else run.response

/-- Respond to a request. -/
def handle (host : Host ν η) (incoming : Incoming) : Transition (Engine ν η) Response := do
  let ended ← .attempt (execute host incoming)
  clearTrace
  match ended with
  | .ok run => .read (runResponse run)
  | .error fault => if fault.isReported then .read (faultResponse fault) else .fail fault

end Engine
end RequestFlow
