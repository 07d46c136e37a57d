import RequestFlow.Http.Server
import RequestFlow.Proofs.Engine.Isolation
import RequestFlow.Proofs.Graph.Start
import RequestFlow.Proofs.Route.Target

/-!
# Parameters of requests that are served

The path of a request has been decoded when it is served, and matching it to an endpoint decodes the
parameters once more. A flow sees the values that the client put into the target only if decoding
them a second time does not change them, and if the path does not end in a blank.
-/

namespace RequestFlow

/-- The endpoint that serves a request gives the parameters that its pattern finds in the path. -/
theorem Graph.match?_of_matchEndpoint?
    {graph : Graph}
    {method path declared : String}
    {found : EndpointMatch}
    (matched : graph.matchEndpoint? method path = some found)
    (declares : found.endpoint.path = some declared) :
    Route.match? declared path = some found.parameters := by
  obtain ⟨pattern, pattern_eq, found_eq⟩ := exists_match?_of_matchEndpoint? matched
  cases pattern_eq.symm.trans declares
  exact found_eq

namespace Http

open Engine

variable {ν η : Type}

/-- Parameters as fields of a request. -/
def parameterFields (parameters : Assoc String String) : Fields :=
  parameters.map fun parameter => (.text parameter.1, .text parameter.2)

theorem parameterFields_injective : Function.Injective parameterFields := by
  apply List.map_injective_iff.2
  rintro ⟨name, content⟩ ⟨other, further⟩ same
  simpa using same

/-- A request whose path has a segment is handled by the controller of that name. -/
theorem serve_apply
    {request : Request}
    {segment : List Char}
    {bytes : List UInt8}
    (addressed : Route.firstSegment? request.path.toList = some segment)
    (read : request.body = some bytes)
    (host : Host ν η)
    (id : String) :
    serve host id request =
      handle host (request.toIncoming id (String.ofList segment) bytes) >>= fun response =>
        .ofExcept (Response.ofFlow response) := by
  rw [serve, addressed]
  dsimp only
  rw [read]

/-- What a flow sees of the parameters that a client has put into the target of a request. They are
the client's own exactly if no value changes when it is decoded, and none that ends the path ends in
a blank. -/
theorem parameters_of_served
    {engine : Engine ν η}
    {request : Request}
    {incoming : Incoming}
    {seen : RequestFlow.Request}
    {segment : List Char}
    {bytes : List UInt8}
    {graph : Graph}
    {found : EndpointMatch}
    {declared start : String}
    {walker : Walker}
    (host : Host ν η)
    (id : String)
    (value : String → String)
    (distinct : (Route.parameterNames (Route.pattern declared.toList)).Nodup)
    (slashless : ∀ name ∈ Route.parameterNames (Route.pattern declared.toList),
      '/' ∉ (value name).toList)
    (decoded : request.path.toList =
      Text.percentDecode (Route.target (Route.pattern declared.toList) value))
    (addressed : Route.firstSegment? request.path.toList = some segment)
    (read : request.body = some bytes)
    (incoming_eq : incoming = request.toIncoming id (String.ofList segment) bytes)
    (named : engine.controllers.get? incoming.controller = some graph)
    (matched : graph.matchEndpoint? incoming.method incoming.path = some found)
    (declares : found.endpoint.path = some declared)
    (starts : graph.startNode? found.endpoint = some start)
    (walks : engine.walkers.get? incoming.controller = some walker)
    (seen_eq : seen = requestFor incoming graph found) :
    serve host id request =
      (handle host incoming >>= fun response => .ofExcept (Response.ofFlow response)) ∧
    (∃ trace, execute host incoming engine =
      served incoming engine found.endpoint start seen
        (Walk.run walker.graph host.handlers walker.limit 0 start
          { request := seen, trace, world := engine.registry })) ∧
    seen.parameters = parameterFields (Route.received value (Route.pattern declared.toList)) ∧
    (seen.parameters = parameterFields (Route.given (Route.pattern declared.toList) value) ↔
      (∀ name ∈ Route.parameterNames (Route.pattern declared.toList),
        Text.percentDecode (value name).toList = (value name).toList) ∧
      ∀ name, (Route.pattern declared.toList).getLast? = some (.parameter name) →
        Text.trimEnd (value (String.ofList name)).toList =
          (value (String.ofList name)).toList) := by
  subst incoming_eq seen_eq
  have received : found.parameters = Route.received value (Route.pattern declared.toList) :=
    Route.eq_received_of_match? distinct slashless decoded
      (Graph.match?_of_matchEndpoint? matched declares)
  have parameters_eq : (requestFor (request.toIncoming id (String.ofList segment) bytes) graph
      found).parameters =
        parameterFields (Route.received value (Route.pattern declared.toList)) := by
    rw [← received]
    rfl
  refine ⟨serve_apply addressed read host id, execute_apply named matched starts walks,
    parameters_eq, ?_⟩
  rw [parameters_eq, parameterFields_injective.eq_iff]
  exact Route.received_eq_given_iff _ value

namespace Sample

/-- The endpoint of a controller, with one parameter in its path. -/
def endpoint : Endpoint where
  id := some "e"
  path := some "/a/:x"

def graph : Graph where
  controller := "a"
  endpoints := [endpoint]
  nodes := [{ id := "get-e", data := [(.text "type", .text "get")] }]

def host : Host Unit Builtin where
  files := {}
  load := fun _ _ => pure none
  perform := fun builtin => builtin.perform {}

def engine : Engine Unit Builtin :=
  install graph { registry := Registry.withBuiltins id { outside := () } }

/-- The request whose target has the given value for the parameter. -/
def request (content : String) : Request where
  method := "GET"
  path := "/a/" ++ content

def incoming (content : String) : Incoming :=
  (request content).toIncoming "" "a" []

end Sample

/-- A value with a blank inside arrives as it is. -/
theorem parameters_of_served_blank :
    (requestFor (Sample.incoming "b c") Sample.graph
      ⟨Sample.endpoint, [("x", "b c")]⟩).parameters = [(.text "x", .text "b c")] := by
  have matched : Sample.graph.matchEndpoint? "GET" "/a/b c" =
      some ⟨Sample.endpoint, [("x", "b c")]⟩ := rfl
  have declares : Sample.endpoint.path = some "/a/:x" := rfl
  have addressed : Route.firstSegment? (Sample.request "b c").path.toList = some ['a'] := rfl
  have named : Sample.engine.controllers.get? "a" = some Sample.graph := rfl
  have walks : Sample.engine.walkers.get? "a" = some ⟨Sample.graph, 32⟩ := rfl
  have starts : Sample.graph.startNode? Sample.endpoint = some "get-e" := rfl
  exact (parameters_of_served Sample.host "" (fun _ => "b c") (by decide) (by decide) (by decide)
    addressed rfl rfl named matched declares starts walks rfl).2.2.1

/-- A value that looks like an escape reaches the flow as the character that the escape stands for.
-/
theorem parameters_changed :
    Sample.endpoint.path = some "/a/:x" ∧
      Route.parameterNames (Route.pattern "/a/:x".toList) = ["x"] ∧
      (Sample.request "%41").path.toList =
        Text.percentDecode (Route.target (Route.pattern "/a/:x".toList) fun _ => "%41") ∧
      ∃ seen : RequestFlow.Request,
        (∃ trace, execute Sample.host (Sample.incoming "%41") Sample.engine =
          served (Sample.incoming "%41") Sample.engine Sample.endpoint "get-e" seen
            (Walk.run Sample.graph Sample.host.handlers 32 0 "get-e"
              { request := seen, trace, world := Sample.engine.registry })) ∧
        seen.parameters = [(.text "x", .text "A")] ∧
        seen.parameters ≠
          parameterFields (Route.given (Route.pattern "/a/:x".toList) fun _ => "%41") := by
  have named : Sample.engine.controllers.get? "a" = some Sample.graph := rfl
  have matched : Sample.graph.matchEndpoint? "GET" "/a/%41" =
      some ⟨Sample.endpoint, [("x", "A")]⟩ := rfl
  have starts : Sample.graph.startNode? Sample.endpoint = some "get-e" := rfl
  have walks : Sample.engine.walkers.get? "a" = some ⟨Sample.graph, 32⟩ := rfl
  have sent : parameterFields (Route.given (Route.pattern "/a/:x".toList) fun _ => "%41") =
      [(.text "x", .text "%41")] := rfl
  have received : (requestFor (Sample.incoming "%41") Sample.graph
      ⟨Sample.endpoint, [("x", "A")]⟩).parameters = [(.text "x", .text "A")] := rfl
  have served_eq : ∃ trace, execute Sample.host (Sample.incoming "%41") Sample.engine = _ :=
    execute_apply named matched starts walks
  refine ⟨rfl, by decide, by decide, _, served_eq, received, ?_⟩
  rw [received, sent]
  simp

end Http
end RequestFlow
