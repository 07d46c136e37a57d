import RequestFlow.Graph.Entry
import RequestFlow.Proofs.Text.Cut

/-!
# Where the flow of an endpoint starts

The flow of an endpoint starts at the node that is named after it, and without one at the first node
that may be its start. This holds of every endpoint that serves a request and whose path has a
segment. An endpoint at the root has none; it serves requests all the same, but its flow starts
nowhere, even if there is a node named after it.
-/

namespace RequestFlow

/-! ## Paths without segments -/

namespace Route

open Text

/-- Only slashes have no segment between them. -/
theorem firstSegment?_eq_none_iff
    {path : List Char} :
    firstSegment? path = none ↔ ∀ character ∈ path, character = '/' := by
  unfold firstSegment?
  rw [List.find?_eq_none]
  constructor
  · intro empty character member
    have whole : character ∈ (splitAt '/' path).flatMap ('/' :: ·) := by
      rw [flatMap_splitAt]
      exact List.mem_cons_of_mem _ member
    obtain ⟨part, isPart, inside⟩ := List.mem_flatMap.1 whole
    have nothing : part = [] := by simpa using empty part isPart
    rw [nothing] at inside
    exact List.mem_singleton.1 inside
  · intro slashes part isPart some_character
    have filled : part ≠ [] := of_decide_eq_true some_character
    obtain ⟨character, member⟩ := List.exists_mem_of_ne_nil part filled
    obtain ⟨inPath, different⟩ := mem_of_mem_splitAt isPart character member
    exact different (slashes character inPath)

end Route

/-! ## What makes a start -/

/-- A node at which the flow of an endpoint may start although it is not named after it. It has the
endpoint's method for its type. If it declares a path, this has the same first segment as the
endpoint's path; and if the endpoint has an id, the node declares the same one. -/
structure Endpoint.MayStartAt
    (endpoint : Endpoint)
    (node : Node) : Prop where
  /-- The node has the method in lower case for its type. -/
  type_eq : node.data.get "type" = .text (lowerCase endpoint.method)
  /-- If the node declares a path, its first segment is that of the endpoint's path. -/
  shares : (node.data.get "path").isTruthy = true →
    Route.firstSegment? (node.data.get "path").display.toList = endpoint.firstSegment?
  /-- If the endpoint has an id, the node declares it. -/
  declares : ∀ id, endpoint.id = some id → id ≠ "" →
    node.data.get "endpointId" ≠ .null ∧ (node.data.get "endpointId").display = id

namespace Graph

/-- A node is named after an endpoint: after its method in lower case and its id, if it has one. -/
def Names
    (graph : Graph)
    (endpoint : Endpoint)
    (start : String) : Prop :=
  ∃ id, endpoint.id = some id ∧ id ≠ "" ∧ start = lowerCase endpoint.method ++ "-" ++ id ∧
    ∃ node ∈ graph.nodes, node.id = start

/-- Where the flow of an endpoint should start: at the node that is named after it, and otherwise at
the first of the nodes that may be its start. -/
inductive StartsAt
    (graph : Graph)
    (endpoint : Endpoint) : String → Prop
  | named {start : String} :
      graph.Names endpoint start →
      StartsAt graph endpoint start
  | first {before after : List Node} {node : Node} :
      (∀ start, ¬ graph.Names endpoint start) →
      graph.nodes = before ++ node :: after →
      (∀ earlier ∈ before, ¬ endpoint.MayStartAt earlier) →
      endpoint.MayStartAt node →
      StartsAt graph endpoint node.id

end Graph

/-! ## What the search finds -/

namespace Node

theorem sharesSegment_iff
    {segment : List Char}
    {node : Node} :
    node.sharesSegment segment = true ↔
      ((node.data.get "path").isTruthy = true →
        Route.firstSegment? (node.data.get "path").display.toList = some segment) := by
  unfold sharesSegment
  generalize node.data.get "path" = declared
  cases truthy : declared.isTruthy <;> simp [truthy]

theorem declaresEndpoint_iff
    {id : Option String}
    {node : Node} :
    node.declaresEndpoint (id.bind nonEmpty?) = true ↔
      ∀ content, id = some content → content ≠ "" →
        node.data.get "endpointId" ≠ .null ∧
          (node.data.get "endpointId").display = content := by
  cases id with
  | none => simp [declaresEndpoint]
  | some content =>
      by_cases isEmpty : content = ""
      · simp [declaresEndpoint, nonEmpty?, isEmpty]
      · rw [Option.bind_some, nonEmpty?, if_neg isEmpty, declaresEndpoint]
        generalize node.data.get "endpointId" = declared
        cases declared <;> simp [Value.nonNull?, isEmpty]

/-- The test of the search is the condition on a start. -/
theorem isEntryOf_iff
    {endpoint : Endpoint}
    {segment : List Char}
    {node : Node}
    (first : endpoint.firstSegment? = some segment) :
    node.isEntryOf endpoint segment = true ↔ endpoint.MayStartAt node := by
  unfold isEntryOf
  rw [Bool.and_eq_true, Bool.and_eq_true, Value.same_text_iff, sharesSegment_iff,
    declaresEndpoint_iff, ← first]
  constructor
  · rintro ⟨⟨type_eq, shares⟩, declares⟩
    exact ⟨type_eq, shares, declares⟩
  · rintro ⟨type_eq, shares, declares⟩
    exact ⟨⟨type_eq, shares⟩, declares⟩

end Node

namespace Endpoint

/-- An endpoint serves a request of its method whose path matches the declared one. -/
theorem match?_eq_some_iff
    {endpoint : Endpoint}
    {method path : String}
    {found : EndpointMatch} :
    endpoint.match? method path = some found ↔
      upperCase endpoint.method = upperCase method ∧
      ∃ declared parameters,
        endpoint.path = some declared ∧
        Route.match? declared path = some parameters ∧
        ⟨endpoint, parameters⟩ = found := by
  unfold match?
  by_cases same : upperCase endpoint.method = upperCase method
  · simp [same, Option.bind_eq_some_iff]
  · simp [same]

end Endpoint

namespace Graph

variable {graph : Graph} {endpoint : Endpoint} {segment : List Char} {start : String}

/-- An endpoint that serves a request declares a path, and the parameters are those of its match. -/
theorem exists_match?_of_matchEndpoint?
    {method path : String}
    {found : EndpointMatch}
    (matched : graph.matchEndpoint? method path = some found) :
    ∃ declared, found.endpoint.path = some declared ∧
      Route.match? declared path = some found.parameters := by
  obtain ⟨endpoint, -, serves⟩ := List.exists_of_findSome?_eq_some matched
  obtain ⟨-, declared, parameters, declares, matches_path, rfl⟩ :=
    Endpoint.match?_eq_some_iff.1 serves
  exact ⟨declared, declares, matches_path⟩

theorem hasNode_iff
    {id : String} :
    graph.hasNode id = true ↔ ∃ node ∈ graph.nodes, node.id = id := by
  rw [hasNode, find?_eq_find?_reverse, List.find?_isSome]
  simp

/-- An id that is given, and not empty. -/
theorem bind_nonEmpty?_eq_some_iff
    {id : Option String}
    {content : String} :
    id.bind nonEmpty? = some content ↔ id = some content ∧ content ≠ "" := by
  rw [Option.bind_eq_some_iff]
  constructor
  · rintro ⟨given, rfl, kept⟩
    unfold nonEmpty? at kept
    split at kept
    · cases kept
    · next filled =>
        cases kept
        exact ⟨rfl, filled⟩
  · rintro ⟨rfl, filled⟩
    exact ⟨content, rfl, if_neg filled⟩

theorem namedEntry?_eq_some_iff :
    graph.namedEntry? endpoint = some start ↔ graph.Names endpoint start := by
  unfold namedEntry?
  rw [Option.bind_eq_bind, Option.bind_eq_some_iff]
  constructor
  · rintro ⟨id, given, chosen⟩
    obtain ⟨id_eq, filled⟩ := bind_nonEmpty?_eq_some_iff.1 given
    obtain ⟨there, same⟩ := Option.ite_none_right_eq_some.1 chosen
    cases same
    exact ⟨id, id_eq, filled, rfl, hasNode_iff.1 there⟩
  · rintro ⟨id, id_eq, filled, rfl, there⟩
    exact ⟨id, bind_nonEmpty?_eq_some_iff.2 ⟨id_eq, filled⟩, if_pos (hasNode_iff.2 there)⟩

theorem namedEntry?_eq_none_iff :
    graph.namedEntry? endpoint = none ↔ ∀ start, ¬ graph.Names endpoint start := by
  simp only [← namedEntry?_eq_some_iff, Option.eq_none_iff_forall_ne_some, ne_eq]

/-- An endpoint whose path has no segment has no start. -/
theorem startNode?_of_no_segment
    (bare : endpoint.firstSegment? = none) :
    graph.startNode? endpoint = none := by
  rw [startNode?, bare]
  rfl

/-- A node that is named after the endpoint is its start. -/
theorem startNode?_of_names
    (first : endpoint.firstSegment? = some segment)
    (named : graph.Names endpoint start) :
    graph.startNode? endpoint = some start := by
  rw [startNode?, first, Option.bind_eq_bind, Option.bind_some, namedEntry?_eq_some_iff.2 named]

/-- Without such a node the nodes are searched in order. -/
theorem startNode?_of_not_names
    (first : endpoint.firstSegment? = some segment)
    (unnamed : ∀ start, ¬ graph.Names endpoint start) :
    graph.startNode? endpoint =
      (graph.nodes.find? (·.isEntryOf endpoint segment)).map (·.id) := by
  rw [startNode?, first, Option.bind_eq_bind, Option.bind_some, namedEntry?_eq_none_iff.2 unnamed]

/-- What is found is the start of the endpoint's flow. -/
theorem startNode?_eq_some_iff
    (first : endpoint.firstSegment? = some segment) :
    graph.startNode? endpoint = some start ↔ graph.StartsAt endpoint start := by
  constructor
  · intro found
    by_cases named : ∃ named, graph.Names endpoint named
    · obtain ⟨name, names⟩ := named
      rw [startNode?_of_names first names] at found
      cases found
      exact .named names
    · have unnamed := not_exists.1 named
      rw [startNode?_of_not_names first unnamed] at found
      obtain ⟨node, node_found, rfl⟩ := Option.map_eq_some_iff.1 found
      obtain ⟨isEntry, before, after, nodes_eq, earlier⟩ :=
        List.find?_eq_some_iff_append.1 node_found
      refine .first unnamed nodes_eq ?_ ((Node.isEntryOf_iff first).1 isEntry)
      intro other member starts
      have passed := earlier other member
      rw [(Node.isEntryOf_iff first).2 starts] at passed
      cases passed
  · intro starts
    cases starts with
    | named names => exact startNode?_of_names first names
    | first unnamed nodes_eq earlier starts =>
        rw [startNode?_of_not_names first unnamed, Option.map_eq_some_iff]
        refine ⟨_, List.find?_eq_some_iff_append.2
          ⟨(Node.isEntryOf_iff first).2 starts, _, _, nodes_eq, ?_⟩, rfl⟩
        intro other member
        rw [Bool.not_eq_true', ← Bool.not_eq_true, Node.isEntryOf_iff first]
        exact earlier other member

/-- Nothing is found only if there is nothing to find. -/
theorem startNode?_eq_none_iff
    (first : endpoint.firstSegment? = some segment) :
    graph.startNode? endpoint = none ↔
      (∀ start, ¬ graph.Names endpoint start) ∧
        ∀ node ∈ graph.nodes, ¬ endpoint.MayStartAt node := by
  by_cases named : ∃ named, graph.Names endpoint named
  · obtain ⟨name, names⟩ := named
    rw [startNode?_of_names first names]
    simp only [reduceCtorEq, false_iff, not_and]
    intro unnamed
    exact absurd names (unnamed name)
  · have unnamed := not_exists.1 named
    rw [startNode?_of_not_names first unnamed, Option.map_eq_none_iff, List.find?_eq_none]
    simp only [Node.isEntryOf_iff first]
    exact ⟨fun absent => ⟨unnamed, absent⟩, fun absent => absent.2⟩

/-- The flow of an endpoint that serves a request starts where it should, if its path has a segment;
and it starts nowhere if its path is nothing but slashes. -/
theorem startNode?_of_matched
    {method path : String}
    {found : EndpointMatch}
    (matched : graph.matchEndpoint? method path = some found) :
    ∃ declared, found.endpoint.path = some declared ∧
      ((∃ character ∈ declared.toList, character ≠ '/') →
        (∀ start, graph.startNode? found.endpoint = some start ↔
          graph.StartsAt found.endpoint start) ∧
        (graph.startNode? found.endpoint = none ↔
          (∀ start, ¬ graph.Names found.endpoint start) ∧
            ∀ node ∈ graph.nodes, ¬ found.endpoint.MayStartAt node)) ∧
      ((∀ character ∈ declared.toList, character = '/') →
        graph.startNode? found.endpoint = none) := by
  obtain ⟨declared, declares, -⟩ := exists_match?_of_matchEndpoint? matched
  have segment_eq : found.endpoint.firstSegment? = Route.firstSegment? declared.toList := by
    rw [Endpoint.firstSegment?, declares, Option.bind_some]
  refine ⟨declared, declares, ?_, ?_⟩
  · rintro ⟨character, member, different⟩
    cases first : found.endpoint.firstSegment? with
    | none =>
        rw [segment_eq] at first
        exact absurd (Route.firstSegment?_eq_none_iff.1 first character member) different
    | some segment =>
        exact ⟨fun _ => startNode?_eq_some_iff first, startNode?_eq_none_iff first⟩
  · intro slashes
    apply startNode?_of_no_segment
    rw [segment_eq]
    exact Route.firstSegment?_eq_none_iff.2 slashes

namespace Sample

/-- The endpoint of a user. -/
def user : Endpoint where
  id := some "7"
  path := some "/users/:id"

/-- A node that declares the endpoint's id, and another path. -/
def orders : Node where
  id := "orders"
  data := [(.text "type", .text "get"), (.text "path", .text "/orders"),
    (.text "endpointId", .int 7)]

/-- A node that declares the endpoint's id as a number, and a path with the same first segment. -/
def listing : Node where
  id := "listing"
  data := [(.text "type", .text "get"), (.text "path", .text "users/list"),
    (.text "endpointId", .int 7)]

def users : Graph where
  endpoints := [user]
  nodes := [orders, listing]

/-- The endpoint at the root. -/
def root : Endpoint where
  id := some "e"
  path := some "/"

/-- A graph with a node that is named after the endpoint at the root. -/
def home : Graph where
  endpoints := [root]
  nodes := [{ id := "get-e", data := [(.text "type", .text "get")] }]

end Sample

/-- The endpoint's flow starts at the node that declares its id and no other path. -/
theorem startNode?_of_matched_users :
    Sample.users.matchEndpoint? "get" "/users/42" = some ⟨Sample.user, [("id", "42")]⟩ ∧
    Sample.users.startNode? Sample.user = some "listing" := by
  have matched : Sample.users.matchEndpoint? "get" "/users/42" =
      some ⟨Sample.user, [("id", "42")]⟩ := rfl
  obtain ⟨declared, declares, found, -⟩ := startNode?_of_matched matched
  have path_eq : "/users/:id" = declared := Option.some.inj declares
  have segment : Sample.user.firstSegment? = some ['u', 's', 'e', 'r', 's'] := rfl
  have starts : Sample.users.StartsAt Sample.user Sample.listing.id := by
    refine .first (namedEntry?_eq_none_iff.1 rfl) (List.singleton_append.symm) ?_
      ((Node.isEntryOf_iff segment).1 rfl)
    intro earlier member
    rw [List.mem_singleton.1 member, ← Node.isEntryOf_iff segment]
    decide
  refine ⟨matched, ((found ?_).1 "listing").2 starts⟩
  exact ⟨'u', by rw [← path_eq]; decide, by decide⟩

/-- The endpoint at the root serves requests and there is a node named after it, but its flow starts
nowhere. -/
theorem root_starts_nowhere :
    Sample.home.matchEndpoint? "GET" "/" = some ⟨Sample.root, []⟩ ∧
    Sample.home.Names Sample.root "get-e" ∧
    Sample.home.StartsAt Sample.root "get-e" ∧
    Sample.home.startNode? Sample.root = none := by
  have matched : Sample.home.matchEndpoint? "GET" "/" = some ⟨Sample.root, []⟩ := rfl
  have named : Sample.home.Names Sample.root "get-e" := namedEntry?_eq_some_iff.1 rfl
  exact ⟨matched, named, .named named, rfl⟩

end Graph
end RequestFlow
