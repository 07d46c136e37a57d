import RequestFlow.Proofs.Graph.Start
import RequestFlow.Proofs.Route.Segments

/-!
# Slashes at the end of a path

Slashes at the end of a path make no difference to its segments, and so to the endpoint that serves
it, unless a blank stands in front of them: blanks are cut off the end of a path, but not what a
slash follows.
-/

namespace RequestFlow

/-! ## Segments of a path with slashes at its end -/

namespace Route

open Text

/-- A path with slashes at its end. -/
def slashed (path : String) (count : Nat) : String :=
  path ++ String.ofList (List.replicate count '/')

/-- A path has no blank at its end, or consists of blanks alone. -/
def EndsUnblank (path : String) : Prop :=
  trim path.toList = trimStart path.toList

variable {text blanks : List Char} {path declared : String} {count : Nat}

@[simp] theorem toList_slashed
    (path : String)
    (count : Nat) :
    (slashed path count).toList = path.toList ++ List.replicate count '/' := by
  simp [slashed]

theorem inside_append_slashes
    (text : List Char)
    (count : Nat) :
    inside (text ++ List.replicate count '/') = inside text := by
  rw [← inside_dropEndWhile, dropEndWhile_append_of_forall, inside_dropEndWhile]
  intro character member
  exact beq_iff_eq.2 (List.eq_of_mem_replicate member)

/-- Slashes keep blanks in front of them from being cut off. -/
theorem trim_append_slashes
    (some_slash : count ≠ 0)
    (text : List Char) :
    trim (text ++ List.replicate count '/') = trimStart text ++ List.replicate count '/' := by
  obtain ⟨fewer, rfl⟩ := Nat.exists_eq_succ_of_ne_zero some_slash
  have front : trimStart (text ++ List.replicate (fewer + 1) '/') =
      trimStart text ++ List.replicate (fewer + 1) '/' :=
    dropWhile_append_cons (by decide) text (List.replicate fewer '/')
  unfold trim
  rw [front, List.replicate_succ', ← List.append_assoc]
  exact List.rdropWhile_concat_neg _ _ '/' (by decide)

/-- Blanks at the end of a text stay at the end of what stands between its outer slashes. -/
theorem inside_append_blanks
    (some_blank : blanks ≠ [])
    (blank : ∀ character ∈ blanks, isBlank character = true)
    (text : List Char) :
    inside (text ++ blanks) = text.dropWhile (· == '/') ++ blanks := by
  have different : ∀ character ∈ blanks, (character == '/') = false := by
    intro character member
    apply beq_eq_false_iff_ne.2
    rintro rfl
    exact absurd (blank '/' member) (by decide)
  have front : (text ++ blanks).dropWhile (· == '/') = text.dropWhile (· == '/') ++ blanks := by
    obtain ⟨first, rest, rfl⟩ := List.exists_cons_of_ne_nil some_blank
    apply dropWhile_append_cons
    exact different first List.mem_cons_self
  unfold inside
  rw [front, dropEndWhile_eq_rdropWhile, List.rdropWhile_eq_self_iff]
  intro some_character
  rw [List.getLast_append_of_ne_nil some_character some_blank,
    different _ (List.getLast_mem some_blank)]
  exact Bool.false_ne_true

theorem inside_trimEnd_eq_iff (text : List Char) :
    inside (trimEnd text) = inside text ↔ trimEnd text = text := by
  constructor
  · intro same
    have whole : trimEnd text ++ text.rtakeWhile isBlank = text :=
      List.rdropWhile_append_rtakeWhile
    by_cases no_blank : text.rtakeWhile isBlank = []
    · rwa [no_blank, List.append_nil] at whole
    · have kept := inside_append_blanks no_blank (fun _ => List.mem_rtakeWhile_imp) (trimEnd text)
      rw [whole, ← same, inside] at kept
      have lengths := congrArg List.length kept
      have shorter := (dropEndWhile_sublist (· == '/')
        ((trimEnd text).dropWhile (· == '/'))).length_le
      rw [List.length_append] at lengths
      have positive := List.length_pos_iff.2 no_blank
      omega
  · intro same
    rw [same]

/-- Slashes at the end of a path make no difference to its segments exactly if no blank stands in
front of them that would be cut off without them. -/
theorem segments_slashed_iff
    (path : String)
    (count : Nat) :
    segments (slashed path count).toList = segments path.toList ↔
      count = 0 ∨ EndsUnblank path := by
  rw [toList_slashed, segments_eq_splitAt, segments_eq_splitAt, (splitAt_injective '/').eq_iff]
  by_cases no_slash : count = 0
  · simp [no_slash]
  · rw [trim_append_slashes no_slash, inside_append_slashes, eq_comm]
    simp only [no_slash, false_or]
    exact inside_trimEnd_eq_iff (trimStart path.toList)

/-- A pattern matches a path with slashes at its end as it matches the path. -/
theorem match?_slashed
    (ends : count = 0 ∨ EndsUnblank path)
    (declared : String) :
    match? declared (slashed path count) = match? declared path := by
  rw [match?, (segments_slashed_iff path count).2 ends]
  rfl

/-- A pattern with slashes at its end matches what the pattern matches. -/
theorem match?_slashed_declared
    (ends : count = 0 ∨ EndsUnblank declared)
    (path : String) :
    match? (slashed declared count) path = match? declared path := by
  rw [match?, pattern, (segments_slashed_iff declared count).2 ends]
  rfl

end Route

/-! ## Endpoints with slashes at the end of their paths -/

namespace Endpoint

/-- An endpoint with slashes at the end of its path. -/
def slashed (count : Nat) (endpoint : Endpoint) : Endpoint :=
  { endpoint with path := endpoint.path.map fun declared => Route.slashed declared count }

/-- The parameters of a request, if an endpoint serves it. -/
def parameters? (method path : String) (endpoint : Endpoint) : Option (Assoc String String) :=
  (endpoint.match? method path).map (·.parameters)

/-- Slashes at the end of its path do not change what an endpoint serves. -/
theorem parameters?_slashed
    {endpoint : Endpoint}
    {count : Nat}
    (ends : ∀ declared, endpoint.path = some declared → count = 0 ∨ Route.EndsUnblank declared)
    (method path : String) :
    (endpoint.slashed count).parameters? method path = endpoint.parameters? method path := by
  have method_eq : (endpoint.slashed count).method = endpoint.method := rfl
  unfold parameters? match?
  rw [method_eq]
  split
  · cases declares : endpoint.path with
    | none => simp [slashed, declares]
    | some declared =>
        have same := Route.match?_slashed_declared (ends declared declares) path
        simp only [slashed, declares, Option.map_some, Option.bind_eq_bind, Option.bind_some, same]
        cases Route.match? declared path <;> rfl
  · rfl

end Endpoint

namespace Graph

/-- A graph with slashes at the ends of its endpoints' paths, as many as are given for each. -/
def slashed (counts : Nat → Nat) (graph : Graph) : Graph :=
  { graph with
    endpoints := graph.endpoints.mapIdx fun index endpoint => endpoint.slashed (counts index) }

/-- What each endpoint makes of a request: the parameters, if it serves it. -/
def offers (method path : String) (graph : Graph) : List (Option (Assoc String String)) :=
  graph.endpoints.map (·.parameters? method path)

/-- A graph chooses an endpoint for a request: it serves the request, with the parameters, and none
of the endpoints before it does. -/
structure Chooses
    (graph : Graph)
    (method path : String)
    (index : Nat)
    (parameters : Assoc String String) : Prop where
  /-- The endpoint serves the request with these parameters. -/
  serves : (graph.offers method path)[index]? = some (some parameters)
  /-- No endpoint before it serves the request. -/
  passes : ∀ earlier < index, (graph.offers method path)[earlier]? = some none

variable {graph : Graph} {method path : String}

/-- The match for a request is that of the endpoint which is chosen. -/
theorem matchEndpoint?_eq_some_iff
    {found : EndpointMatch} :
    graph.matchEndpoint? method path = some found ↔
      ∃ index, graph.endpoints[index]? = some found.endpoint ∧
        graph.Chooses method path index found.parameters := by
  unfold matchEndpoint?
  rw [List.findSome?_eq_some_iff]
  constructor
  · rintro ⟨before, endpoint, after, endpoints_eq, serves, passed⟩
    obtain ⟨-, declared, parameters, -, -, rfl⟩ := Endpoint.match?_eq_some_iff.1 serves
    refine ⟨before.length, by simp [endpoints_eq], ?_, ?_⟩
    · simp [offers, endpoints_eq, Endpoint.parameters?, serves]
    · intro earlier less
      rw [offers, List.getElem?_map, endpoints_eq, List.getElem?_append_left less,
        List.getElem?_eq_getElem less, Option.map_some, Endpoint.parameters?,
        passed _ (List.getElem_mem less), Option.map_none]
  · rintro ⟨index, place, serves, passes⟩
    rw [offers, List.getElem?_map, place, Option.map_some, Option.some_inj, Endpoint.parameters?,
      Option.map_eq_some_iff] at serves
    obtain ⟨same, serves, parameters_eq⟩ := serves
    obtain ⟨-, declared, parameters, -, -, rfl⟩ := Endpoint.match?_eq_some_iff.1 serves
    obtain ⟨bound, endpoint_eq⟩ := List.getElem?_eq_some_iff.1 place
    refine ⟨graph.endpoints.take index, found.endpoint, graph.endpoints.drop (index + 1), ?_, ?_,
      ?_⟩
    · rw [← endpoint_eq, ← List.drop_eq_getElem_cons bound, List.take_append_drop]
    · obtain rfl : parameters = found.parameters := parameters_eq
      exact serves
    · intro earlier member
      obtain ⟨position, less, rfl⟩ := List.mem_take_iff_getElem.1 member
      have passed := passes position (Nat.lt_of_lt_of_le less (Nat.min_le_left _ _))
      rw [offers, List.getElem?_map, List.getElem?_eq_getElem, Option.map_some, Option.some_inj,
        Endpoint.parameters?, Option.map_eq_none_iff] at passed
      exact passed

/-- Slashes at the ends of the endpoints' paths do not change what the endpoints serve. -/
theorem offers_slashed
    {counts : Nat → Nat}
    (ends : ∀ index endpoint declared, graph.endpoints[index]? = some endpoint →
      endpoint.path = some declared → counts index = 0 ∨ Route.EndsUnblank declared)
    (method path : String) :
    (graph.slashed counts).offers method path = graph.offers method path := by
  unfold offers slashed
  apply List.ext_getElem?
  intro index
  rw [List.getElem?_map, List.getElem?_mapIdx, List.getElem?_map]
  cases there : graph.endpoints[index]? with
  | none => simp only [Option.map_none]
  | some endpoint =>
      have same := Endpoint.parameters?_slashed
        (fun declared => ends index endpoint declared there) method path
      simp only [Option.map_some, same]

/-- Slashes at the end of a request's path make no difference to the endpoint that is chosen and to
its parameters, unless a blank stands in front of them; and slashes at the ends of the endpoints'
paths make none under the same condition. -/
theorem matchEndpoint?_slashed
    (graph : Graph)
    (method path : String) :
    (∀ count, Route.segments (Route.slashed path count).toList = Route.segments path.toList ↔
      count = 0 ∨ Route.EndsUnblank path) ∧
    (∀ count, count = 0 ∨ Route.EndsUnblank path →
      graph.matchEndpoint? method (Route.slashed path count) =
        graph.matchEndpoint? method path) ∧
    (∀ counts : Nat → Nat,
      (∀ index endpoint declared, graph.endpoints[index]? = some endpoint →
        endpoint.path = some declared → counts index = 0 ∨ Route.EndsUnblank declared) →
      ∀ index parameters,
        (graph.slashed counts).Chooses method path index parameters ↔
          graph.Chooses method path index parameters) ∧
    ∀ (served : Graph) (found : EndpointMatch), served.matchEndpoint? method path = some found ↔
      ∃ index, served.endpoints[index]? = some found.endpoint ∧
        served.Chooses method path index found.parameters := by
  refine ⟨Route.segments_slashed_iff path, ?_, ?_, fun _ _ => matchEndpoint?_eq_some_iff⟩
  · intro count ends
    unfold matchEndpoint? Endpoint.match?
    simp only [Route.match?_slashed ends]
  · intro counts ends index parameters
    have same := offers_slashed ends method path
    constructor
    · rintro ⟨serves, passes⟩
      rw [same] at serves passes
      exact ⟨serves, passes⟩
    · rintro ⟨serves, passes⟩
      rw [← same] at serves passes
      exact ⟨serves, passes⟩

namespace Sample

/-- Endpoints with and without a parameter. -/
def letters : Graph where
  endpoints := [{ id := some "e", path := some "/a" }, { id := some "f", path := some "a/:x/" }]

end Sample

/-- Two slashes at the end of a request's path, and one or two at those of the endpoints. -/
theorem matchEndpoint?_slashed_letters :
    Sample.letters.matchEndpoint? "GET" "/a/b//" =
      some ⟨{ id := some "f", path := some "a/:x/" }, [("x", "b")]⟩ ∧
    (Sample.letters.slashed Nat.succ).Chooses "GET" "/a/b" 1 [("x", "b")] ∧
    (Sample.letters.slashed Nat.succ).endpoints.map (·.path) = [some "/a/", some "a/:x///"] := by
  obtain ⟨-, slashed, choice, -⟩ := matchEndpoint?_slashed Sample.letters "GET" "/a/b"
  have chosen : Sample.letters.Chooses "GET" "/a/b" 1 [("x", "b")] := by
    refine ⟨rfl, ?_⟩
    intro earlier less
    obtain rfl := Nat.lt_one_iff.1 less
    rfl
  refine ⟨slashed 2 (.inr rfl), (choice Nat.succ ?_ 1 _).2 chosen, rfl⟩
  intro index endpoint declared there declares
  right
  rcases index with _ | _ | index
  · cases there
    cases declares
    rfl
  · cases there
    cases declares
    rfl
  · cases there

/-- A blank at the end of a path is cut off, but not if a slash follows it. -/
theorem blank_before_slash :
    Route.slashed "/a " 1 = "/a /" ∧
    (Sample.letters.matchEndpoint? "GET" "/a ").map (·.endpoint.id) = some (some "e") ∧
    Sample.letters.matchEndpoint? "GET" (Route.slashed "/a " 1) = none := by
  decide

end Graph
end RequestFlow
