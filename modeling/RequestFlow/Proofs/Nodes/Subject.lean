import RequestFlow.Proofs.Nodes.Builtin
import RequestFlow.Proofs.Template.Occurrence
import RequestFlow.Proofs.Template.Reached
import RequestFlow.Proofs.Walk.Execution

/-!
# Two ways to read the request

A validation node reads the request by a dotted path from the request itself; a reference reads it
from what an entry node has recorded. Both follow the same path through the same fields, except
that only the entry node leaves the headers out, and only a reference leads on from a list to one of
its items. So they find the same values wherever a path leads through objects alone.
-/

namespace RequestFlow

/-- The values of JSON, with whole numbers of any length: the keys of objects are texts. -/
inductive Json.IsValue : Value → Prop
  | null : IsValue .null
  | bool (flag : Bool) : IsValue (.bool flag)
  | int (number : Int) : IsValue (.int number)
  | float (number : Double) : IsValue (.float number)
  | text (content : String) : IsValue (.text content)
  | list (items : List Value) : (∀ item ∈ items, IsValue item) → IsValue (.list items)
  | record (fields : List (String × Value)) :
      (∀ field ∈ fields, IsValue field.2) → IsValue (.record fields)

/-- The parts of a request are values of JSON. -/
structure Request.IsJson (request : Request) : Prop where
  /-- The body is one. -/
  body : Json.IsValue request.body
  /-- The parameters of the query are one. -/
  query : Json.IsValue (.object request.query)
  /-- The headers are one. -/
  headers : Json.IsValue (.object request.headers)
  /-- The parameters from the path are one. -/
  parameters : Json.IsValue (.object request.parameters)

/-- An object whose fields are listed by name is a value of JSON if they are. -/
theorem Request.IsJson.payload
    {request : Request}
    (json : request.IsJson) :
    Json.IsValue request.payload := by
  refine .record _ ?_
  simp only [Request.recorded, List.forall_mem_cons]
  exact ⟨.text _, .text _, json.parameters, json.query, json.body, nofun⟩

/-! ## Following a path -/

namespace Value

/-- Whatever a path leads to before its last segment is an object. -/
def PassesObjects (value : Value) (path : List (List Char)) : Prop :=
  ∀ before segment after part, path = before ++ segment :: after →
    value.follow before = .ok (some part) → ∃ fields, part = .object fields

theorem passesObjects_nil
    (value : Value) :
    value.PassesObjects [] := by
  intro before segment after part cut
  simp at cut

theorem passesObjects_cons
    {value : Value}
    {segment : List Char}
    {path : List (List Char)} :
    value.PassesObjects (segment :: path) ↔
      (∃ fields, value = .object fields) ∧
      ∀ part, value.step segment = .ok (some part) → part.PassesObjects path := by
  constructor
  · intro passes
    refine ⟨passes [] segment path value rfl rfl, ?_⟩
    rintro part stepped before next after found rfl followed
    refine passes (segment :: before) next after found rfl ?_
    rw [follow_cons, stepped]
    exact followed
  · rintro ⟨isObject, onward⟩ before next after found cut followed
    cases before with
    | nil =>
        cases followed
        exact isObject
    | cons first before =>
        obtain ⟨rfl, rfl⟩ := List.cons.inj cut
        rw [follow_cons] at followed
        cases stepped : value.step segment with
        | error fault =>
            rw [stepped] at followed
            cases followed
        | ok part =>
            rw [stepped] at followed
            cases part with
            | none => cases followed
            | some part => exact onward part stepped before next after found rfl followed

end Value

namespace Nodes

open Text

/-- Null has no fields. -/
theorem followFields_null
    (path : List (List Char)) :
    followFields .null path = .null := by
  cases path <;> rfl

/-- The fields of an object are followed from the one that is named first. -/
theorem followFields_object
    (fields : Fields)
    (name : List Char)
    (path : List (List Char)) :
    followFields (.object fields) (name :: path) =
      followFields (fields.get (String.ofList name)) path := by
  rw [followFields]
  cases fields.get (String.ofList name) with
  | null => exact (followFields_null path).symm
  | _ => rfl

/-- Following fields finds what a path leads to through objects alone, if it is not null. -/
theorem followFields_eq_iff
    {path : List (List Char)}
    (short : ∀ segment ∈ path, Value.IsShort segment)
    {value found : Value}
    (json : Json.IsValue value)
    (some_value : found ≠ .null) :
    followFields value path = found ↔
      value.follow path = .ok (some found) ∧ value.PassesObjects path := by
  induction path generalizing value with
  | nil =>
      have whole : value.follow [] = .ok (some value) := rfl
      simp [followFields, whole, Value.passesObjects_nil]
  | cons segment path inductionHypothesis =>
      obtain ⟨shortFirst, shortRest⟩ := List.forall_mem_cons.1 short
      rw [Value.passesObjects_cons, Value.follow_cons]
      cases json with
      | record fields each =>
          have eachPart : ∀ field ∈ Fields.named fields, Json.IsValue field.2 :=
            List.forall_mem_map.2 each
          rw [Value.step_record shortFirst, Value.record, followFields_object, Fields.get]
          cases found_eq : Assoc.get? (.text (String.ofList segment))
              (Fields.named fields) with
          | none =>
              rw [Option.getD_none, followFields_null]
              constructor
              · intro same
                exact absurd same.symm some_value
              · rintro ⟨followed, -⟩
                cases followed
          | some part =>
              rw [Option.getD_some,
                inductionHypothesis shortRest (Assoc.of_get? _ eachPart found_eq)]
              refine and_congr_right fun _ => ⟨?_, ?_⟩
              · intro passes
                refine ⟨⟨_, rfl⟩, ?_⟩
                rintro _ ⟨⟩
                exact passes
              · rintro ⟨-, onward⟩
                exact onward part rfl
      | _ =>
          constructor
          · intro same
            exact absurd same.symm some_value
          · rintro ⟨-, ⟨_, isObject⟩, -⟩
            cases isObject

/-! ## The two views of a request -/

/-- All parts but the headers are recorded. -/
theorem get_parts
    (request : Request)
    {name : String}
    (other : name ≠ "headers") :
    (Fields.named request.parts).get name = (Fields.named request.recorded).get name := by
  simp only [Fields.named, Request.parts, Request.recorded, List.map_cons, List.map_nil, Fields.get,
    Assoc.get?, Key.text_beq_text, beq_iff_eq, Ne.symm other, if_false]
  grind

/-- A path that does not start with the headers leads through the same fields of the request and of
what an entry node records. -/
theorem followFields_request
    (request : Request)
    {name : List Char}
    (other : name ≠ "headers".toList)
    (path : List (List Char)) :
    followFields request.toValue ("request".toList :: name :: path) =
      followFields request.payload (name :: path) := by
  have differs : String.ofList name ≠ "headers" := by
    rintro same
    exact other (by rw [← same, String.toList_ofList])
  calc followFields request.toValue ("request".toList :: name :: path)
      = followFields (.record request.parts) (name :: path) := rfl
    _ = followFields ((Fields.named request.parts).get (String.ofList name)) path :=
        followFields_object _ name path
    _ = followFields ((Fields.named request.recorded).get (String.ofList name)) path := by
        rw [get_parts request differs]
    _ = followFields request.payload (name :: path) :=
        (followFields_object (Fields.named request.recorded) name path).symm

end Nodes

namespace Template

/-- Whatever a reference leads to before the last segment of its path is an object. -/
def Reference.PassesObjects
    (reference : Reference)
    (memory : Memory) : Prop :=
  ∀ before segment after part, reference.path = before ++ segment :: after →
    lookup memory { reference with path := before } = .ok (some part) →
    ∃ fields, part = .object fields

theorem lookup_of_recorded
    {memory : Memory}
    {reference : Reference}
    {payload : Value}
    (recorded : memory.output? (String.ofList reference.node)
      (.text (String.ofList reference.key)) = some payload) :
    lookup memory reference = payload.follow reference.path := by
  rw [lookup, recorded]

theorem Reference.passesObjects_iff
    {memory : Memory}
    {reference : Reference}
    {payload : Value}
    (recorded : memory.output? (String.ofList reference.node)
      (.text (String.ofList reference.key)) = some payload) :
    reference.PassesObjects memory ↔ payload.PassesObjects reference.path := by
  have follows : ∀ before, lookup memory { reference with path := before } =
      payload.follow before := fun before => lookup_of_recorded recorded
  simp only [PassesObjects, Value.PassesObjects, follows]

end Template

namespace Walk

/-- An entry node that has been carried out has recorded the request. -/
theorem output?_of_enter
    {ω η : Type}
    {handlers : Handlers ω η}
    {handler : η}
    {subflow : Subflow ω}
    {depth : Int}
    {node : Node}
    {session after : Session ω}
    {outcome : Outcome}
    (resolves : (handlers.resolve node.typeTag session.world).1 = .ok (some handler))
    (enters : handlers.perform handler = Nodes.enter)
    (visits : visit handlers subflow depth node session = (.ok (some outcome), after)) :
    after.memory.output? node.id (.text "out") = some session.request.payload := by
  obtain ⟨found, data, ready, resolved, -, dispatched_eq, rfl⟩ := visit_eq_some_iff.1 visits
  obtain rfl : handler = found := by
    rw [resolves] at resolved
    exact Option.some.inj (Except.ok.inj resolved)
  rw [dispatch_apply, enters, Nodes.enter_apply] at dispatched_eq
  obtain ⟨settled, rfl⟩ := Prod.mk.inj dispatched_eq
  obtain rfl := Except.ok.inj settled
  have given : ({ output := some "out", payload := session.request.payload } : Outcome).payload ≠
      .null := nofun
  exact output?_kept given node.id _

end Walk

namespace Nodes

open Template Text Value

/-- The configuration of a validation node that only names a path into the request. -/
def readingRequest (path : List Char) : Fields :=
  [(.text "contextPath", .text (String.ofList ("request".toList ++ '.' :: path)))]

theorem subject_readingRequest
    (path : List Char)
    (memory : Memory)
    (request : Request) :
    subject (readingRequest path) memory request =
      followFields request.toValue ("request".toList :: splitAt '.' path) := by
  have parts : splitAt '.' ("request".toList ++ '.' :: path) =
      "request".toList :: splitAt '.' path := splitAt_append (by decide) path
  rw [← parts]
  simp [subject, readingRequest, Fields.get, Assoc.get?, nonNull?]

/-- After an entry node has been carried out, and as long as what it recorded stands, a path that
does not start with the headers reads the same from the request and from that record: a validation
node that is only given the path finds a value that is not null exactly if a reference with the path
reaches that value through objects alone. -/
theorem subject_eq_iff_lookup
    {ω η : Type}
    {handlers : Handlers ω η}
    {handler : η}
    {subflow : Subflow ω}
    {depth : Int}
    {node : Node}
    {session after : Session ω}
    {outcome : Outcome}
    {memory : Memory}
    {path : List Char}
    (json : session.request.IsJson)
    (node_ne_nil : node.id.toList ≠ [])
    (node_token : ∀ character ∈ node.id.toList, InTokenClass character)
    (resolves : (handlers.resolve node.typeTag session.world).1 = .ok (some handler))
    (enters : handlers.perform handler = enter)
    (visits : Walk.visit handlers subflow depth node session = (.ok (some outcome), after))
    (stands : memory.output? node.id (.text "out") = after.memory.output? node.id (.text "out"))
    (path_ne_nil : path ≠ [])
    (path_token : ∀ character ∈ path, InPathClass character)
    (other : (splitAt '.' path).head? ≠ some "headers".toList)
    (short : ∀ segment ∈ splitAt '.' path, IsShort segment) :
    ∃ reference,
      pieces (['\x7b', '\x7b'] ++ node.id.toList ++ '.' :: "out".toList ++ '.' :: path ++
        ['\x7d', '\x7d']) = [.reference reference] ∧
      ∀ value, value ≠ .null →
        (subject (readingRequest path) memory session.request = value ↔
          lookup memory reference = .ok (some value) ∧ reference.PassesObjects memory) := by
  let reference := Reference.ofParts node.id.toList "out".toList path
  have proper : reference.IsProper :=
    Reference.isProper_ofParts node_ne_nil node_token (by decide) (forall_inTokenClass rfl)
      path_ne_nil path_token
  have recorded : memory.output? (String.ofList reference.node)
      (.text (String.ofList reference.key)) = some session.request.payload := by
    have out : memory.output? node.id (.text "out") = some session.request.payload :=
      stands.trans (Walk.output?_of_enter resolves enters visits)
    simpa [reference, Reference.ofParts] using out
  refine ⟨reference, ?_, fun value some_value => ?_⟩
  · rw [← Reference.source_ofParts]
    exact pieces_source proper
  · rw [lookup_of_recorded recorded, Reference.passesObjects_iff recorded, subject_readingRequest]
    obtain ⟨first, rest, parts⟩ := List.exists_cons_of_ne_nil (splitAt_ne_nil '.' path)
    have path_eq : reference.path = first :: rest := parts
    rw [parts] at short other ⊢
    rw [path_eq, followFields_request session.request (by simpa using other)]
    exact followFields_eq_iff short json.payload some_value

namespace Sample

/-- A request whose body has fields named by a digit and by the empty text. -/
def numbered : Session Unit where
  request := { body := .record [("0", .record [("", .list [.bool true])])] }
  world := ()

/-- The node at which the request enters. -/
def entry : Node where
  id := "get-1"
  declaredType := some "get"

/-- The built-in nodes, with no predicates of a host program. -/
def builtinHandlers : Handlers Unit Builtin :=
  Walk.builtins (fun typeTag => pure (Builtin.ofType? typeTag)) {}

/-- The session after the node has been carried out. -/
def entered : Session Unit :=
  { numbered with
    memory := Memory.empty.record "get-1" (.text "out") numbered.request.payload
    trace := [("node_id", .text "get-1")] }

end Sample

/-- A list is found under the two names, and a reference finds it as well. -/
theorem subject_eq_iff_lookup_numbered :
    subject (readingRequest "body.0.".toList) Sample.entered.memory Sample.numbered.request =
      .list [.bool true] ∧
    ∃ reference, pieces "\x7b\x7bget-1.out.body.0.\x7d\x7d".toList = [.reference reference] ∧
      lookup Sample.entered.memory reference = .ok (some (.list [.bool true])) := by
  have inner : Json.IsValue (.record [("", .list [.bool true])]) :=
    .record _ (by simpa using .list _ (by simpa using .bool true))
  have body : Json.IsValue Sample.numbered.request.body := .record _ (by simpa using inner)
  have none_listed : Json.IsValue (.object []) := .record [] (by simp)
  have json : Sample.numbered.request.IsJson := ⟨body, none_listed, none_listed, none_listed⟩
  have parts : splitAt '.' "body.0.".toList = ["body".toList, ['0'], []] := by decide
  have short : ∀ segment ∈ splitAt '.' "body.0.".toList, IsShort segment := by
    rw [parts]
    simp [IsShort, Numeral.digitLimit]
  have other : (splitAt '.' "body.0.".toList).head? ≠ some "headers".toList := by
    decide
  have visits : Walk.visit Sample.builtinHandlers (fun _ _ => pure none) 0 Sample.entry
      Sample.numbered = (.ok (some ⟨some "out", Sample.numbered.request.payload⟩),
        Sample.entered) := rfl
  have resolves : (Sample.builtinHandlers.resolve Sample.entry.typeTag
      Sample.numbered.world).1 = .ok (some .entry) := rfl
  have node_token : ∀ character ∈ Sample.entry.id.toList, InTokenClass character :=
    forall_inTokenClass (by decide)
  have path_token : ∀ character ∈ "body.0.".toList, InPathClass character :=
    forall_inPathClass (by decide)
  have found : subject (readingRequest "body.0.".toList) Sample.entered.memory
      Sample.numbered.request = .list [.bool true] := by
    rw [subject_readingRequest, parts]
    rfl
  obtain ⟨reference, read, agree⟩ := subject_eq_iff_lookup json (by decide) node_token resolves rfl
    visits rfl (by decide) path_token other short
  have some_value : Value.list [.bool true] ≠ .null := nofun
  exact ⟨found, reference, read, ((agree _ some_value).1 found).1⟩

end Nodes
end RequestFlow
