import RequestFlow.Proofs.Engine.Ending

/-!
# What diagnostics add to a response

Whether an engine shows diagnostics has no part in how a request is run. It decides on the response
alone, and there on a few fields of the body, none of which the body has without diagnostics. So a
client that does not look at these fields cannot tell the two apart, and a client that gets no
diagnostics learns nothing of what they would have told.
-/

namespace RequestFlow

namespace Value

/-- A value without the fields of the given names, if it is an object. -/
def withoutFields (names : List String) : Value → Value
  | .object fields =>
    .object (fields.filter fun field => !(names.any fun name => field.1 == .text name))
  | value => value

theorem withFields_nil (value : Value) :
    value.withFields [] = value := by
  cases value <;> rfl

theorem withoutFields_nil (value : Value) :
    value.withoutFields [] = value := by
  cases value with
  | object fields => exact congrArg Value.object (List.filter_eq_self.2 fun _ _ => rfl)
  | _ => rfl

/-- Named fields without those of some names. -/
theorem withoutFields_record
    (names : List String)
    (fields : List (String × Value)) :
    (record fields).withoutFields names =
      record (fields.filter fun field => field.1 ∉ names) := by
  rw [record, withoutFields, Fields.named, List.filter_map, record, Fields.named]
  congr 3
  funext field
  simp [List.any_beq]

/-- Named fields are joined by further ones if all their names differ. -/
theorem withFields_record
    {fields further : List (String × Value)}
    (distinct : ((fields ++ further).map (·.1)).Nodup) :
    (record fields).withFields further = record (fields ++ further) := by
  have differ : (Fields.named fields ++ Fields.named further).Pairwise
      fun first second => (first.1 == second.1) = false := by
    rw [Fields.named, Fields.named, ← List.map_append, List.pairwise_map]
    apply (List.pairwise_map.1 distinct).imp
    intro first second different
    simpa using different
  rw [record, withFields, Assoc.merge_of_distinct differ, record, Fields.named, Fields.named,
    Fields.named, List.map_append]

/-- Taking out what further fields have added leaves the fields that were there. -/
theorem withoutFields_record_append
    {fields further : List (String × Value)}
    (distinct : ((fields ++ further).map (·.1)).Nodup) :
    (record (fields ++ further)).withoutFields (further.map (·.1)) = record fields := by
  rw [List.map_append, List.nodup_append] at distinct
  have kept : fields.filter (fun field => field.1 ∉ further.map (·.1)) = fields := by
    apply List.filter_eq_self.2
    intro field member
    have unlisted : field.1 ∉ further.map (·.1) := by
      intro listed
      exact distinct.2.2 field.1 (List.mem_map_of_mem member) field.1 listed rfl
    exact decide_eq_true unlisted
  have dropped : further.filter (fun field => field.1 ∉ further.map (·.1)) = [] := by
    apply List.filter_eq_nil_iff.2
    intro field member
    have listed : field.1 ∈ further.map (·.1) := List.mem_map_of_mem member
    simpa using listed
  rw [withoutFields_record, List.filter_append, kept, dropped, List.append_nil]

end Value

/-- The names in the body that reports a fault, or in the body of a default response. -/
def Fault.bodyNames : List String :=
  ["error", "endpoint", "controller", "message", "code"]

/-- A fault is reported in named fields. -/
theorem Fault.exists_body_eq
    (fault : Fault) :
    ∃ fields : List (String × Value),
      fault.body = .record fields ∧ (fields.map (·.1)).Sublist bodyNames := by
  unfold body
  split
  all_goals exact ⟨_, rfl, by simp [bodyNames]⟩

/-- A handler fault is reported with its wording, and with nothing else that tells it from other
handler faults. -/
theorem Fault.report_of_isHandlerFault
    {fault : Fault}
    (ofHandler : fault.isHandlerFault = true) :
    fault.isReported = true ∧ fault.status = 500 ∧
      fault.body = .record [("error", .text "Error executing flow"),
        ("message", .text fault.message), ("code", .int 5008)] := by
  cases fault with
  | handler message node typeTag => exact ⟨rfl, rfl, rfl⟩
  | inHandler cause node typeTag => exact ⟨rfl, rfl, rfl⟩
  | tooDeep node limit => exact ⟨rfl, rfl, rfl⟩
  | _ => cases ofHandler

namespace Engine

variable {ν η : Type}

/-- An engine that shows diagnostics, or one that does not. -/
def showing
    (shows : Bool)
    (engine : Engine ν η) : Engine ν η :=
  { engine with settings := { engine.settings with showsExceptions := shows } }

theorem controllers_showing
    (shows : Bool)
    (engine : Engine ν η) :
    (engine.showing shows).controllers = engine.controllers := rfl

theorem walkers_showing
    (shows : Bool)
    (engine : Engine ν η) :
    (engine.showing shows).walkers = engine.walkers := rfl

/-! ## The run and the response -/

/-- A request is run in the same way with diagnostics and without them. -/
theorem execute_showing
    (host : Host ν η)
    (incoming : Incoming)
    (shows : Bool)
    (engine : Engine ν η) :
    execute host incoming (engine.showing shows) =
      ((execute host incoming engine).1, (execute host incoming engine).2.showing shows) := by
  rw [execute_eq, execute_eq, controllers_showing, walkers_showing]
  cases engine.controllers.get? incoming.controller with
  | none => rfl
  | some graph =>
      dsimp only
      cases graph.matchEndpoint? incoming.method incoming.path with
      | none => rfl
      | some found =>
          dsimp only
          cases graph.startNode? found.endpoint with
          | none => rfl
          | some start =>
              dsimp only
              cases engine.walkers.get? incoming.controller with
              | none => rfl
              | some walker => rfl

/-- The response to a request is made from the end of the same run. -/
theorem handle_showing
    (host : Host ν η)
    (incoming : Incoming)
    (shows : Bool)
    (engine : Engine ν η) :
    (handle host incoming (engine.showing shows)).1 =
      concluded (execute host incoming engine).1
        ({ (execute host incoming engine).2 with trace := [] }.showing shows) := by
  rw [handle_apply, execute_showing]
  rfl

/-! ## What is added -/

/-- The names of all diagnostics. -/
def diagnosticNames : List String :=
  ["method", "path", "availableEndpoints", "exception", "node", "visitedNodes"]

/-- The names of the diagnostics for the way in which a request has ended. -/
def diagnosticNamesOf : Except Fault Run → List String
  | .error (.endpointNotFound _ _ _) => ["method", "path", "availableEndpoints"]
  | .error fault => if fault.isHandlerFault then ["exception", "node"] else []
  | .ok run => if run.answered.isNone then ["visitedNodes"] else []

theorem sublist_diagnosticNamesOf
    (ended : Except Fault Run) :
    (diagnosticNamesOf ended).Sublist diagnosticNames := by
  unfold diagnosticNamesOf
  split
  · decide
  · split <;> decide
  · split <;> decide

theorem map_fst_diagnostics
    (controllers : Assoc String Graph)
    (fault : Fault) :
    (diagnostics controllers fault).map (·.1) = diagnosticNamesOf (.error fault) := by
  unfold diagnostics
  split
  · rfl
  next noEndpoint =>
    have names : diagnosticNamesOf (.error fault) =
        if fault.isHandlerFault then ["exception", "node"] else [] := by
      rw [diagnosticNamesOf]
      exact noEndpoint
    rw [names]
    split <;> rfl

/-- The second response says what the first one says, and more in fields of the given names. -/
structure Adds
    (names : List String)
    (plain full : Response) : Prop where
  /-- The status is the same. -/
  status : full.status = plain.status
  /-- The headers are the same. -/
  headers : full.headers = plain.headers
  /-- The body has further fields, of these names. -/
  more : ∃ told, full.body = plain.body.withFields told ∧ told.map (·.1) = names
  /-- Without these the body is the same. -/
  rest : full.body.withoutFields names = plain.body

/-- Diagnostics are added to a body that has none of their names. -/
theorem adds_record
    {plain full : Response}
    {fields told : List (String × Value)}
    (same : full.status = plain.status ∧ full.headers = plain.headers)
    (body : plain.body = .record fields)
    (ordinary : (fields.map (·.1)).Sublist Fault.bodyNames)
    (adds : full.body = plain.body.withFields told)
    (diagnostic : (told.map (·.1)).Sublist diagnosticNames) :
    Adds (told.map (·.1)) plain full := by
  have distinct : ((fields ++ told).map (·.1)).Nodup := by
    rw [List.map_append]
    apply (ordinary.append diagnostic).nodup
    decide
  refine ⟨same.1, same.2, ⟨told, adds, rfl⟩, ?_⟩
  rw [adds, body, Value.withFields_record distinct, Value.withoutFields_record_append distinct]

theorem adds_faultResponse
    (fault : Fault)
    (engine : Engine ν η) :
    Adds (diagnosticNamesOf (.error fault)) (faultResponse fault (engine.showing false))
      (faultResponse fault (engine.showing true)) := by
  obtain ⟨fields, body, ordinary⟩ := fault.exists_body_eq
  have names := map_fst_diagnostics engine.controllers fault
  rw [← names]
  refine adds_record ?_ body ordinary ?_ ?_
  · exact ⟨rfl, rfl⟩
  · rfl
  · rw [names]
    exact sublist_diagnosticNamesOf _

/-- The response that a flow has set stays as it is. -/
theorem runResponse_of_answered
    {run : Run}
    {response : Response}
    (answered : run.answered = some response)
    (engine : Engine ν η) :
    runResponse run engine = response := by
  rw [runResponse, Run.response, answered]
  rfl

theorem runResponse_of_unanswered
    {run : Run}
    (unanswered : run.answered = none)
    (engine : Engine ν η) :
    runResponse run engine =
      { status := 200
        body := (Value.record [("message", .text Run.defaultMessage)]).withFields
          (if engine.settings.showsExceptions then
            [("visitedNodes", .texts run.traversal.path)] else []) } := by
  rw [runResponse, Run.response, unanswered]
  cases engine.settings.showsExceptions <;> rfl

theorem adds_runResponse
    (run : Run)
    (engine : Engine ν η) :
    Adds (diagnosticNamesOf (.ok run)) (runResponse run (engine.showing false))
      (runResponse run (engine.showing true)) := by
  cases answered : run.answered with
  | none =>
      rw [runResponse_of_unanswered answered, runResponse_of_unanswered answered]
      have names : diagnosticNamesOf (.ok run) =
          [("visitedNodes", Value.texts run.traversal.path)].map (·.1) := by
        rw [diagnosticNamesOf, answered]
        rfl
      have diagnostic := sublist_diagnosticNamesOf (.ok run)
      rw [names] at diagnostic ⊢
      refine adds_record ?_ rfl ?_ ?_ diagnostic
      · exact ⟨rfl, rfl⟩
      · simp [Fault.bodyNames]
      · rfl
  | some response =>
      rw [runResponse_of_answered answered, runResponse_of_answered answered]
      have names : diagnosticNamesOf (.ok run) = [] := by
        rw [diagnosticNamesOf, answered]
        rfl
      rw [names]
      exact ⟨rfl, rfl, ⟨[], (Value.withFields_nil _).symm, rfl⟩, Value.withoutFields_nil _⟩

/-! ## What is left out -/

/-- Named fields for a report have no diagnostics to lose. -/
theorem withoutFields_of_ordinary
    {fields : List (String × Value)}
    (ordinary : (fields.map (·.1)).Sublist Fault.bodyNames) :
    (Value.record fields).withoutFields diagnosticNames = .record fields := by
  rw [Value.withoutFields_record]
  apply congrArg Value.record
  apply List.filter_eq_self.2
  intro field member
  have named : field.1 ∈ Fault.bodyNames := ordinary.subset (List.mem_map_of_mem member)
  have apart : ∀ name ∈ Fault.bodyNames, name ∉ diagnosticNames := by
    decide
  exact decide_eq_true (apart field.1 named)

/-- Two ends of requests that differ at most in what diagnostics tell: in the nodes that were
visited, in the sort of what was raised and the node where it was, or in the endpoints of which none
serves the request. -/
inductive SameReport : Except Fault Run → Except Fault Run → Prop
  | run {run other : Run} :
      run.answered = other.answered →
      SameReport (.ok run) (.ok other)
  | handlerFault {fault other : Fault} :
      fault.isHandlerFault = true →
      other.isHandlerFault = true →
      fault.message = other.message →
      SameReport (.error fault) (.error other)
  | noEndpoint (controller method path otherController otherMethod otherPath : String) :
      SameReport (.error (.endpointNotFound controller method path))
        (.error (.endpointNotFound otherController otherMethod otherPath))

/-- Without diagnostics such requests get the same. -/
theorem SameReport.concluded_eq
    {first second : Except Fault Run}
    (same : SameReport first second)
    (engine other : Engine ν η) :
    concluded first (engine.showing false) = concluded second (other.showing false) := by
  cases same with
  | @run run other answered =>
      have runs : ∀ (run : Run) (engine : Engine ν η),
          runResponse run (engine.showing false) = run.response := by
        intro run engine
        rw [runResponse, showing, Bool.and_false]
        rfl
      rw [concluded, concluded, runs, runs, Run.response, Run.response, answered]
  | @handlerFault fault other ofHandler otherOfHandler worded =>
      obtain ⟨reported, status, body⟩ := Fault.report_of_isHandlerFault ofHandler
      obtain ⟨otherReported, otherStatus, otherBody⟩ :=
        Fault.report_of_isHandlerFault otherOfHandler
      rw [concluded_of_reported reported, concluded_of_reported otherReported]
      simp [faultResponse, showing, status, otherStatus, body, otherBody, worded]
  | noEndpoint => rfl

/-- A request gets the same with diagnostics and without them, up to fields of the body that it does
not have without them. It raises the same fault, or is responded to with the same status and the
same headers; the fields are those for the way in which the request has ended, and there are none if
a node of the flow has responded. Without diagnostics, requests get the same if they have ended in
ways that only diagnostics tell apart. The engine is left in the same state. -/
theorem diagnostics_add_fields
    (host : Host ν η)
    (engine : Engine ν η)
    (incoming : Incoming) :
    let ended := (execute host incoming engine).1
    let quiet := handle host incoming (engine.showing false)
    let telling := handle host incoming (engine.showing true)
    ((∃ fault, quiet.1 = .error fault ∧ telling.1 = .error fault) ∨
      ∃ plain full, quiet.1 = .ok plain ∧ telling.1 = .ok full ∧
        Adds (diagnosticNamesOf ended) plain full ∧
        (∀ run response, ended = .ok run → run.answered = some response →
          plain = response ∧ full = response) ∧
        ((∀ run, ended = .ok run → run.answered = none) →
          plain.body.withoutFields diagnosticNames = plain.body)) ∧
    (∀ (otherHost : Host ν η) (otherEngine : Engine ν η) (otherIncoming : Incoming),
      SameReport ended (execute otherHost otherIncoming otherEngine).1 →
      quiet.1 = (handle otherHost otherIncoming (otherEngine.showing false)).1) ∧
    telling.2 = quiet.2.showing true := by
  intro ended quiet telling
  have handled : ∀ shows, (handle host incoming (engine.showing shows)).1 =
      concluded ended ({ (execute host incoming engine).2 with trace := [] }.showing shows) :=
    fun shows => handle_showing host incoming shows engine
  refine ⟨?_, ?_, ?_⟩
  · -- Both are made from one end of the run, with one engine that was reached.
    rw [show quiet.1 = _ from handled false, show telling.1 = _ from handled true]
    generalize ({ (execute host incoming engine).2 with trace := [] } : Engine ν η) = reached
    cases end_eq : ended with
    | ok run =>
        refine .inr ⟨_, _, rfl, rfl, adds_runResponse run reached, ?_, ?_⟩
        · intro other response same answered
          cases same
          rw [runResponse_of_answered answered, runResponse_of_answered answered]
          exact ⟨rfl, rfl⟩
        · intro unanswered
          rw [runResponse_of_unanswered (unanswered run rfl)]
          exact withoutFields_of_ordinary (by simp [Fault.bodyNames])
    | error fault =>
        by_cases reported : fault.isReported = true
        · refine .inr ⟨_, _, concluded_of_reported reported _, concluded_of_reported reported _,
            adds_faultResponse fault reached, ?_, ?_⟩
          · intro run response ended
            cases ended
          intro _
          obtain ⟨fields, body, ordinary⟩ := fault.exists_body_eq
          change fault.body.withoutFields diagnosticNames = fault.body
          rw [body]
          exact withoutFields_of_ordinary ordinary
        · exact .inl ⟨fault, concluded_of_unreported reported _, concluded_of_unreported reported _⟩
  · intro otherHost otherEngine otherIncoming same
    rw [show quiet.1 = _ from handled false, handle_showing]
    exact same.concluded_eq _ _
  · rw [show telling.2 = _ from handle_state _ _ _, show quiet.2 = _ from handle_state _ _ _,
      execute_showing, execute_showing]
    rfl

end Engine
end RequestFlow
