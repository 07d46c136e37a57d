import RequestFlow.Proofs.Engine.Isolation
import RequestFlow.Proofs.Walk.Failure
import RequestFlow.Proofs.Walk.Raises

/-!
# Whether a request gets a response

A request gets the response of its run, or one that reports the fault of its run, unless the fault
is not reported. With the built-in nodes and data from JSON there is one such fault: a reference in
the configuration of a node has a number of too many digits in its path.
-/

namespace RequestFlow

open Transition

/-- The answers of the predicates are JSON. -/
def Rules.Support.AnswerJson (support : Rules.Support) : Prop :=
  ∀ name predicate, support.predicate? name = some predicate →
    ∀ value rule request answer, predicate value rule request = .ok answer → Json.IsJson answer

theorem Rules.Support.AnswerJson.answerWritable
    {support : Rules.Support}
    (answerJson : support.AnswerJson) :
    support.AnswerWritable :=
  fun name predicate named value rule request answer answers =>
    (answerJson name predicate named value rule request answer answers).writable

/-- A graph that is read from a document, which is read from a text. -/
def Graph.FromJson (graph : Graph) : Prop :=
  ∃ document controller, Json.IsJson document ∧ ofDocument document controller = .ok graph

theorem Graph.FromJson.writable
    {graph : Graph}
    (fromJson : graph.FromJson) :
    graph.Writable := by
  obtain ⟨document, controller, json, reads⟩ := fromJson
  exact writable_of_ofDocument json.writable reads

/-- The body, the query and the headers of a request are JSON. -/
structure Incoming.FromJson (incoming : Incoming) : Prop where
  /-- The body is JSON. -/
  body : Json.IsJson incoming.body
  /-- The query is JSON. -/
  query : Json.IsJson (.object incoming.query)
  /-- The headers are JSON. -/
  headers : Json.IsJson (.object incoming.headers)

variable {ν η : Type}

/-- Without a manifest the built-in nodes are all that answers. -/
theorem Source.answer_of_manifest_eq_none
    {α : Type}
    {source : Source ν η α}
    (nowhere : source.manifest = none)
    (typeTag : String) :
    source.answer typeTag = .ok ((Builtin.ofType? typeTag).map source.builtin) := by
  unfold answer discovered
  rw [nowhere]
  cases Builtin.ofType? typeTag <;> rfl

/-- Built-in nodes keep that data can be written, and without a manifest they are all there is. -/
theorem Host.keep_handlers
    {host : Host ν η}
    {support : Rules.Support}
    (answerWritable : support.AnswerWritable)
    (outside : ν) :
    host.handlers.Keep (Registry.Follows (host.source support none outside)) := by
  intro typeTag registry follows
  obtain ⟨answers, kept⟩ := follows.resolve (host.dependable_none support outside).steady typeTag
  rw [Source.answer_of_manifest_eq_none rfl] at answers
  obtain ⟨found, resolved, seen⟩ := exists_of_map_eq_ok answers
  refine ⟨?_, kept⟩
  have looked : (host.handlers.resolve typeTag registry).1 = .ok found := resolved
  rw [looked]
  refine .ok fun handler same call subflow data walks => ?_
  rw [same, Option.map_some] at seen
  obtain ⟨builtin, -, shown⟩ := Option.map_eq_some_iff.1 seen.symm
  have performs : host.handlers.perform handler = builtin.perform support := shown.symm
  rw [performs]
  exact builtin.ensures_perform answerWritable data (walks call.node)

namespace Engine

/-- The request that a flow sees can be written, if the incoming one is JSON. -/
theorem writable_requestFor
    {incoming : Incoming}
    (json : incoming.FromJson)
    {graph : Graph}
    (writable : graph.Writable)
    (found : EndpointMatch) :
    (requestFor incoming graph found).Writable where
  body := json.body.writable
  query := json.query.writable
  headers := json.headers.writable
  parameters := Json.writable_object_iff.2 (List.forall_mem_map.2 fun _ _ =>
    ⟨Json.isName_text _, Json.writable_text _⟩)
  env := writable.environment none

/-- An engine has the setup of another, and a registry with handlers from a source. -/
structure Ready
    (source : Source ν η (Nodes.Action (Registry ν η)))
    (base engine : Engine ν η) : Prop where
  /-- The engine has the setup. -/
  setup : engine.SameSetup base
  /-- Its registry finds what the source answers. -/
  registry : engine.registry.Follows source

section Execute

variable {α : Type} {source : Source ν η (Nodes.Action (Registry ν η))} {base : Engine ν η}
  {gives : α → Prop} {raises : Fault → Prop}

theorem ensures_clearTrace :
    Ensures (Ready source base) (fun _ => True) raises clearTrace :=
  ensures_modify fun _ ready => ⟨ready.setup.with_run _ _, ready.registry⟩

theorem ensures_traceField
    (name : String)
    (value : Value) :
    Ensures (Ready source base) (fun _ => True) raises (traceField name value) :=
  ensures_modify fun _ ready => ⟨ready.setup.with_run _ _, ready.registry⟩

/-- Looking up a controller finds its graph in the setup, or fails with a fault that is reported. -/
theorem ensures_graphOf (controller : String) :
    Ensures (Ready source base) (fun graph => base.controllers.get? controller = some graph)
      (fun fault => fault.isReported = true) (graphOf controller) := by
  have found : ∀ engine : Engine ν η, Ready source base engine →
      engine.controllers.get? controller = base.controllers.get? controller :=
    fun _ ready => ready.setup.controllers controller
  refine (ensures_read_eq found).bind fun graph same => ?_
  cases graph with
  | none => exact ensures_fail rfl
  | some graph => exact ensures_pure same.symm

/-- What a transition ensures of sessions, it ensures of the session of a request that can be
written. -/
theorem ensures_inSession
    {request : Request}
    (writable : request.Writable)
    {transition : Transition (Session (Registry ν η)) α}
    (ensures : Ensures (Session.Sound (Registry.Follows source)) gives raises transition) :
    Ensures (Ready source base) (fun ended => gives ended.1) raises
      (inSession request transition) := by
  intro engine ready
  obtain ⟨yields, sound⟩ := ensures { request, trace := engine.trace, world := engine.registry }
    ⟨Memory.writable_empty, writable, ready.registry⟩
  rw [inSession_apply]
  exact ⟨yields.map fun _ given => given, ready.setup.with_run _ _, sound.world⟩

end Execute

/-- A number of too many digits stands in a configuration of the graph of a controller. -/
def OverlongIn
    (engine : Engine ν η)
    (controller : String)
    (count : Nat) : Prop :=
  ∃ graph, engine.controllers.get? controller = some graph ∧ graph.OverlongIn count

/-- Running a request fails for what is reported, or for a number of too many digits in the graph of
its controller. -/
theorem ensures_execute
    {host : Host ν η}
    {source : Source ν η (Nodes.Action (Registry ν η))}
    (keep : host.handlers.Keep (Registry.Follows source))
    {base : Engine ν η}
    (writable : ∀ name graph, base.controllers.get? name = some graph → graph.Writable)
    {limit : Int}
    (paired : ∀ name, base.walkers.get? name =
      (base.controllers.get? name).map fun graph => ⟨graph, limit⟩)
    {incoming : Incoming}
    (json : incoming.FromJson) :
    Ensures (Ready source base) (fun _ => True)
      (Fault.Expected (base.OverlongIn incoming.controller)) (execute host incoming) := by
  refine ensures_clearTrace.bind fun _ _ => ?_
  refine (ensures_traceField _ _).bind fun _ _ => (ensures_traceField _ _).bind fun _ _ => ?_
  refine ((ensures_graphOf _).mono_raises fun _ => .inl).bind fun graph named => ?_
  cases graph.matchEndpoint? incoming.method incoming.path with
  | none => exact ensures_fail (.inl rfl)
  | some found =>
      refine (ensures_traceField _ _).bind fun _ _ => ?_
      cases graph.startNode? found.endpoint with
      | none => exact ensures_fail (.inl rfl)
      | some start =>
          have walkers : ∀ engine : Engine ν η, Ready source base engine →
              engine.walkers.get? incoming.controller = some ⟨graph, limit⟩ := by
            intro engine ready
            rw [ready.setup.walkers, paired, named, Option.map_some]
          refine (ensures_read_eq walkers).bind fun walker same => ?_
          subst same
          have graphWritable := writable _ graph named
          have walked := Walk.ensures_run graphWritable keep limit 0 start
          have here : ∀ count, graph.OverlongIn count →
              base.OverlongIn incoming.controller count :=
            fun count overlong => ⟨graph, named, overlong⟩
          refine (ensures_inSession (writable_requestFor json graphWritable found)
            (walked.mono_raises (Fault.Expected.mono here))).bind fun ended _ => ?_
          exact ensures_pure trivial

/-- Running a request fails as the walk of its flow does. -/
theorem execute_of_error
    {host : Host ν η}
    {incoming : Incoming}
    {engine : Engine ν η}
    {graph : Graph}
    {found : EndpointMatch}
    {start : String}
    {walker : Walker}
    {fault : Fault}
    (named : engine.controllers.get? incoming.controller = some graph)
    (matched : graph.matchEndpoint? incoming.method incoming.path = some found)
    (starts : graph.startNode? found.endpoint = some start)
    (walks : engine.walkers.get? incoming.controller = some walker)
    (fails : ∀ trace, (Walk.run walker.graph host.handlers walker.limit 0 start
      { request := requestFor incoming graph found, trace, world := engine.registry }).1 =
        .error fault) :
    (execute host incoming engine).1 = .error fault := by
  obtain ⟨trace, served_eq⟩ : ∃ trace, execute host incoming engine = _ :=
    execute_apply named matched starts walks
  rw [served_eq, served, fails trace]
  rfl

/-- A request gets the response of its run, or one that reports the fault of its run. -/
def Responds
    (host : Host ν η)
    (incoming : Incoming)
    (engine : Engine ν η) : Prop :=
  (∃ run, (execute host incoming engine).1 = .ok run ∧
      (handle host incoming engine).1 = .ok (runResponse run engine)) ∨
    ∃ fault, (execute host incoming engine).1 = .error fault ∧
      (handle host incoming engine).1 = .ok (faultResponse fault engine)

/-- What a request gets is decided by the end of its run and the setup. -/
theorem SameSetup.concluded_eq
    {engine base : Engine ν η}
    (setup : engine.SameSetup base)
    (ended : Except Fault Run) :
    concluded ended engine = concluded ended base := by
  unfold concluded
  cases ended with
  | ok run => simp only [setup.runResponse_eq]
  | error fault => simp only [setup.faultResponse_eq]

section Responds

variable {host : Host ν η} {incoming : Incoming} {base engine : Engine ν η}

/-- A run that keeps the setup is responded to, unless it fails with a fault that is not reported.
-/
theorem responds_of_reported
    (before : engine.SameSetup base)
    (behind : (execute host incoming engine).2.SameSetup base)
    (reported : ∀ fault, (execute host incoming engine).1 = .error fault →
      fault.isReported = true) :
    Responds host incoming engine := by
  have handled : (handle host incoming engine).1 =
      concluded (execute host incoming engine).1 engine :=
    (handle_apply host incoming engine).trans
      (((behind.with_run [] _).concluded_eq _).trans (before.concluded_eq _).symm)
  cases ended : (execute host incoming engine).1 with
  | ok run =>
      rw [ended] at handled
      exact .inl ⟨run, ended, handled⟩
  | error fault =>
      rw [ended] at handled
      exact .inr ⟨fault, ended, handled.trans (if_pos (reported fault ended))⟩

/-- A fault that is not reported leaves the engine. -/
theorem handle_of_unreported
    {fault : Fault}
    (ended : (execute host incoming engine).1 = .error fault)
    (unreported : fault.isReported = false) :
    (handle host incoming engine).1 = .error fault := by
  rw [handle_apply, ended]
  exact if_neg (by simp [unreported])

end Responds

/-- A request gets a response, and what goes wrong shows in the response alone, unless a reference
in a configuration of its controller has a number of too many digits in its path. The engine has
the built-in nodes and no manifest, and may have served other requests; documents, requests and the
answers of predicates are JSON. -/
theorem responds_unless_overlong
    {host : Host ν η}
    {embed : Builtin → η}
    {support : Rules.Support}
    {settings : Settings}
    (performs : ∀ builtin, host.perform (embed builtin) = builtin.perform support)
    (answerJson : support.AnswerJson)
    (noManifest : manifestLocation settings.manifest = .ok none)
    {engine : Engine ν η}
    (built : engine.Built embed settings Graph.FromJson)
    (earlier : List Incoming)
    {incoming : Incoming}
    (json : incoming.FromJson) :
    Responds host incoming (after host earlier engine) ∨
      ∃ count, engine.OverlongIn incoming.controller count ∧
        (handle host incoming (after host earlier engine)).1 = .error (.tooManyDigits count) := by
  have assembled := built.assembled
  -- Of what earlier requests have changed, the run needs the registry alone, and this still has its
  -- handlers from the source.
  have follows := assembled.follows performs noManifest engine.registry.outside
  have respects := (host.dependable_none support engine.registry.outside).respects
  have itself : engine.SameSetup engine := ⟨rfl, fun _ => rfl, fun _ => rfl⟩
  have served := twins_after respects ⟨itself, itself, rfl, follows, follows⟩ earlier
  have writable : ∀ name graph, engine.controllers.get? name = some graph → graph.Writable := by
    intro name graph named
    exact (Assoc.of_get? Graph.FromJson assembled.admits named).writable
  have paired : ∀ name, engine.walkers.get? name =
      (engine.controllers.get? name).map fun graph => ⟨graph, settings.depthLimit⟩ := by
    intro name
    rw [assembled.walkers_eq]
    exact Assoc.get?_map (fun graph => (⟨graph, settings.depthLimit⟩ : Walker)) name _
  have keep : host.handlers.Keep
      (Registry.Follows (host.source support none engine.registry.outside)) :=
    Host.keep_handlers answerJson.answerWritable _
  obtain ⟨yields, ready⟩ := ensures_execute keep writable paired json
    (after host earlier engine) ⟨served.first, served.registries.1⟩
  cases ended : (execute host incoming (after host earlier engine)).1 with
  | ok run => exact .inl (responds_of_reported served.first ready.setup (by simp [ended]))
  | error fault =>
      rw [ended] at yields
      cases yields with
      | error expected =>
          rcases expected with reported | tooLong
          · exact .inl (responds_of_reported served.first ready.setup (by simp [ended, reported]))
          · obtain ⟨overlong⟩ := tooLong
            exact .inr ⟨_, overlong, handle_of_unreported ended rfl⟩

namespace Nines

/-- A reference to a field of the query whose name is a number of so many nines. -/
def reference (count : Nat) : Template.Reference where
  node := "get-e".toList
  key := "out".toList
  path := ["query".toList, List.replicate count '9']

def entry : Node where
  id := "get-e"
  data := [(.text "type", .text "get")]
  outputs := [("out", some ⟨some "v", []⟩)]

/-- A node that sets a variable to what the reference reaches. -/
def setting (count : Nat) : Node where
  id := "v"
  data := [(.text "type", .text "variable"), (.text "variableName", .text "n"),
    (.text "value", .text (String.ofList (reference count).source))]

def graph (count : Nat) : Graph where
  controller := "a"
  endpoints := [{ id := some "e", path := some "/a" }]
  nodes := [entry, setting count]

/-- The part of the document for the entry node. -/
def entryDocument : Value :=
  .record [("id", .text "get-e"), ("data", .record [("type", .text "get")]),
    ("outputs", .record [("out", .record [("toNodeId", .text "v")])])]

/-- The part of the document for the node with the reference. -/
def settingDocument (count : Nat) : Value :=
  .record [("id", .text "v"), ("data", .record [("type", .text "variable"),
    ("variableName", .text "n"), ("value", .text (String.ofList (reference count).source))])]

/-- The document of the graph. -/
def document (count : Nat) : Value :=
  .record [
    ("endpoints", .list [.record [("id", .text "e"), ("path", .text "/a")]]),
    ("nodes", .list [entryDocument, settingDocument count])]

theorem isData_entryDocument : Json.IsData entryDocument := by
  have data : Json.IsData (.record [("type", .text "get")]) :=
    .record _ (by simp) (by simp [Json.IsData.text])
  have edge : Json.IsData (.record [("toNodeId", .text "v")]) :=
    .record _ (by simp) (by simp [Json.IsData.text])
  have outputs : Json.IsData (.record [("out", .record [("toNodeId", .text "v")])]) :=
    .record _ (by simp) (by simp [edge])
  exact .record _ (by simp) (by simp [Json.IsData.text, data, outputs])

theorem isData_settingDocument (count : Nat) : Json.IsData (settingDocument count) := by
  have data : Json.IsData (.record [("type", .text "variable"), ("variableName", .text "n"),
      ("value", .text (String.ofList (reference count).source))]) :=
    .record _ (by simp) (by simp [Json.IsData.text])
  exact .record _ (by simp) (by simp [Json.IsData.text, data])

theorem isData_document (count : Nat) : Json.IsData (document count) := by
  have endpoint : Json.IsData (.record [("id", .text "e"), ("path", .text "/a")]) :=
    .record _ (by simp) (by simp [Json.IsData.text])
  have endpoints := Json.IsData.list _ (List.forall_mem_singleton.2 endpoint)
  have nodes := Json.IsData.list [entryDocument, settingDocument count]
    (by simp [isData_entryDocument, isData_settingDocument])
  exact .record _ (by simp) (by simp [endpoints, nodes])

/-- The built-in nodes, without files, packages or predicates. -/
def host : Host Unit Builtin where
  files := {}
  load _ _ := pure none
  perform builtin := builtin.perform {}

def bare : Engine Unit Builtin where
  registry := Registry.withBuiltins id { outside := () }

def engine (count : Nat) : Engine Unit Builtin :=
  (registerDocument (document count) (some "a") bare).2

theorem engine_eq (count : Nat) : engine count = install (graph count) bare := by
  rfl

def incoming : Incoming where
  controller := "a"
  method := "GET"
  path := "/a"

theorem isProper_reference (count : Nat) : (reference count).IsProper where
  node_ne_nil := List.cons_ne_nil _ _
  node_token := List.all_eq_true.1 (rfl : "get-e".toList.all Template.isTokenChar = true)
  key_ne_nil := List.cons_ne_nil _ _
  key_token := List.all_eq_true.1 (rfl : "out".toList.all Template.isTokenChar = true)
  path_ne_nil := List.cons_ne_nil _ _
  path_token := by
    have query : "query".toList.all Template.isTokenChar = true := rfl
    refine List.forall_mem_cons.2 ⟨List.all_eq_true.1 query, List.forall_mem_singleton.2 ?_⟩
    intro character member
    rw [List.eq_of_mem_replicate member]
    rfl
  joinPath_ne_nil := List.cons_ne_nil _ _

variable {count : Nat} {memory : Memory}

/-- Looking the reference up fails, if the entry has recorded a request with an empty query. -/
theorem lookup_reference
    (beyond : Numeral.digitLimit < count)
    {request : Request}
    (empty : request.query = [])
    (recorded : memory.output? "get-e" (.text "out") = some request.payload) :
    Template.lookup memory (reference count) = .error (.tooManyDigits count) := by
  have followed :
      request.payload.follow (reference count).path = .error (.tooManyDigits count) := by
    have query : request.payload.step "query".toList = .ok (some (.object [])) := by
      rw [← empty]
      rfl
    -- No field of the empty query has the nines for a name, so they are read as a position.
    rw [reference, Value.follow_cons, query]
    change Value.follow _ [_] = _
    rw [Value.follow_cons, Value.step_object]
    have digits : (List.replicate count '9').all Char.isDigit = true := by
      simp [List.all_replicate]
    have unread := Value.index?_of_beyond digits (by rwa [List.length_replicate])
    rw [List.length_replicate] at unread
    rw [Assoc.get?_nil, unread]
    rfl
  have found : memory.output? (String.ofList (reference count).node)
      (.text (String.ofList (reference count).key)) = some request.payload := by
    simpa only [reference, String.ofList_toList] using recorded
  rw [Template.lookup, found]
  exact followed

theorem resolveFields_entry (memory : Memory) :
    Template.resolveFields memory entry.data = .ok entry.data := by
  cbv

theorem resolveFields_setting
    (fails : Template.lookup memory (reference count) = .error (.tooManyDigits count)) :
    Template.resolveFields memory (setting count).data = .error (.tooManyDigits count) := by
  have typed : Template.resolve memory (.text "variable") = .ok (.text "variable") := by cbv
  have named : Template.resolve memory (.text "n") = .ok (.text "n") := by cbv
  have value := Template.resolve_source_of_error (isProper_reference count) fails
  simp only [setting, Template.resolveFields_cons, typed, named, value]
  rfl

section Walk

open Walk

variable {session : Session (Registry Unit Builtin)} (known : session.world.ExactlyBuiltins)

include known

/-- At the second node the walk fails, if the entry has recorded a request with an empty query. -/
theorem executes_setting
    (beyond : Numeral.digitLimit < count)
    {request : Request}
    (empty : request.query = [])
    (recorded : session.memory.output? "get-e" (.text "out") = some request.payload)
    (limit : Int) :
    Executes (graph count) (Registry.resolve {} fun _ _ => pure none) {} limit
      (.walk ["get-e"] "v") 0 session [] (.error (.tooManyDigits count))
      (dispatched host.handlers (setting count) session) := by
  have looked : (host.handlers.resolve (setting count).typeTag session.world).1 =
      .ok (some .assignment) := known.resolve.1
  have unread := resolveFields_setting (lookup_reference beyond empty recorded)
  have failed : prepare host.handlers (setting count) session =
      (.error (.tooManyDigits count), dispatched host.handlers (setting count) session) := by
    rw [prepare_apply, looked, unread]
    rfl
  exact .unprepared (by simp) rfl failed

/-- The entry records the request, and then the walk fails. -/
theorem run_fails
    (beyond : Numeral.digitLimit < count)
    (empty : session.request.query = [])
    (limit : Int) :
    (run (graph count) host.handlers limit 0 "get-e" session).1 =
      .error (.tooManyDigits count) := by
  have moves : StepInvariant (Registry.resolve {} fun _ _ => pure none) {}
      fun session : Session (Registry Unit Builtin) => session.world.ExactlyBuiltins :=
    stepInvariant_exactlyBuiltins
  let leaving : Outcome := { output := some "out", payload := session.request.payload }
  have entered : prepare host.handlers entry session =
      (.ok (some (.entry, entry.data)), dispatched host.handlers entry session) :=
    prepare_of_known known rfl (resolveFields_entry session.memory)
  have knownAfter := moves.kept entry.id leaving _ (moves.dispatched entry session known)
  have given : leaving.payload ≠ .null := nofun
  have further := executes_setting knownAfter beyond empty
    (output?_kept given entry.id (dispatched host.handlers entry session)) limit
  have execution := Executes.onward List.not_mem_nil rfl entered
    (.alone (by decide) fun subflow => rfl) rfl rfl further
  exact congrArg Prod.fst execution.compute_eq

end Walk

theorem execute_fails
    (beyond : Numeral.digitLimit < count) :
    (execute host incoming (engine count)).1 = .error (.tooManyDigits count) := by
  have known : bare.registry.ExactlyBuiltins := Registry.exactlyBuiltins_withBuiltins ()
  rw [engine_eq]
  exact execute_of_error rfl rfl rfl rfl fun trace => run_fails known beyond rfl _

theorem built_engine (count : Nat) : (engine count).Built id {} Graph.FromJson := by
  refine .registerDocument (fun graph reads => ?_) (.start rfl)
  exact ⟨document count, "a", (isData_document count).isJson, reads⟩

theorem fromJson_incoming : incoming.FromJson where
  body := Json.IsData.null.isJson
  query := (Json.IsData.record [] (by simp) (by simp)).isJson
  headers := (Json.IsData.record [] (by simp) (by simp)).isJson

end Nines

/-- A number of too many digits is reported in no response. -/
theorem raises_of_beyond
    {count : Nat}
    (beyond : Numeral.digitLimit < count) :
    (handle Nines.host Nines.incoming (Nines.engine count)).1 = .error (.tooManyDigits count) :=
  handle_of_unreported (Nines.execute_fails beyond) rfl

/-- What is said of requests holds of the one for the number, also the second time. -/
theorem responds_unless_overlong_nines :
    Responds Nines.host Nines.incoming (after Nines.host [Nines.incoming] (Nines.engine 4301)) ∨
      ∃ count, (Nines.engine 4301).OverlongIn "a" count ∧
        (handle Nines.host Nines.incoming
          (after Nines.host [Nines.incoming] (Nines.engine 4301))).1 =
            .error (.tooManyDigits count) :=
  responds_unless_overlong (fun _ => rfl) (by rintro _ _ ⟨⟩) rfl (Nines.built_engine 4301)
    [Nines.incoming] Nines.fromJson_incoming

/-- There is an engine that was built from JSON, and a request to it that gets no response. -/
theorem no_response_nines :
    (Nines.engine 4301).Built id {} Graph.FromJson ∧ Nines.incoming.FromJson ∧
      ∀ response, (handle Nines.host Nines.incoming (Nines.engine 4301)).1 ≠ .ok response := by
  refine ⟨Nines.built_engine 4301, Nines.fromJson_incoming, fun response => ?_⟩
  rw [raises_of_beyond (by decide)]
  nofun

end Engine
end RequestFlow
