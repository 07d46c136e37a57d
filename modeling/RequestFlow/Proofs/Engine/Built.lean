import RequestFlow.Engine.Basic
import RequestFlow.Proofs.Assoc

/-!
# Engines as they are built

An engine is started with the built-in nodes, controllers are registered with it, and it may be
sealed. Until it serves its first request its registry is the one it was started with, and the
walker of each controller has the controller's graph.
-/

namespace RequestFlow

namespace Engine

variable {ν η : Type} {embed : Builtin → η} {settings : Settings} {admitted : Graph → Prop}
  {engine : Engine ν η}

/-- An engine that was started with the built-in nodes, and with which only graphs were registered
that are admitted. -/
inductive Built
    (embed : Builtin → η)
    (settings : Settings)
    (admitted : Graph → Prop) : Engine ν η → Prop
  | start {outside : ν} {engine : Engine ν η} :
      start settings (Registry.withBuiltins embed { outside := outside }) = .ok engine →
      Built embed settings admitted engine
  | register {graph : Graph} {controller : Option String} {engine : Engine ν η} :
      admitted (named graph controller) →
      Built embed settings admitted engine →
      Built embed settings admitted (register graph controller engine).2
  | registerDocument {document : Value} {controller : Option String} {engine : Engine ν η} :
      (∀ graph, Graph.ofDocument document (controller.getD "") = .ok graph → admitted graph) →
      Built embed settings admitted engine →
      Built embed settings admitted (registerDocument document controller engine).2
  | sealUp {engine : Engine ν η} :
      Built embed settings admitted engine →
      Built embed settings admitted (sealUp engine).2

/-- What is known of an engine that has served no request. -/
structure Assembled
    (embed : Builtin → η)
    (settings : Settings)
    (admitted : Graph → Prop)
    (engine : Engine ν η) : Prop where
  /-- The engine has the settings. -/
  settings_eq : engine.settings = settings
  /-- The registry is a new one that discovers through the manifest of the settings. -/
  registry_eq : ∃ manifest outside, manifestLocation settings.manifest = .ok manifest ∧
    engine.registry =
      (Registry.withBuiltins embed { outside := outside }).withManifest manifest
  /-- Every controller has a walker of its graph under the limit of the settings. -/
  walkers_eq : engine.walkers =
    engine.controllers.map fun entry => (entry.1, ⟨entry.2, settings.depthLimit⟩)
  /-- Every graph is admitted. -/
  admits : ∀ entry ∈ engine.controllers, admitted entry.2
  /-- No request has set the trace. -/
  trace_eq : engine.trace = []

/-- Installing an admitted graph keeps all that is known. -/
theorem Assembled.install
    (assembled : engine.Assembled embed settings admitted)
    {graph : Graph}
    (admission : admitted graph) :
    (install graph engine).Assembled embed settings admitted where
  settings_eq := assembled.settings_eq
  registry_eq := assembled.registry_eq
  walkers_eq := by
    change engine.walkers.put graph.controller ⟨graph, engine.settings.depthLimit⟩ = _
    rw [assembled.walkers_eq, assembled.settings_eq]
    exact Assoc.put_map (fun graph => (⟨graph, settings.depthLimit⟩ : Walker)) _ _ _
  admits := Assoc.forall_mem_put admitted assembled.admits admission _
  trace_eq := assembled.trace_eq

/-- A graph is added if it has a name. -/
theorem add_apply
    (graph : Graph)
    (engine : Engine ν η) :
    add graph engine =
      if graph.controller = "" then (.error .noControllerName, engine)
      else (.ok graph, install graph engine) := by
  unfold add
  split <;> rfl

/-- A graph is registered unless the engine is sealed. -/
theorem register_apply
    (graph : Graph)
    (controller : Option String)
    (engine : Engine ν η) :
    register graph controller engine =
      if engine.isSealed then (.error .sealedEngine, engine)
      else add (named graph controller) engine := by
  unfold register beforeSeal
  simp only [Transition.bind_apply, Transition.read_apply]
  cases engine.isSealed <;> rfl

/-- A document is read unless the engine is sealed, and the graph that it gives is added. -/
theorem registerDocument_apply
    (document : Value)
    (controller : Option String)
    (engine : Engine ν η) :
    registerDocument document controller engine =
      if engine.isSealed then (.error .sealedEngine, engine)
      else
        match Graph.ofDocument document (controller.getD "") with
        | .error fault => (.error fault, engine)
        | .ok graph => add graph engine := by
  unfold registerDocument beforeSeal
  simp only [Transition.bind_apply, Transition.read_apply]
  cases engine.isSealed with
  | true => rfl
  | false => cases Graph.ofDocument document (controller.getD "") <;> rfl

/-- Adding a graph installs it, or changes nothing. -/
theorem add_state
    (graph : Graph)
    (engine : Engine ν η) :
    (add graph engine).2 = engine ∨ (add graph engine).2 = install graph engine := by
  rw [add_apply]
  split
  · exact .inl rfl
  · exact .inr rfl

/-- Registering installs a graph, or changes nothing. -/
theorem register_state
    (graph : Graph)
    (controller : Option String)
    (engine : Engine ν η) :
    (register graph controller engine).2 = engine ∨
      (register graph controller engine).2 = install (named graph controller) engine := by
  rw [register_apply]
  split
  · exact .inl rfl
  · exact add_state (named graph controller) engine

/-- Registering a document installs its graph, or changes nothing. -/
theorem registerDocument_state
    (document : Value)
    (controller : Option String)
    (engine : Engine ν η) :
    (registerDocument document controller engine).2 = engine ∨
      ∃ graph, Graph.ofDocument document (controller.getD "") = .ok graph ∧
        (registerDocument document controller engine).2 = install graph engine := by
  rw [registerDocument_apply]
  split
  · exact .inl rfl
  · cases read : Graph.ofDocument document (controller.getD "") with
    | error fault => exact .inl rfl
    | ok graph => exact (add_state graph engine).imp_right fun same => ⟨graph, rfl, same⟩

/-- An engine that has just been started has no controllers. Its registry is the given one, with the
manifest of the settings if they name one. -/
theorem exists_of_start
    {registry : Registry ν η}
    (started : start settings registry = .ok engine) :
    ∃ manifest, manifestLocation settings.manifest = .ok manifest ∧
      engine = { settings
                 registry :=
                  if manifest.isSome then registry.withManifest manifest else registry } := by
  unfold start at started
  cases located : manifestLocation settings.manifest with
  | error fault =>
      rw [located] at started
      cases started
  | ok manifest =>
      rw [located] at started
      cases manifest <;> cases started <;> exact ⟨_, rfl, rfl⟩

/-- Whatever was registered, a built engine is as it was assembled. -/
theorem Built.assembled
    (built : engine.Built embed settings admitted) :
    engine.Assembled embed settings admitted := by
  induction built with
  | @start outside engine started =>
      obtain ⟨manifest, located, rfl⟩ := exists_of_start started
      refine ⟨rfl, ⟨manifest, outside, located, ?_⟩, rfl, nofun, rfl⟩
      cases manifest <;> rfl
  | @register graph controller engine admission _ inductionHypothesis =>
      rcases register_state graph controller engine with same | same
      · rw [same]
        exact inductionHypothesis
      · rw [same]
        exact inductionHypothesis.install admission
  | @registerDocument document controller engine admission _ inductionHypothesis =>
      rcases registerDocument_state document controller engine with same | ⟨graph, read, same⟩
      · rw [same]
        exact inductionHypothesis
      · rw [same]
        exact inductionHypothesis.install (admission graph read)
  | sealUp _ inductionHypothesis =>
      exact ⟨inductionHypothesis.settings_eq, inductionHypothesis.registry_eq,
        inductionHypothesis.walkers_eq, inductionHypothesis.admits, inductionHypothesis.trace_eq⟩

end Engine
end RequestFlow
