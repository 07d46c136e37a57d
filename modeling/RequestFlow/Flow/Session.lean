import RequestFlow.Flow.Memory
import RequestFlow.Flow.Request
import RequestFlow.Flow.Transition

/-!
# Sessions

A session is the state that the handling of one request works on: what has been remembered, the
request, the response if one has been set, the trace that log lines carry, and the state of the
world outside the request, which nodes may change by being looked up.
-/

namespace RequestFlow

/-- The fields that every log line carries. -/
abbrev Trace := Assoc String Value

/-- The state on which a request is handled. -/
structure Session (ω : Type) where
  /-- What has been remembered. -/
  memory : Memory := {}
  /-- The request that is handled. -/
  request : Request := {}
  /-- The response, if one has been set. -/
  response : Option Response := none
  /-- The fields that log lines carry. -/
  trace : Trace := []
  /-- The state of the world outside the request. -/
  world : ω

namespace Session

variable {ω α : Type}

/-- Change what is remembered. -/
def remember (change : Memory → Memory) : Transition (Session ω) Unit :=
  .modify fun session => { session with memory := change session.memory }

/-- Set a variable. -/
def setVariable (name : String) (value : Value) : Transition (Session ω) Unit :=
  remember (Memory.setVariable name value)

/-- Record a payload. -/
def record (node : String) (key : Key) (payload : Value) : Transition (Session ω) Unit :=
  remember (Memory.record node key payload)

/-- Set the response. -/
def respond (response : Response) : Transition (Session ω) Unit :=
  .modify fun session => { session with response := some response }

/-- Set a field of the trace. -/
def traceField (name : String) (value : Value) : Transition (Session ω) Unit :=
  .modify fun session => { session with trace := session.trace.put name value }

/-- Attribute what follows to a node. -/
def enterNode (node : String) : Transition (Session ω) Unit :=
  traceField "node_id" (.text node)

/-- Run a transition of the world outside the request. -/
def outside (transition : Transition ω α) : Transition (Session ω) α :=
  .onPart (·.world) (fun world session => { session with world }) transition

@[simp] theorem remember_apply
    (change : Memory → Memory)
    (session : Session ω) :
    remember change session = (.ok (), { session with memory := change session.memory }) := rfl

@[simp] theorem setVariable_apply
    (name : String)
    (value : Value)
    (session : Session ω) :
    setVariable name value session =
      (.ok (), { session with memory := session.memory.setVariable name value }) := rfl

@[simp] theorem record_apply
    (node : String)
    (key : Key)
    (payload : Value)
    (session : Session ω) :
    record node key payload session =
      (.ok (), { session with memory := session.memory.record node key payload }) := rfl

@[simp] theorem respond_apply
    (response : Response)
    (session : Session ω) :
    respond response session = (.ok (), { session with response := some response }) := rfl

@[simp] theorem enterNode_apply
    (node : String)
    (session : Session ω) :
    enterNode node session =
      (.ok (), { session with trace := session.trace.put "node_id" (.text node) }) := rfl

@[simp] theorem outside_apply
    (transition : Transition ω α)
    (session : Session ω) :
    outside transition session =
      ((transition session.world).1, { session with world := (transition session.world).2 }) := rfl

end Session
end RequestFlow
