import RequestFlow.Flow.Session
import RequestFlow.Proofs.Flow.Ensures
import RequestFlow.Proofs.Json.Writable

/-!
# Sessions whose data can be written as JSON

While every variable, every recorded payload and every part of the request can be written as JSON,
so can whatever is read from them. Setting a variable and recording a payload keep this.
-/

namespace RequestFlow

open Json

namespace Memory

variable {memory : Memory}

/-- Variables and recorded payloads can be written. -/
structure Writable (memory : Memory) : Prop where
  /-- The value of every variable can be written. -/
  bindings : ∀ entry ∈ memory.bindings, Json.Writable entry.2
  /-- The payloads of every node can be written. -/
  outputs : ∀ entry ∈ memory.outputs, Json.Writable (.object entry.2)

theorem writable_empty : empty.Writable :=
  ⟨nofun, nofun⟩

namespace Writable

theorem getVariable?
    (writable : memory.Writable)
    {name : String}
    {value : Value}
    (found : memory.getVariable? name = some value) :
    Json.Writable value :=
  Assoc.of_get? Json.Writable writable.bindings found

/-- What a node has recorded can be written, also if it has recorded nothing. -/
theorem outputs_get?
    (writable : memory.Writable)
    (node : String) :
    Json.Writable (.object ((memory.outputs.get? node).getD [])) :=
  Assoc.of_getD (fun recorded => Json.Writable (.object recorded)) writable.outputs
    writable_object_nil node

theorem output?
    (writable : memory.Writable)
    {node : String}
    {key : Key}
    {payload : Value}
    (found : memory.output? node key = some payload) :
    Json.Writable payload := by
  obtain ⟨recorded, listed, present⟩ := Option.bind_eq_some_iff.1 found
  have fields := writable.outputs_get? node
  rw [listed] at fields
  exact fields.get? present

theorem setVariable
    (writable : memory.Writable)
    (name : String)
    {value : Value}
    (given : Json.Writable value) :
    (memory.setVariable name value).Writable where
  bindings := Assoc.forall_mem_put Json.Writable writable.bindings given name
  outputs := writable.outputs

theorem record
    (writable : memory.Writable)
    (node : String)
    {key : Key}
    (named : IsName key)
    {payload : Value}
    (given : Json.Writable payload) :
    (memory.record node key payload).Writable where
  bindings := writable.bindings
  outputs := Assoc.forall_mem_put (fun recorded => Json.Writable (.object recorded))
    writable.outputs ((writable.outputs_get? node).put named given) node

end Writable

end Memory

namespace Request

variable {request : Request}

/-- Every part of a request can be written. -/
structure Writable (request : Request) : Prop where
  /-- The body can be written. -/
  body : Json.Writable request.body
  /-- The query can be written. -/
  query : Json.Writable (.object request.query)
  /-- The headers can be written. -/
  headers : Json.Writable (.object request.headers)
  /-- The parameters can be written. -/
  parameters : Json.Writable (.object request.parameters)
  /-- The variables can be written. -/
  env : Json.Writable (.object request.env)

theorem Writable.toValue
    (writable : request.Writable) :
    Json.Writable request.toValue := by
  have partsWritable : Json.Writable (.record request.parts) := by
    simp [writable_record_iff, parts, writable_text, writable.body, writable.query,
      writable.headers, writable.parameters]
  refine writable_record_iff.2 ?_
  simp [partsWritable, writable.env]

end Request

namespace Session

variable {ω α : Type} {holds : ω → Prop} {gives : α → Prop} {raises : Fault → Prop}

/-- What is remembered and the request can be written, and the world is as it is held to be. -/
structure Sound
    (holds : ω → Prop)
    (session : Session ω) : Prop where
  /-- What has been remembered can be written. -/
  memory : session.memory.Writable
  /-- The request can be written. -/
  request : session.request.Writable
  /-- The world outside is as it is asked to be. -/
  world : holds session.world

open Transition

theorem ensures_remember
    {change : Memory → Memory}
    (keeps : ∀ memory : Memory, memory.Writable → (change memory).Writable) :
    Ensures (Sound holds) (fun _ => True) raises (remember change) :=
  ensures_modify fun _ sound => ⟨keeps _ sound.memory, sound.request, sound.world⟩

theorem ensures_respond (response : Response) :
    Ensures (Sound holds) (fun _ => True) raises (respond response) :=
  ensures_modify fun _ sound => ⟨sound.memory, sound.request, sound.world⟩

theorem ensures_enterNode (node : String) :
    Ensures (Sound holds) (fun _ => True) raises (enterNode node) :=
  ensures_modify fun _ sound => ⟨sound.memory, sound.request, sound.world⟩

/-- What a step of the world ensures, it ensures in every session. -/
theorem ensures_outside
    {transition : Transition ω α}
    (ensures : Ensures holds gives raises transition) :
    Ensures (Sound holds) gives raises (outside transition) := fun session sound =>
  ⟨(ensures session.world sound.world).1, sound.memory, sound.request,
    (ensures session.world sound.world).2⟩

end Session
end RequestFlow
