import RequestFlow.Nodes.Builtin
import RequestFlow.Proofs.Flow.Writable

/-!
# Built-in nodes keep data that can be written as JSON

From a session and a configuration that can be written, a built-in node leaves a session behind that
can be, and its payload can be. The walks that a loop starts are taken to keep this too. Nothing is
said of what a node may fail for.
-/

namespace RequestFlow

open Json Transition

/-- The answers of the predicates can be written. -/
def Rules.Support.AnswerWritable (support : Rules.Support) : Prop :=
  ∀ name predicate, support.predicate? name = some predicate →
    ∀ value rule request answer, predicate value rule request = .ok answer → Writable answer

namespace Rules

variable {rule : Fields} {support : Support}

theorem Verdict.writable_failed
    (writable : Writable (.object rule))
    (default : String) :
    Writable (Verdict.failed rule default).message :=
  (writable.get "message").orElse (writable_text default)

theorem Verdict.writable_ofTest
    (writable : Writable (.object rule))
    (ok : Bool)
    (default : String) :
    Writable (Verdict.ofTest ok rule default).message := by
  cases ok with
  | true => exact writable_text ""
  | false => exact writable_failed writable default

/-- The message in what a predicate answers can be written. -/
theorem yields_verdictOf
    {answer : Value}
    (writable : Writable answer) :
    Yields (fun verdict => Writable verdict.message) (fun _ => True) (verdictOf answer) := by
  cases answer with
  | object fields =>
      refine .ok ?_
      cases found : Assoc.get? (.text "message") fields with
      | none => exact writable_text ""
      | some message => exact writable.get? found
  | _ => exact .error trivial

theorem yields_checkPredicate
    (answerWritable : support.AnswerWritable)
    (request : Request)
    (rule : Fields)
    (value : Value) :
    Yields (fun verdict => Writable verdict.message) (fun _ => True)
      (checkPredicate support request rule value) := by
  unfold checkPredicate
  split
  · exact .ok (writable_text "")
  next predicate chosen =>
    obtain ⟨name, -, named⟩ := Option.bind_eq_some_iff.1 chosen
    have answers : Yields Writable (fun _ => True) (predicate value rule request) :=
      .of_ok fun answer => answerWritable name predicate named value rule request answer
    exact answers.bind fun _ => yields_verdictOf

theorem yields_checkPattern
    (writable : Writable (.object rule))
    (value : Value) :
    Yields (fun verdict => Writable verdict.message) (fun _ => True)
      (checkPattern support rule value) := by
  simp only [checkPattern]
  split
  · split
    · exact .ok (Verdict.writable_ofTest writable _ _)
    · exact .ok (Verdict.writable_failed writable _)
    all_goals exact .error trivial
  · exact .ok (Verdict.writable_failed writable _)

/-- The verdict of a test has a message that can be written. -/
theorem yields_ofTest
    (writable : Writable (.object rule))
    (tested : Except Fault Bool)
    (default : String) :
    Yields (fun verdict => Writable verdict.message) (fun _ => True)
      (tested >>= fun ok => pure (Verdict.ofTest ok rule default)) := by
  have anything : Yields (fun _ => True) (fun _ => True) tested := .of_ok fun _ _ => trivial
  exact anything.bind fun ok _ => .ok (Verdict.writable_ofTest writable ok default)

/-- The message of a verdict can be written. -/
theorem yields_apply
    (answerWritable : support.AnswerWritable)
    (request : Request)
    {rule : Value}
    (writable : Writable rule)
    (value : Value) :
    Yields (fun verdict => Writable verdict.message) (fun _ => True)
      (Rules.apply support request rule value) := by
  cases rule with
  | object fields =>
      simp only [Rules.apply, applyFields]
      split
      · exact .ok (Verdict.writable_ofTest writable _ _)
      · exact yields_ofTest writable _ _
      · exact yields_ofTest writable _ _
      · exact .ok (Verdict.writable_ofTest writable _ _)
      · exact .ok (Verdict.writable_ofTest writable _ _)
      · exact yields_ofTest writable _ _
      · exact yields_ofTest writable _ _
      · exact yields_checkPattern writable value
      · exact yields_checkPredicate answerWritable request fields value
      · exact .ok (writable_text "")
  | _ => exact .error trivial

end Rules

/-- The payload of the outcome that a reply stands for can be written. -/
def Reply.Writable (reply : Reply) : Prop :=
  ∀ outcome, reply.toOutcome = .ok outcome → Json.Writable outcome.payload

theorem Reply.writable_outcome
    {outcome : Outcome}
    (writable : Json.Writable outcome.payload) :
    (Reply.outcome outcome).Writable := by
  rintro _ ⟨⟩
  exact writable

namespace Nodes

variable {ω : Type} {holds : ω → Prop} {call : Call} {node : Node} {subflow : Subflow ω}

section Config

variable {config : Fields} {memory : Memory} {request : Request} {value : Value}

theorem yields_itemsToApply
    (writable : Json.Writable value) :
    Yields (fun items => ∀ item ∈ items, Json.Writable item) (fun _ => True)
      (itemsToApply value) := by
  cases value with
  | list items => exact .ok (writable_list_iff.1 writable)
  | tuple items => exact .ok (writable_tuple_iff.1 writable)
  | object fields => exact .ok (List.forall_mem_map.2 fun field _ => writable_toValue field.1)
  | text content => exact .ok (List.forall_mem_map.2 fun character _ => writable_text _)
  | _ => exact .error trivial

theorem yields_configuredRules
    (writable : Json.Writable (.object config)) :
    Yields (fun rules => ∀ rule ∈ rules, Json.Writable rule) (fun _ => True)
      (configuredRules config) :=
  yields_itemsToApply ((writable.get "rules").orElse writable_list_nil)

theorem writable_followFields
    (writable : Json.Writable value)
    (path : List (List Char)) :
    Json.Writable (followFields value path) := by
  induction path generalizing value with
  | nil => exact writable
  | cons name path inductionHypothesis =>
      unfold followFields
      split
      next fields =>
        split
        next part found =>
          exact inductionHypothesis ((writable.get (String.ofList name)).nonNull? found)
        · exact writable_null
      · exact writable_null

/-- The value that is validated can be written. -/
theorem writable_subject
    (configWritable : Json.Writable (.object config))
    (memoryWritable : memory.Writable)
    (requestWritable : request.Writable) :
    Json.Writable (subject config memory request) := by
  unfold subject
  split
  next name _ =>
    cases found : memory.getVariable? (variableName name) with
    | none => exact writable_null
    | some value => exact memoryWritable.getVariable? found
  · split
    next value found => exact (configWritable.get "value").nonNull? found
    · split
      · exact writable_followFields requestWritable.toValue _
      · exact writable_null

theorem yields_failures
    {support : Rules.Support}
    (answerWritable : support.AnswerWritable)
    (request : Request)
    (value : Value)
    {rules : List Value}
    (writable : ∀ rule ∈ rules, Json.Writable rule) :
    Yields (fun messages => ∀ message ∈ messages, Json.Writable message) (fun _ => True)
      (failures support request value rules) := by
  induction rules with
  | nil => exact .ok (List.forall_mem_nil _)
  | cons rule rules inductionHypothesis =>
      obtain ⟨first, others⟩ := List.forall_mem_cons.1 writable
      refine (Rules.yields_apply answerWritable request first value).bind fun verdict message => ?_
      refine (inductionHypothesis others).bind fun messages later => .ok ?_
      split
      · exact later
      · exact List.forall_mem_cons.2 ⟨message, later⟩

theorem writable_setNamed
    (writable : memory.Writable)
    (name : Value)
    (given : Json.Writable value) :
    (setNamed name value memory).Writable := by
  unfold setNamed
  split
  · exact writable.setVariable _ given
  · exact writable

theorem writable_act
    (writable : memory.Writable)
    {action : Value}
    (given : Json.Writable action) :
    (act memory action).Writable := by
  cases action with
  | object fields =>
      simp only [act]
      split
      · exact writable_setNamed writable _ (given.get "value")
      · exact writable
  | _ => exact writable

theorem writable_actAll
    (writable : memory.Writable)
    {actions : Value}
    (given : Json.Writable actions) :
    (actAll actions memory).Writable := by
  cases actions with
  | list items =>
      change (items.foldl act memory).Writable
      have each := writable_list_iff.1 given
      clear given
      induction items generalizing memory with
      | nil => exact writable
      | cons item items inductionHypothesis =>
          obtain ⟨first, others⟩ := List.forall_mem_cons.1 each
          exact inductionHypothesis (writable_act writable first) others
  | _ => exact writable

theorem writable_conclude
    (configWritable : Json.Writable (.object config))
    (name actions : String)
    (given : Json.Writable value)
    (writable : memory.Writable) :
    (conclude config name actions value memory).Writable :=
  writable_actAll (writable_setNamed writable _ given) (configWritable.get actions)

/-- An item of a list or object that can be written can be, with its position or key. -/
theorem writable_of_mem_itemsOf
    (writable : Json.Writable value)
    {item : Item}
    (member : item ∈ itemsOf value) :
    Json.Writable item.index ∧ Json.Writable item.value := by
  have listed {items : List Value} (each : ∀ item ∈ items, Json.Writable item)
      (among : item ∈ items.zipIdx.map fun entry => (⟨.int entry.2, entry.1⟩ : Item)) :
      Json.Writable item.index ∧ Json.Writable item.value := by
    obtain ⟨entry, found, rfl⟩ := List.mem_map.1 among
    exact ⟨writable_int _, each _ (List.fst_mem_of_mem_zipIdx found)⟩
  cases value with
  | object fields =>
      obtain ⟨field, found, rfl⟩ := List.mem_map.1 member
      exact ⟨writable_toValue field.1, (writable_object_iff.1 writable field found).2⟩
  | list items => exact listed (writable_list_iff.1 writable) member
  | tuple items => exact listed (writable_tuple_iff.1 writable) member
  | _ => cases member

theorem yields_loopItems
    (writable : Json.Writable value) :
    Yields (fun items => ∀ item ∈ items, Json.Writable item.index ∧ Json.Writable item.value)
      (fun _ => True) (loopItems value) := by
  unfold loopItems
  split
  · split
    next found embedded =>
      exact .ok fun _ => writable_of_mem_itemsOf (writable_of_embedded? embedded)
    · exact .ok nofun
    · exact .error trivial
  · exact .ok fun _ => writable_of_mem_itemsOf writable

end Config

section Alone

variable (call : Call) (subflow : Subflow ω)

theorem ensures_assign
    (data : Json.Writable (.object call.node.data)) :
    Ensures (Session.Sound holds) Reply.Writable (fun _ => True) (assign call subflow) := by
  simp only [assign]
  split
  · refine (Session.ensures_remember fun memory writable => ?_).bind fun _ _ => ?_
    · exact writable.setVariable _ (data.get "value")
    · exact ensures_pure (Reply.writable_outcome writable_null)
  · exact ensures_fail trivial

theorem ensures_enter :
    Ensures (Session.Sound holds) Reply.Writable (fun _ => True) (enter call subflow) := by
  refine (ensures_read fun _ sound => sound.request).bind fun request writable => ?_
  refine ensures_pure (Reply.writable_outcome ?_)
  exact writable_record_iff.2 (by
    simp [Request.recorded, writable_text, writable.body, writable.query, writable.parameters])

theorem ensures_responding :
    Ensures (Session.Sound holds) Reply.Writable (fun _ => True) (Nodes.respond call subflow) := by
  refine (ensures_ofExcept (.of_ok fun _ _ => trivial)).bind fun response _ => ?_
  refine (Session.ensures_respond response).bind fun _ _ => ?_
  exact ensures_pure (Reply.writable_outcome writable_null)

theorem ensures_validate
    {support : Rules.Support}
    (answerWritable : support.AnswerWritable)
    (data : Json.Writable (.object call.node.data)) :
    Ensures (Session.Sound holds) Reply.Writable (fun _ => True)
      (validate support call subflow) := by
  refine (ensures_read fun _ sound => sound.request).bind fun request requestWritable => ?_
  refine (ensures_read fun _ sound => sound.memory).bind fun memory memoryWritable => ?_
  have value := writable_subject data memoryWritable requestWritable
  refine (ensures_ofExcept (yields_configuredRules data)).bind fun rules rulesWritable => ?_
  have judged := yields_failures answerWritable request
    (subject call.node.data memory request) rulesWritable
  refine (ensures_ofExcept judged).bind fun messages messagesWritable => ?_
  cases messages with
  | nil =>
      refine (Session.ensures_remember fun _ => writable_conclude data _ _ value).bind fun _ _ => ?_
      exact ensures_pure (Reply.writable_outcome value)
  | cons message messages =>
      have list := writable_list_iff.2 messagesWritable
      refine (Session.ensures_remember fun _ => writable_conclude data _ _ list).bind fun _ _ => ?_
      exact ensures_pure (Reply.writable_outcome list)

end Alone

section Loop

variable (walks : ∀ output,
  Ensures (Session.Sound holds) (fun _ => True) (fun _ => True) (subflow node output))

include walks

theorem ensures_walkIfDeclared (output : String) :
    Ensures (Session.Sound holds) (fun _ => True) (fun _ => True)
      (walkIfDeclared subflow node output) := by
  unfold walkIfDeclared
  split
  · exact (walks (some output)).bind fun _ _ => ensures_pure trivial
  · exact ensures_pure trivial

theorem ensures_carryOut
    {item : Item}
    (writable : Json.Writable item.index ∧ Json.Writable item.value) :
    Ensures (Session.Sound holds) (Yields (fun _ => True) fun _ => True) (fun _ => True)
      (carryOut subflow node item) := by
  refine (Session.ensures_remember fun memory sound => ?_).bind fun _ _ => ?_
  · exact sound.setVariable _ writable.2
  refine (Session.ensures_remember fun memory sound => ?_).bind fun _ _ => ?_
  · refine sound.record _ (isName_text _) ?_
    exact writable_record_iff.2 (by simp [writable.1, writable.2])
  · exact (ensures_walkIfDeclared walks "inLoop").attempt

theorem ensures_eachItem
    (processed : Nat)
    {items : List Item}
    (writable : ∀ item ∈ items, Json.Writable item.index ∧ Json.Writable item.value) :
    Ensures (Session.Sound holds) Reply.Writable (fun _ => True)
      (eachItem subflow node processed items) := by
  induction items generalizing processed with
  | nil => exact ensures_pure (Reply.writable_outcome rfl)
  | cons item items inductionHypothesis =>
      obtain ⟨first, others⟩ := List.forall_mem_cons.1 writable
      refine (ensures_carryOut walks first).bind fun ended _ => ?_
      cases ended with
      | error fault =>
          refine ensures_pure (Reply.writable_outcome ?_)
          exact writable_record_iff.2 (by simp [writable_text, first.1])
      | ok done => exact inductionHypothesis (processed + 1) others

end Loop

theorem ensures_loop
    (data : Json.Writable (.object call.node.data))
    (walks : ∀ output,
      Ensures (Session.Sound holds) (fun _ => True) (fun _ => True) (subflow call.node output)) :
    Ensures (Session.Sound holds) Reply.Writable (fun _ => True) (loop call subflow) := by
  refine (ensures_ofExcept (yields_loopItems (data.get "items"))).bind fun items writable => ?_
  refine (ensures_walkIfDeclared walks "beforeLoop").attempt.bind fun ended _ => ?_
  cases ended with
  | error fault => exact ensures_pure (Reply.writable_outcome rfl)
  | ok done => exact ensures_eachItem walks 0 writable

end Nodes

/-- A built-in node keeps that all data can be written, if the walks at its own outputs do. -/
theorem Builtin.ensures_perform
    {ω : Type}
    {holds : ω → Prop}
    {support : Rules.Support}
    (answerWritable : support.AnswerWritable)
    (builtin : Builtin)
    {call : Call}
    (data : Json.Writable (.object call.node.data))
    {subflow : Subflow ω}
    (walks : ∀ output,
      Ensures (Session.Sound holds) (fun _ => True) (fun _ => True) (subflow call.node output)) :
    Ensures (Session.Sound holds) Reply.Writable (fun _ => True)
      (builtin.perform support call subflow) := by
  cases builtin with
  | assignment => exact Nodes.ensures_assign call subflow data
  | entry => exact Nodes.ensures_enter call subflow
  | response => exact Nodes.ensures_responding call subflow
  | loop => exact Nodes.ensures_loop data walks
  | validation => exact Nodes.ensures_validate call subflow answerWritable data

end RequestFlow
