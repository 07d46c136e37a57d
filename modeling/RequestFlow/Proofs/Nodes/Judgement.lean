import Mathlib.Data.List.Perm.Basic
import RequestFlow.Proofs.Nodes.Builtin

/-!
# Validation nodes as judgements

What a validation node does is told here without its recursion over the rules: every rule gives a
verdict on one and the same value, and the messages of the verdicts that are not valid decide how
the node is left and which variables are set, one after another. A rule that fails ends the node
before anything has been set, whatever the rules before it have found.
-/

namespace RequestFlow
namespace Nodes

variable {ω : Type}

/-! ## Verdicts and messages -/

/-- The rules that a configuration lists; it may have no such field. -/
def ListsRules (config : Fields) (rules : List Fields) : Prop :=
  config.get "rules" = .list (rules.map .object) ∨ config.get "rules" = .null ∧ rules = []

/-- What a rule finds about a value. -/
def ruling
    (support : Rules.Support)
    (request : Request)
    (value : Value)
    (rule : Fields) : Except Fault Rules.Verdict :=
  Rules.apply support request (.object rule) value

/-- Every rule gives a verdict; the verdicts are in the order of the rules. -/
def Judges
    (rulingOf : Fields → Except Fault Rules.Verdict) :
    List Fields → List Rules.Verdict → Prop :=
  List.Forall₂ fun rule verdict => rulingOf rule = .ok verdict

/-- The messages of the verdicts that are not valid, in order. -/
def complaints (verdicts : List Rules.Verdict) : List Value :=
  (verdicts.filter fun verdict => !verdict.valid).map (·.message)

theorem complaints_cons
    (verdict : Rules.Verdict)
    (verdicts : List Rules.Verdict) :
    complaints (verdict :: verdicts) =
      if verdict.valid then complaints verdicts else verdict.message :: complaints verdicts := by
  unfold complaints
  cases valid : verdict.valid <;> simp [valid]

theorem complaints_append
    (first second : List Rules.Verdict) :
    complaints (first ++ second) = complaints first ++ complaints second := by
  unfold complaints
  rw [List.filter_append, List.map_append]

/-- Rules give verdicts in two parts, and the parts give those of the whole. -/
theorem judges_append_iff
    {rulingOf : Fields → Except Fault Rules.Verdict}
    {first second : List Fields}
    {verdicts : List Rules.Verdict} :
    Judges rulingOf (first ++ second) verdicts ↔
      ∃ front back, verdicts = front ++ back ∧
        Judges rulingOf first front ∧ Judges rulingOf second back := by
  constructor
  · intro judged
    have turned := List.Forall₂.flip judged
    exact ⟨verdicts.take first.length, verdicts.drop first.length,
      (List.take_append_drop _ _).symm,
      (List.forall₂_take_append verdicts first second turned).flip,
      (List.forall₂_drop_append verdicts first second turned).flip⟩
  · rintro ⟨front, back, rfl, judgedFirst, judgedSecond⟩
    exact List.rel_append judgedFirst judgedSecond

/-! ## Variables that are set -/

/-- A variable with its value, if a name is given for it. -/
def named? (name value : Value) : Option (String × Value) :=
  if name.isTruthy then some (name.display, value) else none

/-- The variable that an action sets, with its value. Other actions, and what is no action, set
none. -/
def assignment? : Value → Option (String × Value)
  | .object action =>
    match Fields.get "type" action with
    | .text "setVariable" => named? (Fields.get "name" action) (Fields.get "value" action)
    | _ => none
  | _ => none

/-- The actions that a field lists; anything but a list has none. -/
def actionsIn : Value → List Value
  | .list actions => actions
  | _ => []

/-- The variables that a validation node sets, with their values and in this order: the configured
one, then those of the actions. -/
def assignments
    (config : Fields)
    (name actions : String)
    (value : Value) : List (String × Value) :=
  (named? (config.get name) value).toList ++
    (actionsIn (config.get actions)).filterMap assignment?

/-- A memory in which variables have been set one after another. What has been recorded is as it
was. -/
def setAll (given : List (String × Value)) (memory : Memory) : Memory :=
  { memory with bindings := memory.bindings.merge given }

theorem setAll_append
    (first second : List (String × Value))
    (memory : Memory) :
    setAll (first ++ second) memory = setAll second (setAll first memory) := by
  unfold setAll Assoc.merge
  rw [List.foldl_append]

theorem setNamed_eq_setAll
    (name value : Value)
    (memory : Memory) :
    setNamed name value memory = setAll (named? name value).toList memory := by
  unfold setNamed named?
  split <;> rfl

theorem act_eq_setAll
    (memory : Memory)
    (action : Value) :
    act memory action = setAll (assignment? action).toList memory := by
  cases action with
  | object fields =>
      rw [act, assignment?]
      by_cases sets : Fields.get "type" fields = .text "setVariable"
      · rw [if_pos (Value.same_text_iff.2 sets), sets]
        exact setNamed_eq_setAll _ _ memory
      · rw [if_neg (mt Value.same_text_iff.1 sets)]
        split
        · next is_text => exact absurd is_text sets
        · rfl
  | _ => rfl

theorem foldl_act_eq_setAll
    (actions : List Value)
    (memory : Memory) :
    actions.foldl act memory = setAll (actions.filterMap assignment?) memory := by
  induction actions generalizing memory with
  | nil => rfl
  | cons action actions inductionHypothesis =>
      rw [List.foldl_cons, inductionHypothesis, act_eq_setAll, ← setAll_append,
        List.filterMap_cons]
      cases assignment? action <;> rfl

/-- What a validation node remembers is told by its configuration alone. -/
theorem conclude_eq_setAll
    (config : Fields)
    (name actions : String)
    (value : Value)
    (memory : Memory) :
    conclude config name actions value memory =
      setAll (assignments config name actions value) memory := by
  unfold conclude assignments
  rw [setAll_append, ← setNamed_eq_setAll]
  generalize config.get actions = listed
  cases listed with
  | list items => exact foldl_act_eq_setAll items _
  | _ => rfl

/-! ## Rules one after another -/

section Rules

variable {support : Rules.Support} {request : Request} {value : Value}
  {rules : List Fields} {verdicts : List Rules.Verdict}

theorem configuredRules_of_listsRules
    {config : Fields}
    (listed : ListsRules config rules) :
    configuredRules config = .ok (rules.map .object) := by
  unfold configuredRules
  rcases listed with listed | ⟨absent, rfl⟩
  · rw [listed]
    cases rules with
    | nil => rfl
    | cons rule rules => rfl
  · rw [absent]
    rfl

/-- A rule that gives a verdict adds its message, if any, in front of what the others find. -/
theorem failures_cons
    {rule : Value}
    {verdict : Rules.Verdict}
    (gives : Rules.apply support request rule value = .ok verdict)
    (others : List Value) :
    failures support request value (rule :: others) =
      (failures support request value others).map fun messages =>
        if verdict.valid then messages else verdict.message :: messages := by
  rw [failures, gives]
  cases failures support request value others <;> rfl

/-- Rules that give verdicts add the messages of these in front of what the other rules find. -/
theorem failures_append
    (judged : Judges (ruling support request value) rules verdicts)
    (others : List Value) :
    failures support request value (rules.map .object ++ others) =
      (failures support request value others).map (complaints verdicts ++ ·) := by
  induction judged with
  | nil =>
      rw [List.map_nil, List.nil_append]
      cases failures support request value others <;> rfl
  | @cons rule verdict rules verdicts gives judged inductionHypothesis =>
      rw [List.map_cons, List.cons_append, failures_cons gives, inductionHypothesis,
        complaints_cons]
      cases failures support request value others with
      | error fault => rfl
      | ok messages => cases verdict.valid <;> rfl

theorem failures_of_judges
    (judged : Judges (ruling support request value) rules verdicts) :
    failures support request value (rules.map .object) = .ok (complaints verdicts) := by
  have alone := failures_append judged []
  rw [List.append_nil] at alone
  rw [alone, failures]
  simp [Except.map]

/-- The first rule that fails ends the judgement. -/
theorem failures_of_fault
    {rule : Fields}
    {fault : Fault}
    (judged : Judges (ruling support request value) rules verdicts)
    (fails : ruling support request value rule = .error fault)
    (after : List Fields) :
    failures support request value ((rules ++ rule :: after).map .object) = .error fault := by
  have given : Rules.apply support request (.object rule) value = .error fault := fails
  rw [List.map_append, failures_append judged, List.map_cons, failures, given]
  rfl

/-- Every rule gives a verdict, or there is a first one that fails. -/
theorem judges_or_fails
    (rulingOf : Fields → Except Fault Rules.Verdict)
    (rules : List Fields) :
    (∃ verdicts, Judges rulingOf rules verdicts) ∨
      ∃ before rule after verdicts fault,
        rules = before ++ rule :: after ∧
        Judges rulingOf before verdicts ∧
        rulingOf rule = .error fault := by
  induction rules with
  | nil => exact .inl ⟨[], .nil⟩
  | cons rule rules inductionHypothesis =>
      cases gives : rulingOf rule with
      | error fault => exact .inr ⟨[], rule, rules, [], fault, rfl, .nil, gives⟩
      | ok verdict =>
          rcases inductionHypothesis with ⟨verdicts, judged⟩ | failed
          · exact .inl ⟨verdict :: verdicts, .cons gives judged⟩
          · obtain ⟨before, failing, after, verdicts, fault, rfl, judged, fails⟩ := failed
            exact .inr ⟨rule :: before, failing, after, verdict :: verdicts, fault, rfl,
              .cons gives judged, fails⟩

end Rules

/-! ## How a validation node is left -/

/-- A validation node leaves with a reply and a session: every rule accepts the value, some of them
do not, or one of them fails. -/
inductive Validates
    (rulingOf : Fields → Except Fault Rules.Verdict)
    (value : Value)
    (config : Fields)
    (rules : List Fields)
    (session : Session ω) : Except Fault Reply → Session ω → Prop
  | accepts {verdicts : List Rules.Verdict} :
      Judges rulingOf rules verdicts →
      complaints verdicts = [] →
      Validates rulingOf value config rules session
        (.ok (.leaveWith "success" value))
        { session with
          memory := setAll (assignments config "successVariable" "onSuccess" value)
            session.memory }
  | complains {verdicts : List Rules.Verdict} {messages : List Value} :
      Judges rulingOf rules verdicts →
      complaints verdicts = messages →
      messages ≠ [] →
      Validates rulingOf value config rules session
        (.ok (.leaveWith "failure" (.list messages)))
        { session with
          memory := setAll (assignments config "errorVariable" "onFailure" (.list messages))
            session.memory }
  | fails {before after : List Fields} {rule : Fields} {verdicts : List Rules.Verdict}
      {fault : Fault} :
      rules = before ++ rule :: after →
      Judges rulingOf before verdicts →
      rulingOf rule = .error fault →
      Validates rulingOf value config rules session (.error fault) session

/-- Every validation node is left in one of the three ways. -/
theorem exists_validates
    (rulingOf : Fields → Except Fault Rules.Verdict)
    (value : Value)
    (config : Fields)
    (rules : List Fields)
    (session : Session ω) :
    ∃ answer final, Validates rulingOf value config rules session answer final := by
  rcases judges_or_fails rulingOf rules with ⟨verdicts, judged⟩ | failed
  · by_cases accepted : complaints verdicts = []
    · exact ⟨_, _, .accepts judged accepted⟩
    · exact ⟨_, _, .complains judged rfl accepted⟩
  · obtain ⟨before, rule, after, verdicts, fault, split, judged, fails⟩ := failed
    exact ⟨_, _, .fails split judged fails⟩

/-- The messages with which a validation node is left, none if it accepts the value; nothing if it
has failed. -/
def reported? : Except Fault Reply → Option (List Value)
  | .ok (.outcome ⟨some "success", _⟩) => some []
  | .ok (.outcome ⟨some "failure", .list messages⟩) => some messages
  | _ => none

section Node

variable {support : Rules.Support} {node : Node} {rules : List Fields}
  {session final : Session ω} {answer : Except Fault Reply}

/-- The node is left in the way that is told. -/
theorem validate_of_validates
    (listed : ListsRules node.data rules)
    (validates : Validates
      (ruling support session.request (subject node.data session.memory session.request))
      (subject node.data session.memory session.request) node.data rules session answer final)
    (depth : Int)
    (subflow : Subflow ω) :
    validate support ⟨node, depth⟩ subflow session = (answer, final) := by
  rw [validate_apply, judge, configuredRules_of_listsRules listed]
  dsimp only [Except.bind]
  cases validates with
  | accepts judged accepted =>
      rw [failures_of_judges judged, accepted]
      dsimp only
      rw [conclude_eq_setAll]
  | complains judged same rejected =>
      rw [failures_of_judges judged, same]
      obtain ⟨message, messages, rfl⟩ := List.exists_cons_of_ne_nil rejected
      dsimp only
      rw [conclude_eq_setAll]
  | fails split judged fails => rw [split, failures_of_fault judged fails]

/-- The messages with which a node is left are those of the verdicts of its rules, and it is left
with messages only if all of its rules give verdicts. -/
theorem reported?_validate_eq_some_iff
    (listed : ListsRules node.data rules)
    (depth : Int)
    (subflow : Subflow ω)
    (messages : List Value) :
    reported? (validate support ⟨node, depth⟩ subflow session).1 = some messages ↔
      ∃ verdicts, Judges
        (ruling support session.request (subject node.data session.memory session.request))
        rules verdicts ∧ complaints verdicts = messages := by
  constructor
  · intro reports
    obtain ⟨answer, final, validates⟩ := exists_validates
      (ruling support session.request (subject node.data session.memory session.request))
      (subject node.data session.memory session.request) node.data rules session
    rw [validate_of_validates listed validates depth subflow] at reports
    cases validates with
    | accepts judged accepted =>
        cases reports
        exact ⟨_, judged, accepted⟩
    | complains judged same rejected =>
        cases reports
        exact ⟨_, judged, same⟩
    | fails split judged fails => cases reports
  · rintro ⟨verdicts, judged, rfl⟩
    by_cases accepted : complaints verdicts = []
    · rw [validate_of_validates listed (.accepts judged accepted) depth subflow, accepted]
      rfl
    · rw [validate_of_validates listed (.complains judged rfl accepted) depth subflow]
      rfl

/-- What is reported for rules in two parts is what is reported for the parts, one after the other.
-/
theorem reported?_append
    {one other : Node}
    {first second : List Fields}
    (listed : ListsRules node.data (first ++ second))
    (listedFirst : ListsRules one.data first)
    (listedSecond : ListsRules other.data second)
    (sameFirst : subject one.data session.memory session.request =
      subject node.data session.memory session.request)
    (sameSecond : subject other.data session.memory session.request =
      subject node.data session.memory session.request)
    (depth : Int)
    (subflow : Subflow ω) :
    reported? (validate support ⟨node, depth⟩ subflow session).1 =
      (reported? (validate support ⟨one, depth⟩ subflow session).1).bind fun messages =>
        (reported? (validate support ⟨other, depth⟩ subflow session).1).map (messages ++ ·) := by
  ext messages
  simp only [Option.bind_eq_some_iff, Option.map_eq_some_iff,
    reported?_validate_eq_some_iff listed, reported?_validate_eq_some_iff listedFirst,
    reported?_validate_eq_some_iff listedSecond, sameFirst, sameSecond, judges_append_iff]
  constructor
  · rintro ⟨_, ⟨front, back, rfl, judgedFirst, judgedSecond⟩, rfl⟩
    exact ⟨_, ⟨front, judgedFirst, rfl⟩, _, ⟨back, judgedSecond, rfl⟩,
      (complaints_append front back).symm⟩
  · rintro ⟨_, ⟨front, judgedFirst, rfl⟩, _, ⟨back, judgedSecond, rfl⟩, rfl⟩
    exact ⟨front ++ back, ⟨front, back, rfl, judgedFirst, judgedSecond⟩,
      complaints_append front back⟩

/-- Rules in another order report the same messages in another order. -/
theorem exists_reported?_of_perm
    {other : Node}
    {reordered : List Fields}
    {messages : List Value}
    (perm : rules.Perm reordered)
    (listed : ListsRules node.data rules)
    (listedOther : ListsRules other.data reordered)
    (same : subject other.data session.memory session.request =
      subject node.data session.memory session.request)
    (depth : Int)
    (subflow : Subflow ω)
    (reports : reported? (validate support ⟨node, depth⟩ subflow session).1 = some messages) :
    ∃ others, others.Perm messages ∧
      reported? (validate support ⟨other, depth⟩ subflow session).1 = some others := by
  obtain ⟨verdicts, judged, rfl⟩ :=
    (reported?_validate_eq_some_iff listed depth subflow messages).1 reports
  obtain ⟨moved, judgedOther, movedPerm⟩ := List.perm_comp_forall₂ perm.symm judged
  refine ⟨complaints moved, (movedPerm.filter _).map _, ?_⟩
  rw [reported?_validate_eq_some_iff listedOther depth subflow, same]
  exact ⟨moved, judgedOther, rfl⟩

/-- Whether a value is accepted, rejected, or not judged because a rule fails, does not depend on
the order of the rules. -/
theorem verdict_eq_of_perm
    {other : Node}
    {reordered : List Fields}
    (perm : rules.Perm reordered)
    (listed : ListsRules node.data rules)
    (listedOther : ListsRules other.data reordered)
    (same : subject other.data session.memory session.request =
      subject node.data session.memory session.request)
    (depth : Int)
    (subflow : Subflow ω) :
    (reported? (validate support ⟨other, depth⟩ subflow session).1).map List.isEmpty =
      (reported? (validate support ⟨node, depth⟩ subflow session).1).map List.isEmpty := by
  cases reports : reported? (validate support ⟨node, depth⟩ subflow session).1 with
  | some messages =>
      obtain ⟨others, othersPerm, reportsOther⟩ :=
        exists_reported?_of_perm perm listed listedOther same depth subflow reports
      rw [reportsOther]
      exact congrArg some othersPerm.isEmpty_eq
  | none =>
      cases reportsOther : reported? (validate support ⟨other, depth⟩ subflow session).1 with
      | none => rfl
      | some others =>
          obtain ⟨messages, -, found⟩ := exists_reported?_of_perm perm.symm listedOther listed
            same.symm depth subflow reportsOther
          rw [reports] at found
          cases found

end Node

/-- A validation node is left in just the ways that are told of its rules, all of which are put to
one value. Rules in two parts report what the parts report, one after the other; and whether the
value is accepted, rejected or not judged does not depend on the order of the rules. -/
theorem validate_iff_validates
    {node : Node}
    {rules : List Fields}
    (listed : ListsRules node.data rules)
    (support : Rules.Support)
    (depth : Int)
    (subflow : Subflow ω)
    (session : Session ω) :
    let value := subject node.data session.memory session.request
    let ending (other : Node) := validate support ⟨other, depth⟩ subflow session
    (∀ answer final, ending node = (answer, final) ↔
      Validates (ruling support session.request value) value node.data rules session
        answer final) ∧
    (∀ (one other : Node) (first second : List Fields),
      rules = first ++ second →
      ListsRules one.data first →
      ListsRules other.data second →
      subject one.data session.memory session.request = value →
      subject other.data session.memory session.request = value →
      reported? (ending node).1 = (reported? (ending one).1).bind fun messages =>
        (reported? (ending other).1).map (messages ++ ·)) ∧
    (∀ (other : Node) (reordered : List Fields),
      rules.Perm reordered →
      ListsRules other.data reordered →
      subject other.data session.memory session.request = value →
      (reported? (ending other).1).map List.isEmpty =
        (reported? (ending node).1).map List.isEmpty) := by
  intro value ending
  refine ⟨fun answer final => ⟨?_, ?_⟩, ?_, ?_⟩
  · intro ended
    obtain ⟨told, reached, validates⟩ := exists_validates
      (ruling support session.request value) value node.data rules session
    have left := validate_of_validates listed validates depth subflow
    obtain ⟨rfl, rfl⟩ := Prod.mk.inj (ended.symm.trans left)
    exact validates
  · intro validates
    exact validate_of_validates listed validates depth subflow
  · rintro one other first second rfl listedFirst listedSecond sameFirst sameSecond
    exact reported?_append listed listedFirst listedSecond sameFirst sameSecond depth subflow
  · intro other reordered perm listedOther same
    exact verdict_eq_of_perm perm listed listedOther same depth subflow

namespace Sample

/-- The rules for a name: it is there, the host program finds it free, and it is no number. -/
def nameRules : List Fields :=
  [[(.text "message", .text "Choose a name")],
    [(.text "type", .text "custom"), (.text "function", .text "free")],
    [(.text "type", .text "numeric")]]

/-- A node that validates an empty name, with an action that is none among its actions. -/
def signup : Node where
  id := "signup"
  data := [(.text "value", .text ""), (.text "rules", .list (nameRules.map .object)),
    (.text "errorVariable", .text "errors"),
    (.text "onFailure", .list [.text "stop",
      .record [("type", .text "setVariable"), ("name", .text "status"), ("value", .int 422)]])]

/-- No name is free, and nothing is said about it. -/
def noneFree : Rules.Support where
  predicate? name :=
    if name = "free" then
      some fun _ _ _ => .ok (.record [("valid", .bool false), ("message", .null)])
    else none

end Sample

/-- A rule without a message counts as one that the value does not pass. -/
theorem validate_iff_validates_signup :
    ListsRules Sample.signup.data Sample.nameRules ∧
    validate Sample.noneFree ⟨Sample.signup, 0⟩ (fun _ _ => pure none) { world := () } =
      (.ok (.leaveWith "failure"
          (.list [.text "Choose a name", .null, .text "Must be a number"])),
        { memory :=
            { bindings := [("errors", .list [.text "Choose a name", .null,
                .text "Must be a number"]), ("status", .int 422)] },
          world := () }) := by
  have listed : ListsRules Sample.signup.data Sample.nameRules := .inl rfl
  obtain ⟨told, -⟩ :=
    validate_iff_validates listed Sample.noneFree 0 (fun _ _ => pure none) { world := () }
  refine ⟨listed, (told _ _).2 ?_⟩
  exact .complains (.cons rfl (.cons rfl (.cons rfl .nil))) rfl (List.cons_ne_nil _ _)

end Nodes
end RequestFlow
