import RequestFlow.Proofs.Json.RoundTrip
import RequestFlow.Proofs.Nodes.Loop

/-!
# Loops as sequences of walks

What a loop does is told here without its recursion: the walk before it, then for each of its items
in turn the item is bound and the walk for it is done, up to the first walk that fails. The items
are fixed before the first walk, whatever the walks do, and all that has been done stays.
-/

namespace RequestFlow
namespace Nodes

variable {ω : Type}

/-! ## What a loop works with -/

/-- The items of a loop: those of the JSON in a text, and those of any other value itself. A text
that is not JSON has none. -/
def fixedItems : Value → List Item
  | .text content =>
    match Json.read content with
    | .ok value => itemsOf value
    | .error _ => []
  | value => itemsOf value

/-- The items are read, unless there is a number of too many digits in a text. -/
theorem loopItems_eq_fixedItems
    {value : Value}
    (readable : ∀ content, value = .text content →
      ∀ count, Json.read content ≠ .error (.tooManyDigits count)) :
    loopItems value = .ok (fixedItems value) := by
  cases value with
  | text content =>
      have short := readable content rfl
      rw [loopItems, fixedItems, Json.embedded?]
      cases result : Json.read content with
      | ok value => rfl
      | error fault =>
          cases fault with
          | malformed => rfl
          | tooManyDigits count => exact absurd result (short count)
  | _ => rfl

/-- The walk at an output, if that output leads to a node. -/
def walkIfWired
    (subflow : Subflow ω)
    (node : Node)
    (output : String) : Transition (Session ω) Unit :=
  match node.next? (some output) with
  | none => pure ()
  | some _ => do
    let _ ← subflow node (some output)
    pure ()

/-- An output that is not declared leads nowhere. -/
theorem next?_of_undeclared
    {node : Node}
    {output : String}
    (undeclared : node.hasOutput output = false) :
    node.next? (some output) = none := by
  have absent : node.outputs.get? output = none := by
    rw [Node.hasOutput, Assoc.has_eq_isSome_get?] at undeclared
    exact Option.not_isSome_iff_eq_none.1 (Bool.eq_false_iff.1 undeclared)
  by_cases isEmpty : output = ""
  · simp [Node.next?, nonEmpty?, isEmpty]
  · simp [Node.next?, nonEmpty?, isEmpty, absent]

/-- An output that is declared and leads nowhere starts no walk either. -/
theorem walkIfDeclared_eq_walkIfWired
    {subflow : Subflow ω}
    {node : Node}
    (unwired : ∀ output, node.next? (some output) = none →
      subflow node (some output) = pure none)
    (output : String) :
    walkIfDeclared subflow node output = walkIfWired subflow node output := by
  unfold walkIfDeclared walkIfWired
  cases next : node.next? (some output) with
  | none =>
      rw [unwired output next]
      split <;> rfl
  | some start =>
      cases declared : node.hasOutput output with
      | true => rfl
      | false =>
          rw [next?_of_undeclared declared] at next
          cases next

/-! ## What a loop does -/

/-- The items are bound one after another, and the walk for each of them succeeds. -/
inductive CarriesOut
    (walk : Transition (Session ω) Unit)
    (node : Node) : List Item → Session ω → Session ω → Prop
  | nil {session : Session ω} : CarriesOut walk node [] session session
  | cons {item : Item} {items : List Item} {session after final : Session ω} :
      walk (bound node item session) = (.ok (), after) →
      CarriesOut walk node items after final →
      CarriesOut walk node (item :: items) session final

/-- A loop leaves with a reply and a session: it fails before its items, it fails at the first item
whose walk fails, or it carries out all of them. -/
inductive Loops
    (before walk : Transition (Session ω) Unit)
    (node : Node)
    (items : List Item)
    (session : Session ω) : Reply → Session ω → Prop
  | failedBefore {fault : Fault} {final : Session ω} :
      before session = (.error fault, final) →
      Loops before walk node items session
        (.leaveWith "error" (.record [("message", .text "Error in beforeLoop"),
          ("error", .text fault.message)])) final
  | failedAt {ready reached final : Session ω} {done later : List Item} {item : Item}
      {fault : Fault} :
      before session = (.ok (), ready) →
      items = done ++ item :: later →
      CarriesOut walk node done ready reached →
      walk (bound node item reached) = (.error fault, final) →
      Loops before walk node items session
        (.leaveWith "error" (.record [("message", .text "Error in inLoop"),
          ("index", item.index), ("error", .text fault.message)])) final
  | finished {ready final : Session ω} :
      before session = (.ok (), ready) →
      CarriesOut walk node items ready final →
      Loops before walk node items session
        (.leaveWith "afterLoop" (.record [("message", .text "Loop node executed successfully"),
          ("count", .int items.length), ("itemVarName", .text (itemVariable node))])) final

/-- Items are all carried out, or there is a first one whose walk fails. -/
theorem carriesOut_or_fails
    (walk : Transition (Session ω) Unit)
    (node : Node)
    (items : List Item)
    (session : Session ω) :
    (∃ final, CarriesOut walk node items session final) ∨
      ∃ done item later reached fault final,
        items = done ++ item :: later ∧
        CarriesOut walk node done session reached ∧
        walk (bound node item reached) = (.error fault, final) := by
  induction items generalizing session with
  | nil => exact .inl ⟨session, .nil⟩
  | cons item items inductionHypothesis =>
      rcases walked : walk (bound node item session) with ⟨fault | _, after⟩
      · exact .inr ⟨[], item, items, session, fault, after, rfl, .nil, walked⟩
      · rcases inductionHypothesis after with ⟨final, carried⟩ | failed
        · exact .inl ⟨final, .cons walked carried⟩
        · obtain ⟨done, failing, later, reached, fault, final, rfl, carried, fails⟩ := failed
          exact .inr ⟨item :: done, failing, later, reached, fault, final, rfl,
            .cons walked carried, fails⟩

/-- Every loop leaves in one of the three ways. -/
theorem exists_loops
    (before walk : Transition (Session ω) Unit)
    (node : Node)
    (items : List Item)
    (session : Session ω) :
    ∃ reply final, Loops before walk node items session reply final := by
  rcases begun : before session with ⟨fault | _, ready⟩
  · exact ⟨_, _, .failedBefore begun⟩
  · rcases carriesOut_or_fails walk node items ready with ⟨final, carried⟩ | failed
    · exact ⟨_, _, .finished begun carried⟩
    · obtain ⟨done, item, later, reached, fault, final, split, carried, fails⟩ := failed
      exact ⟨_, _, .failedAt begun split carried fails⟩

section Loop

variable {subflow : Subflow ω} {node : Node} {items : List Item} {session final : Session ω}
  {reply : Reply}

/-- After items that have been carried out, the loop is at those that are left. -/
theorem eachItem_of_carriesOut
    (carried : CarriesOut (walkIfDeclared subflow node "inLoop") node items session final)
    (processed : Nat)
    (later : List Item) :
    eachItem subflow node processed (items ++ later) session =
      eachItem subflow node (processed + items.length) later final := by
  induction carried generalizing processed with
  | nil => rfl
  | @cons item items session after final walked carried inductionHypothesis =>
      have further : processed + 1 + items.length = processed + (item :: items).length := by
        rw [List.length_cons]
        omega
      rw [List.cons_append, eachItem_cons, walked]
      simp only
      rw [inductionHypothesis (processed + 1), further]

/-- The loop leaves in the way that is told. -/
theorem loop_of_loops
    (read : loopItems (node.data.get "items") = .ok items)
    (loops : Loops (walkIfDeclared subflow node "beforeLoop")
      (walkIfDeclared subflow node "inLoop") node items session reply final)
    (depth : Int) :
    loop ⟨node, depth⟩ subflow session = (.ok reply, final) := by
  rw [loop_apply, read]
  cases loops with
  | failedBefore fails =>
      simp only [fails]
      rfl
  | failedAt begun split carried fails =>
      simp only [begun, split, eachItem_of_carriesOut carried, eachItem_cons, fails]
      rfl
  | finished begun carried =>
      have all := eachItem_of_carriesOut carried 0 []
      rw [List.append_nil, Nat.zero_add] at all
      simp only [begun, all]
      rfl

end Loop

/-- A loop is a sequence of walks. It leaves in just the ways that are told of its walks, and it
leaves at `afterLoop` if and only if none of them fails. The walks may be any, as long as an output
that leads nowhere starts none; and no number in a text of items has too many digits. -/
theorem loop_iff_loops
    {subflow : Subflow ω}
    {node : Node}
    (unwired : ∀ output, node.next? (some output) = none →
      subflow node (some output) = pure none)
    (readable : ∀ content, node.data.get "items" = .text content →
      ∀ count, Json.read content ≠ .error (.tooManyDigits count))
    (depth : Int)
    (session : Session ω) :
    let items := fixedItems (node.data.get "items")
    let before := walkIfWired subflow node "beforeLoop"
    let walk := walkIfWired subflow node "inLoop"
    (∀ answer final, loop ⟨node, depth⟩ subflow session = (answer, final) ↔
      ∃ reply, answer = .ok reply ∧ Loops before walk node items session reply final) ∧
    ((∃ payload, (loop ⟨node, depth⟩ subflow session).1 = .ok (.leaveWith "afterLoop" payload)) ↔
      ∃ ready final, before session = (.ok (), ready) ∧
        CarriesOut walk node items ready final) := by
  intro items before walk
  have read : loopItems (node.data.get "items") = .ok items := loopItems_eq_fixedItems readable
  have told : ∀ reply final, Loops before walk node items session reply final →
      loop ⟨node, depth⟩ subflow session = (.ok reply, final) := by
    intro reply final loops
    apply loop_of_loops read
    rw [walkIfDeclared_eq_walkIfWired unwired, walkIfDeclared_eq_walkIfWired unwired]
    exact loops
  obtain ⟨reply, final, loops⟩ := exists_loops before walk node items session
  have leaves := told reply final loops
  refine ⟨fun answer reached => ⟨?_, ?_⟩, ⟨?_, ?_⟩⟩
  · intro ended
    rw [leaves] at ended
    cases ended
    exact ⟨reply, rfl, loops⟩
  · rintro ⟨other, rfl, otherLoops⟩
    exact told other reached otherLoops
  · rintro ⟨payload, leavesAfter⟩
    rw [leaves] at leavesAfter
    cases loops with
    | failedBefore fails => simp [Reply.leaveWith] at leavesAfter
    | failedAt begun split carried fails => simp [Reply.leaveWith] at leavesAfter
    | finished begun carried => exact ⟨_, _, begun, carried⟩
  · rintro ⟨ready, ended, begun, carried⟩
    rw [told _ _ (.finished begun carried)]
    exact ⟨_, rfl⟩

namespace Sample

/-- A loop over the numbers of a JSON text, for each of which the node `work` is walked. -/
def numbers : Node where
  id := "each"
  data := [(.text "items", .text "[1,2,3]")]
  outputs := [("beforeLoop", none), ("inLoop", some ⟨some "work", []⟩)]

/-- The walk at an output fails for the number two. -/
def working : Subflow Unit := fun node output =>
  match node.next? output with
  | none => pure none
  | some start => do
    match ← .read fun session => session.memory.getVariable? "loopItem" with
    | some (.int 2) => .fail (.flow "two")
    | _ => pure (some { start })

end Sample

/-- The second of the numbers is bound when the loop leaves, and the third one is not. -/
theorem loop_iff_loops_numbers :
    (∀ output, Sample.numbers.next? (some output) = none →
      Sample.working Sample.numbers (some output) = pure none) ∧
    (∀ content, Sample.numbers.data.get "items" = .text content →
      ∀ count, Json.read content ≠ .error (.tooManyDigits count)) ∧
    loop ⟨Sample.numbers, 0⟩ Sample.working { world := () } =
      (.ok (.leaveWith "error" (.record [("message", .text "Error in inLoop"),
          ("index", .int 1), ("error", .text "two")])),
        bound Sample.numbers ⟨.int 1, .int 2⟩
          (bound Sample.numbers ⟨.int 0, .int 1⟩ { world := () })) := by
  have unwired : ∀ output, Sample.numbers.next? (some output) = none →
      Sample.working Sample.numbers (some output) = pure none := by
    intro output unwired
    rw [Sample.working, unwired]
  have read : Json.read "[1,2,3]" = .ok (.list [.int 1, .int 2, .int 3]) := by
    have data : Json.IsData (.list [.int 1, .int 2, .int 3]) := by
      apply Json.IsData.list
      simp [Json.IsData.int 1 (by decide), Json.IsData.int 2 (by decide),
        Json.IsData.int 3 (by decide)]
    have written : "[1,2,3]".toList =
        Json.render Json.compact (.list [.int 1, .int 2, .int 3]) := by
      decide
    rw [Json.read, written]
    exact Json.readChars_render Json.compact_isBlank data
  have given : Sample.numbers.data.get "items" = .text "[1,2,3]" := rfl
  have readable : ∀ content, Sample.numbers.data.get "items" = .text content →
      ∀ count, Json.read content ≠ .error (.tooManyDigits count) := by
    intro content same count
    cases given.symm.trans same
    rw [read]
    intro fails
    cases fails
  obtain ⟨told, -⟩ := loop_iff_loops unwired readable 0 { world := () }
  have items : fixedItems (Sample.numbers.data.get "items") =
      [⟨.int 0, .int 1⟩] ++ ⟨.int 1, .int 2⟩ :: [⟨.int 2, .int 3⟩] := by
    rw [given, fixedItems, read]
    rfl
  have begun : walkIfWired Sample.working Sample.numbers "beforeLoop" { world := () } =
      (.ok (), { world := () }) := rfl
  have first : CarriesOut (walkIfWired Sample.working Sample.numbers "inLoop") Sample.numbers
      [⟨.int 0, .int 1⟩] { world := () }
      (bound Sample.numbers ⟨.int 0, .int 1⟩ { world := () }) :=
    .cons rfl .nil
  have second : walkIfWired Sample.working Sample.numbers "inLoop"
      (bound Sample.numbers ⟨.int 1, .int 2⟩
        (bound Sample.numbers ⟨.int 0, .int 1⟩ { world := () })) =
      (.error (.flow "two"), bound Sample.numbers ⟨.int 1, .int 2⟩
        (bound Sample.numbers ⟨.int 0, .int 1⟩ { world := () })) := rfl
  exact ⟨unwired, readable, (told _ _).2 ⟨_, rfl, .failedAt begun items first second⟩⟩

end Nodes
end RequestFlow
