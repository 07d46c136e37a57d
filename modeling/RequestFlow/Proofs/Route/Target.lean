import RequestFlow.Proofs.Assoc
import RequestFlow.Proofs.Route.Segments
import RequestFlow.Proofs.Text.Percent
import RequestFlow.Route.Pattern

/-!
# Targets of requests and what is matched

A target is made from a pattern by putting values, percent-encoded, in the place of its parameters.
The path that is matched is the target decoded once. Matching decodes again, and it cuts blanks off
the end of the path, so the values come back as they were only if neither changes them.
-/

namespace RequestFlow
namespace Route

open Text

/-- The part of a target that stands for a segment, with values for the parameters. -/
def Segment.filled (value : String → String) : Segment → List Char
  | .literal content => content
  | .parameter name => percentEncode (value (String.ofList name)).toList

/-- The part of a path that stands for a segment, after it has been decoded once. -/
def Segment.decoded (value : String → String) : Segment → List Char
  | .literal content => percentDecode content
  | .parameter name => (value (String.ofList name)).toList

/-- The target of a request for a pattern, with values for its parameters. -/
def target (shape : List Segment) (value : String → String) : List Char :=
  joined (shape.map (Segment.filled value))

/-- The names of the parameters of a pattern, in order. -/
def parameterNames : List Segment → List String
  | [] => []
  | .literal _ :: rest => parameterNames rest
  | .parameter name :: rest => String.ofList name :: parameterNames rest

/-- The parameters with their values, as they were put into the target. -/
def given (shape : List Segment) (value : String → String) : Assoc String String :=
  (parameterNames shape).map fun name => (name, value name)

/-- The parameters with the values that matching gives them: each value is decoded, and the one at
the end of the path loses the blanks at its end before that. -/
def received (value : String → String) : List Segment → Assoc String String
  | [] => []
  | .literal _ :: rest => received value rest
  | [.parameter name] =>
    let last := (value (String.ofList name)).toList
    [(String.ofList name, String.ofList (percentDecode (trimEnd last)))]
  | .parameter name :: rest =>
    let inner := (value (String.ofList name)).toList
    (String.ofList name, String.ofList (percentDecode inner)) :: received value rest

variable {shape : List Segment} {value : String → String} {parts : List (List Char)}
  {found result : Assoc String String}

/-! ## The path of a target -/

theorem percentDecode_append_joined
    (front : List Char)
    (parts : List (List Char)) :
    percentDecode (front ++ joined parts) =
      percentDecode front ++ joined (parts.map percentDecode) := by
  induction parts generalizing front with
  | nil => simp
  | cons part parts inductionHypothesis =>
      rw [joined_cons, percentDecode_append_slash, inductionHypothesis]
      rfl

/-- The path is made up of the decoded segments. -/
theorem percentDecode_target
    (shape : List Segment)
    (value : String → String) :
    percentDecode (target shape value) = joined (shape.map (Segment.decoded value)) := by
  have each : (shape.map (Segment.filled value)).map percentDecode =
      shape.map (Segment.decoded value) := by
    rw [List.map_map]
    apply List.map_congr_left
    intro segment _
    cases segment with
    | literal content => rfl
    | parameter name => exact percentDecode_percentEncode _
  rw [target, ← each]
  exact percentDecode_append_joined [] _

/-! ## Matching -/

/-- A segment of a path is the literal that the pattern has in its place, or something in the place
of a parameter. -/
def Segment.Admits : Segment → List Char → Prop
  | .literal content, actual => content = actual
  | .parameter _, actual => actual ≠ []

/-- The parameters of a pattern with the decoded segments in their places. -/
def bindings : List Segment → List (List Char) → Assoc String String
  | .literal _ :: shape, _ :: parts => bindings shape parts
  | .parameter name :: shape, part :: parts =>
    (String.ofList name, String.ofList (percentDecode part)) :: bindings shape parts
  | _, _ => []

/-- Matching goes through exactly if the pattern admits every segment; it gives each parameter the
segment in its place, if their names differ from each other and from those that were found before.
-/
theorem matchSegments_eq_some_iff
    (distinct : (found.keys ++ parameterNames shape).Nodup) :
    matchSegments found shape parts = some result ↔
      List.Forall₂ (fun part segment => Segment.Admits segment part) parts shape ∧
        found ++ bindings shape parts = result := by
  induction shape generalizing found parts with
  | nil =>
      cases parts with
      | nil => simp [matchSegments, bindings]
      | cons part parts => simp [matchSegments]
  | cons segment shape inductionHypothesis =>
      cases parts with
      | nil => cases segment <;> simp [matchSegments]
      | cons part parts =>
          rw [List.forall₂_cons]
          cases segment with
          | literal content =>
              rw [matchSegments, Option.ite_none_right_eq_some, inductionHypothesis distinct,
                and_assoc]
              rfl
          | parameter name =>
              rw [parameterNames] at distinct
              have unlisted : String.ofList name ∉ found.keys := fun listed =>
                (List.nodup_append.1 distinct).2.2 _ listed _ List.mem_cons_self rfl
              have onward : (Assoc.keys (found ++ [(String.ofList name,
                  String.ofList (percentDecode part))]) ++ parameterNames shape).Nodup := by
                simpa [Assoc.keys] using distinct
              rw [matchSegments, Option.ite_none_left_eq_some,
                Assoc.put_of_not_mem_keys unlisted, inductionHypothesis onward, and_assoc,
                List.append_assoc]
              simp [Segment.Admits, bindings]

/-- The decoded segments of a target fit the segments that the pattern admits. -/
theorem fits_of_admits
    (slashless : ∀ name ∈ parameterNames shape, '/' ∉ (value name).toList)
    (admits : List.Forall₂ (fun part segment => Segment.Admits segment part) parts shape) :
    List.Forall₂ Fits (shape.map (Segment.decoded value)) parts := by
  induction admits with
  | nil => exact .nil
  | @cons part segment parts shape admitted others inductionHypothesis =>
      cases segment with
      | literal content =>
          obtain rfl : content = part := admitted
          exact .cons (.inl (length_percentDecode_le content)) (inductionHypothesis slashless)
      | parameter name =>
          rw [parameterNames, List.forall_mem_cons] at slashless
          exact .cons (.inr slashless.1) (inductionHypothesis slashless.2)

theorem Fits.trimEnd
    {part piece : List Char}
    (fits : Fits part piece) :
    Fits (trimEnd part) piece := by
  rcases fits with short | free
  · exact .inl (Nat.le_trans (dropEndWhile_sublist _ part).length_le short)
  · exact .inr fun slash => free ((dropEndWhile_sublist _ part).mem slash)

/-- The parameters are found with the values that are received. -/
theorem bindings_trimLast
    (shape : List Segment)
    (value : String → String) :
    bindings shape (trimLast (shape.map (Segment.decoded value))) = received value shape := by
  induction shape with
  | nil => rfl
  | cons segment shape inductionHypothesis =>
      cases shape with
      | nil => cases segment <;> rfl
      | cons next others =>
          cases segment with
          | literal content => exact inductionHypothesis
          | parameter name => exact congrArg (_ :: ·) inductionHypothesis

theorem pattern_ne_nil (declared : List Char) : pattern declared ≠ [] :=
  mt List.map_eq_nil_iff.1 (splitAt_ne_nil _ _)

/-- Matching the path of a target gives the parameters the values that are received. -/
theorem eq_received_of_match?
    {declared path : String}
    (distinct : (parameterNames (pattern declared.toList)).Nodup)
    (slashless : ∀ name ∈ parameterNames (pattern declared.toList), '/' ∉ (value name).toList)
    (decoded : path.toList = percentDecode (target (pattern declared.toList) value))
    (matched : match? declared path = some found) :
    found = received value (pattern declared.toList) := by
  have some_segment := pattern_ne_nil declared.toList
  rw [match?, decoded, percentDecode_target] at matched
  generalize pattern declared.toList = shape at *
  obtain ⟨admits, rfl⟩ :=
    (matchSegments_eq_some_iff (by simpa [Assoc.keys] using distinct)).1 matched
  have fits := forall₂_trimLast (fun _ _ => Fits.trimEnd) (fits_of_admits slashless admits)
  have cut : trimLast (shape.map (Segment.decoded value)) =
      segments (joined (shape.map (Segment.decoded value))) := by
    obtain ⟨first, others, rfl⟩ := List.exists_cons_of_ne_nil some_segment
    exact segments_eq_of_fits (trimEnd_append_joined [] _ _) fits
  rw [List.nil_append, ← cut, bindings_trimLast]

/-! ## Values that come back as they were -/

/-- Trimming and decoding both leave a text as it is, or shorten it for good. -/
theorem percentDecode_trimEnd_eq_iff (text : List Char) :
    percentDecode (trimEnd text) = text ↔ percentDecode text = text ∧ trimEnd text = text := by
  constructor
  · intro same
    have long : text.length ≤ (trimEnd text).length := by
      have shorter := length_percentDecode_le (trimEnd text)
      rwa [same] at shorter
    have kept : trimEnd text = text := (dropEndWhile_sublist _ text).eq_of_length_le long
    rw [kept] at same
    exact ⟨same, kept⟩
  · rintro ⟨plain, kept⟩
    rw [kept, plain]

/-- The parameters are received as they were given exactly if decoding changes none of the values,
and the value at the end of the path has no blank at its end. -/
theorem received_eq_given_iff
    (shape : List Segment)
    (value : String → String) :
    received value shape = given shape value ↔
      (∀ name ∈ parameterNames shape, percentDecode (value name).toList = (value name).toList) ∧
      ∀ name, shape.getLast? = some (.parameter name) →
        trimEnd (value (String.ofList name)).toList = (value (String.ofList name)).toList := by
  induction shape with
  | nil => simp [received, given, parameterNames]
  | cons segment shape inductionHypothesis =>
      cases segment with
      | literal content =>
          have last : ∀ name, (Segment.literal content :: shape).getLast? =
              some (.parameter name) ↔ shape.getLast? = some (.parameter name) := by
            intro name
            cases shape <;> simp
          simp only [last]
          exact inductionHypothesis
      | parameter name =>
          have text_eq_iff : ∀ (characters : List Char) (content : String),
              String.ofList characters = content ↔ characters = content.toList := by
            intro characters content
            rw [← String.toList_inj, String.toList_ofList]
          cases shape with
          | nil =>
              have whole := percentDecode_trimEnd_eq_iff (value (String.ofList name)).toList
              simpa [received, given, parameterNames, text_eq_iff] using whole
          | cons next others =>
              have last : (Segment.parameter name :: next :: others).getLast? =
                  (next :: others).getLast? := List.getLast?_cons_cons
              have onward : received value (.parameter name :: next :: others) =
                  (String.ofList name,
                    String.ofList (percentDecode (value (String.ofList name)).toList)) ::
                    received value (next :: others) := rfl
              have names : given (.parameter name :: next :: others) value =
                  (String.ofList name, value (String.ofList name)) ::
                    given (next :: others) value := rfl
              rw [onward, names, last, List.cons.injEq, Prod.mk.injEq, inductionHypothesis,
                parameterNames, List.forall_mem_cons]
              simp only [true_and, and_assoc, text_eq_iff (percentDecode _)]

/-- Values without percent signs come back as they were, if the path does not end in a blank. -/
theorem received_eq_given_of_plain
    (plain : ∀ name ∈ parameterNames shape, '%' ∉ (value name).toList)
    (ends : ∀ name, shape.getLast? = some (.parameter name) →
      trimEnd (value (String.ofList name)).toList = (value (String.ofList name)).toList) :
    received value shape = given shape value := by
  apply (received_eq_given_iff shape value).2
  refine ⟨?_, ends⟩
  intro name member
  exact percentDecode_of_not_mem (plain name member)

end Route
end RequestFlow
