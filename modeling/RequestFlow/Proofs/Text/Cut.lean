import Mathlib.Data.List.DropRight
import RequestFlow.Text.Blank
import RequestFlow.Text.CharSet

/-!
# Cutting texts

A text is cut at separators into parts that have none, and characters are cut off its ends as long
as they satisfy a test.
-/

namespace RequestFlow
namespace Text

/-! ## Parts between separators -/

theorem splitAt_ne_nil
    (separator : Char)
    (text : List Char) :
    splitAt separator text ≠ [] := by
  cases text with
  | nil => simp [splitAt]
  | cons character rest =>
      unfold splitAt
      split
      · simp
      · split <;> simp

/-- A text without a separator is one part. -/
theorem splitAt_of_not_mem
    {separator : Char}
    {part : List Char}
    (absent : separator ∉ part) :
    splitAt separator part = [part] := by
  induction part with
  | nil => rfl
  | cons character rest inductionHypothesis =>
      rw [List.mem_cons, not_or] at absent
      rw [splitAt, if_neg (Ne.symm absent.1), inductionHypothesis absent.2]

/-- The first separator ends the first part. -/
theorem splitAt_append
    {separator : Char}
    {part : List Char}
    (absent : separator ∉ part)
    (rest : List Char) :
    splitAt separator (part ++ separator :: rest) = part :: splitAt separator rest := by
  induction part with
  | nil => simp [splitAt]
  | cons character part inductionHypothesis =>
      rw [List.mem_cons, not_or] at absent
      rw [List.cons_append, splitAt, if_neg (Ne.symm absent.1), inductionHypothesis absent.2]

/-- A part has no separator in it, and none but the characters of the text. -/
theorem mem_of_mem_splitAt
    {separator : Char}
    {text part : List Char}
    (isPart : part ∈ splitAt separator text) :
    ∀ character ∈ part, character ∈ text ∧ character ≠ separator := by
  induction text generalizing part with
  | nil => simp_all [splitAt]
  | cons first rest inductionHypothesis =>
      intro character member
      unfold splitAt at isPart
      split at isPart
      · rcases List.mem_cons.1 isPart with rfl | later
        · simp at member
        · have inside := inductionHypothesis later character member
          exact ⟨List.mem_cons_of_mem first inside.1, inside.2⟩
      · next different =>
          split at isPart
          · next nothing => exact absurd nothing (splitAt_ne_nil separator rest)
          · next head parts parts_eq =>
              rw [parts_eq] at inductionHypothesis
              rcases List.mem_cons.1 isPart with rfl | later
              · rcases List.mem_cons.1 member with rfl | inHead
                · exact ⟨by simp, different⟩
                · have inside := inductionHypothesis (by simp) character inHead
                  exact ⟨List.mem_cons_of_mem first inside.1, inside.2⟩
              · have inside := inductionHypothesis (by simp [later]) character member
                exact ⟨List.mem_cons_of_mem first inside.1, inside.2⟩

/-- The parts, each behind a separator, are the text behind a separator. -/
theorem flatMap_splitAt
    (separator : Char)
    (text : List Char) :
    (splitAt separator text).flatMap (separator :: ·) = separator :: text := by
  induction text with
  | nil => rfl
  | cons character rest inductionHypothesis =>
      unfold splitAt
      split
      · next same =>
          rw [List.flatMap_cons, inductionHypothesis, same]
          rfl
      · split
        · next nothing => exact absurd nothing (splitAt_ne_nil separator rest)
        · next part parts parts_eq =>
            rw [parts_eq, List.flatMap_cons, List.cons_append] at inductionHypothesis
            rw [List.flatMap_cons, List.cons_append, List.cons_append,
              (List.cons.inj inductionHypothesis).2]

/-- A text is known from its parts. -/
theorem splitAt_injective (separator : Char) : Function.Injective (splitAt separator) := by
  intro text other same
  have whole := congrArg (List.flatMap (separator :: ·)) same
  simp only [flatMap_splitAt] at whole
  exact (List.cons.inj whole).2

/-! ## Ends that are cut off -/

variable {test : Char → Bool} {separator character : Char} {text : List Char}

/-- Cutting stops at a character that does not satisfy the test. -/
theorem dropWhile_append_cons
    (stops : test character = false)
    (front text : List Char) :
    (front ++ character :: text).dropWhile test = front.dropWhile test ++ character :: text := by
  rw [List.dropWhile_append]
  split
  · next all =>
      rw [List.isEmpty_iff.1 all, List.dropWhile_cons_of_neg (by simp [stops])]
      rfl
  · rfl

theorem dropEndWhile_append
    (stops : test character = false)
    (front text : List Char) :
    dropEndWhile test (front ++ character :: text) =
      front ++ character :: dropEndWhile test text := by
  unfold dropEndWhile
  rw [List.reverse_append, List.reverse_cons, List.append_assoc, List.singleton_append,
    dropWhile_append_cons stops]
  simp

theorem dropEndWhile_eq_rdropWhile
    (test : Char → Bool)
    (text : List Char) :
    dropEndWhile test text = text.rdropWhile test := rfl

/-- What satisfies the test altogether is cut off the end of a text. -/
theorem dropEndWhile_append_of_forall
    {back : List Char}
    (satisfied : ∀ character ∈ back, test character = true)
    (front : List Char) :
    dropEndWhile test (front ++ back) = dropEndWhile test front := by
  unfold dropEndWhile
  rw [List.reverse_append, List.dropWhile_append_of_pos]
  simpa using satisfied

/-- Nothing is cut off a text in which nothing satisfies the test. -/
theorem dropEndWhile_of_forall
    (unsatisfied : ∀ character ∈ text, test character = false) :
    dropEndWhile test text = text := by
  rw [dropEndWhile_eq_rdropWhile, List.rdropWhile_eq_self_iff]
  intro some_character
  rw [unsatisfied _ (List.getLast_mem some_character)]
  exact Bool.false_ne_true

/-- It makes no difference which end of a text is cut first. -/
theorem dropWhile_dropEndWhile
    (test : Char → Bool)
    (text : List Char) :
    (dropEndWhile test text).dropWhile test = dropEndWhile test (text.dropWhile test) := by
  simp only [dropEndWhile_eq_rdropWhile]
  induction text using List.reverseRecOn with
  | nil => rfl
  | append_singleton text character inductionHypothesis =>
      cases satisfied : test character with
      | true =>
          rw [List.rdropWhile_concat_pos test text character satisfied, inductionHypothesis,
            List.dropWhile_append]
          split
          · next all =>
              rw [List.isEmpty_iff.1 all, List.dropWhile_cons_of_pos satisfied]
              rfl
          · rw [List.rdropWhile_concat_pos test _ character satisfied]
      | false =>
          have stops : ¬ test character = true := Bool.eq_false_iff.1 satisfied
          rw [List.rdropWhile_concat_neg test text character stops,
            dropWhile_append_cons satisfied, List.rdropWhile_concat_neg test _ character stops]

theorem dropEndWhile_sublist
    (test : Char → Bool)
    (text : List Char) :
    (dropEndWhile test text).Sublist text := by
  have shorter := (List.dropWhile_sublist test (l := text.reverse)).reverse
  rwa [List.reverse_reverse] at shorter

/-- A run of one character at the front. -/
theorem exists_replicate_append_dropWhile
    (separator : Char)
    (text : List Char) :
    ∃ count, text = List.replicate count separator ++ text.dropWhile (· == separator) := by
  refine ⟨(text.takeWhile (· == separator)).length, ?_⟩
  have run : text.takeWhile (· == separator) =
      List.replicate (text.takeWhile (· == separator)).length separator := by
    apply List.eq_replicate_of_mem
    intro character member
    exact eq_of_beq (List.all_eq_true.1 List.all_takeWhile character member)
  rw [← run, List.takeWhile_append_dropWhile]

/-- A run of one character at the end. -/
theorem exists_dropEndWhile_append_replicate
    (separator : Char)
    (text : List Char) :
    ∃ count, text = dropEndWhile (· == separator) text ++ List.replicate count separator := by
  obtain ⟨count, reverse_eq⟩ := exists_replicate_append_dropWhile separator text.reverse
  refine ⟨count, ?_⟩
  rw [← List.reverse_inj, reverse_eq, dropEndWhile]
  simp [← reverse_eq]

end Text
end RequestFlow
