import RequestFlow.Json.Printer
import RequestFlow.Json.Reader

/-!
# Tokens of JSON read back

Words, whole numbers and texts are read back from how they are written, in front of anything that
does not prolong them. A word or a text needs nothing of what follows; a number must not be followed
by a digit, a point, or the mark of an exponent.
-/

namespace RequestFlow
namespace Json

open Numeral Text

/-! ## Blanks -/

theorem skipSpace_append
    {gap : List Char}
    (blank : ∀ character ∈ gap, isSpace character = true)
    (rest : List Char) :
    skipSpace (gap ++ rest) = skipSpace rest := by
  induction gap with
  | nil => rfl
  | cons character gap inductionHypothesis =>
      have first : isSpace character = true := blank character (by simp)
      rw [List.cons_append, skipSpace, List.dropWhile_cons_of_pos first]
      exact inductionHypothesis fun other member => blank other (by simp [member])

theorem skipSpace_cons
    {character : Char}
    (solid : isSpace character = false)
    (rest : List Char) :
    skipSpace (character :: rest) = character :: rest := by
  simp [skipSpace, solid]

/-- Blanks are skipped up to the first character that is none. -/
theorem skipSpace_append_cons
    {gap : List Char}
    (blank : ∀ character ∈ gap, isSpace character = true)
    {character : Char}
    (solid : isSpace character = false)
    (rest : List Char) :
    skipSpace (gap ++ character :: rest) = character :: rest := by
  rw [skipSpace_append blank]
  exact skipSpace_cons solid rest

/-! ## Whole numbers -/

/-- What follows does not prolong a number. -/
def EndsNumber (rest : List Char) : Prop :=
  ∀ character ∈ rest.head?,
    character.isDigit = false ∧ character ≠ '.' ∧ character ≠ 'e' ∧ character ≠ 'E'

theorem endsNumber_nil : EndsNumber [] := by
  simp [EndsNumber]

/-- The digits that are written are the digits that are read. -/
theorem splitDigits_append
    {digits rest : List Char}
    (all : ∀ character ∈ digits, character.isDigit = true)
    (ends : EndsNumber rest) :
    splitDigits (digits ++ rest) = (digits, rest) := by
  induction digits with
  | nil =>
      cases rest with
      | nil => rfl
      | cons character rest =>
          have stop := (ends character (by simp)).1
          simp [splitDigits, stop]
  | cons digit digits inductionHypothesis =>
      have first : digit.isDigit = true := all digit (by simp)
      have further := inductionHypothesis fun other member => all other (by simp [member])
      simp only [splitDigits, Prod.mk.injEq] at further ⊢
      simp [first, further]

theorem readFraction?_of_endsNumber
    {rest : List Char}
    (ends : EndsNumber rest) :
    readFraction? rest = none := by
  cases rest with
  | nil => rfl
  | cons character rest =>
      have point := (ends character (by simp)).2.1
      unfold readFraction?
      split
      · simp_all
      · rfl

theorem readExponent?_of_endsNumber
    {rest : List Char}
    (ends : EndsNumber rest) :
    readExponent? rest = none := by
  cases rest with
  | nil => rfl
  | cons character rest =>
      obtain ⟨_, _, lower, upper⟩ := ends character (by simp)
      simp [readExponent?, lower, upper]

theorem digitsValue_toDigits
    (number : Nat) :
    digitsValue (Nat.toDigits 10 number) = number := by
  have value := Nat.ofDigitChars_ten_toDigits (n := number)
  rw [Nat.ofDigitChars_eq_foldl] at value
  exact value

theorem isDigit_of_mem_toDigits
    (number : Nat) :
    ∀ character ∈ Nat.toDigits 10 number, character.isDigit = true :=
  fun _ member => Nat.isDigit_of_mem_toDigits (by decide) (by decide) member

/-- No number but zero is written with a zero in front. -/
theorem head?_toDigits_ne_zero
    {number : Nat}
    (positive : 0 < number) :
    (Nat.toDigits 10 number).head? ≠ some '0' := by
  induction number using Nat.strongRecOn with
  | ind number inductionHypothesis =>
      by_cases small : number < 10
      · rw [Nat.toDigits_of_lt_base small]
        simp only [List.head?_cons, ne_eq, Option.some.injEq, Nat.digitChar_eq_zero]
        omega
      · rw [Nat.toDigits_of_base_le (by decide) (by omega), List.head?_append]
        have front := inductionHypothesis (number / 10) (by omega) (by omega)
        cases head : (Nat.toDigits 10 (number / 10)).head? with
        | none => simp [Nat.toDigits_ne_nil] at head
        | some digit => simpa [head] using front

/-- The digits that are written are the whole number that is read. -/
theorem splitWhole_toDigits
    (number : Nat)
    {rest : List Char}
    (ends : EndsNumber rest) :
    splitWhole (Nat.toDigits 10 number ++ rest) = (Nat.toDigits 10 number, rest) := by
  rcases Nat.eq_zero_or_pos number with rfl | positive
  · rfl
  · have front := head?_toDigits_ne_zero positive
    unfold splitWhole
    split
    · next after input_eq =>
        cases digits : Nat.toDigits 10 number with
        | nil => exact absurd digits Nat.toDigits_ne_nil
        | cons digit others => simp_all
    · exact splitDigits_append (isDigit_of_mem_toDigits number) ends

/-- The digits of a number without its sign are read as that number. -/
theorem readNumber_toDigits
    {number : Nat}
    (short : (Nat.toDigits 10 number).length ≤ digitLimit)
    (negative : Bool)
    {rest : List Char}
    (ends : EndsNumber rest) :
    readNumber negative (Nat.toDigits 10 number ++ rest) =
      .ok (.int (if negative then -(number : Int) else number), rest) := by
  have within : ¬digitLimit < (Nat.toDigits 10 number).length := by omega
  simp [readNumber, splitWhole_toDigits number ends, readFraction?_of_endsNumber ends,
    readExponent?_of_endsNumber ends, within, digitsValue_toDigits, Nat.toDigits_ne_nil]

/-- A digit is no letter, no sign, and opens nothing. -/
theorem ne_of_isDigit
    {character other : Char}
    (digit : character.isDigit = true)
    (different : other.isDigit = false) :
    other ≠ character := by
  rintro rfl
  simp_all

/-- A digit starts no word. -/
theorem findSome?_words_digit
    {digit : Char}
    (isDigit : digit.isDigit = true)
    (rest : List Char) :
    (words.findSome? fun entry =>
      (dropWord? entry.1 (digit :: rest)).map fun after => (entry.2, after)) = none := by
  have different : ∀ other : Char, other.isDigit = false → other ≠ digit :=
    fun _ => ne_of_isDigit isDigit
  simp [words, dropWord?, different]

/-- A minus sign in front of a digit starts no word. -/
theorem findSome?_words_minus
    {digit : Char}
    (isDigit : digit.isDigit = true)
    (rest : List Char) :
    (words.findSome? fun entry =>
      (dropWord? entry.1 ('-' :: digit :: rest)).map fun after => (entry.2, after)) = none := by
  have different : ∀ other : Char, other.isDigit = false → other ≠ digit :=
    fun _ => ne_of_isDigit isDigit
  simp [words, dropWord?, different]

/-- A whole number is read back. -/
theorem readScalar_intText
    {number : Int}
    (short : (Nat.toDigits 10 number.natAbs).length ≤ digitLimit)
    {rest : List Char}
    (ends : EndsNumber rest) :
    readScalar (intText number ++ rest) = .ok (.int number, rest) := by
  have some_digit : Nat.toDigits 10 number.natAbs ≠ [] := Nat.toDigits_ne_nil
  have all := isDigit_of_mem_toDigits number.natAbs
  have read := fun negative => readNumber_toDigits short negative ends
  cases digits : Nat.toDigits 10 number.natAbs with
  | nil => exact absurd digits some_digit
  | cons digit others =>
      have first : digit.isDigit = true := all digit (by simp [digits])
      simp only [digits, List.cons_append] at read
      by_cases negative : number < 0
      · have size : -(number.natAbs : Int) = number := by omega
        simp only [intText, negative, if_true, digits, List.cons_append, readScalar,
          findSome?_words_minus first, read, size]
      · have size : (number.natAbs : Int) = number := by omega
        have unsigned : digit ≠ '-' := fun equal => ne_of_isDigit first (by decide) equal.symm
        simp only [intText, negative, if_false, digits, List.cons_append, readScalar,
          findSome?_words_digit first]
        split
        · simp_all
        · simp [read, size]

/-- A whole number starts with a minus sign or a digit. -/
theorem intText_cons
    (number : Int) :
    ∃ first rest, intText number = first :: rest ∧ (first = '-' ∨ first.isDigit = true) := by
  unfold intText
  split
  · exact ⟨'-', _, rfl, Or.inl rfl⟩
  · cases digits : Nat.toDigits 10 number.natAbs with
    | nil => exact absurd digits Nat.toDigits_ne_nil
    | cons digit others =>
        exact ⟨digit, others, rfl,
          Or.inr (isDigit_of_mem_toDigits number.natAbs digit (by simp [digits]))⟩

/-- The words for null and the truth values are read back. -/
theorem readScalar_null
    (rest : List Char) :
    readScalar ("null".toList ++ rest) = .ok (.null, rest) := by
  simp [readScalar, words, dropWord?]

theorem readScalar_bool
    (flag : Bool)
    (rest : List Char) :
    readScalar ((if flag then "true" else "false").toList ++ rest) = .ok (.bool flag, rest) := by
  cases flag <;> simp [readScalar, words, dropWord?]

end Json
end RequestFlow
