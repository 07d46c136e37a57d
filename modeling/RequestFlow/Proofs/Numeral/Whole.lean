import RequestFlow.Proofs.Json.Token
import RequestFlow.Proofs.Numeral.Recognition

/-!
# Whole numbers in decimal

The decimal text of a whole number is a numeral, and the double that is read from it is the one
nearest to the number.
-/

namespace RequestFlow
namespace Numeral

open Text

variable {text : List Char}

/-! ## Runs of digits -/

theorem toNat_of_isDigit
    {character : Char}
    (digit : character.isDigit = true) :
    48 ≤ character.toNat ∧ character.toNat ≤ 57 := by
  simp only [Char.isDigit, Bool.and_eq_true, decide_eq_true_eq, ge_iff_le] at digit
  exact digit

/-- Digits are read to the end of the text. -/
theorem takeDigits_of_forall_isDigit
    (digits : ∀ character ∈ text, character.isDigit = true) :
    takeDigits text = (text.map fun digit => digit.toNat - 48, []) := by
  induction text with
  | nil => rfl
  | cons character text inductionHypothesis =>
      obtain ⟨digit, others⟩ := List.forall_mem_cons.1 digits
      have bounds := toNat_of_isDigit digit
      have value : digitValue? character = some (character.toNat - 48) := by
        simp [digitValue?, digit, show character.toNat < 128 by omega]
      rw [takeDigits, value, inductionHypothesis others]
      rfl

theorem valuesNumber_map (text : List Char) :
    valuesNumber (text.map fun digit => digit.toNat - 48) = digitsValue text := by
  rw [valuesNumber, List.foldl_map]
  rfl

/-! ## The text of a whole number -/

/-- The text of a whole number consists of digits and perhaps a minus sign. -/
theorem toNat_of_mem_intText
    {number : Int}
    {character : Char}
    (member : character ∈ intText number) :
    45 ≤ character.toNat ∧ character.toNat ≤ 57 := by
  have ofDigit : character ∈ Nat.toDigits 10 number.natAbs →
      45 ≤ character.toNat ∧ character.toNat ≤ 57 := by
    intro listed
    have bounds := toNat_of_isDigit (Json.isDigit_of_mem_toDigits _ character listed)
    omega
  unfold intText at member
  split at member
  · rcases List.mem_cons.1 member with rfl | listed
    · decide
    · exact ofDigit listed
  · exact ofDigit member

theorem toAscii_intText (number : Int) : toAscii (intText number) = intText number := by
  refine (List.map_congr_left fun character member => ?_).trans (List.map_id _)
  have bounds := toNat_of_mem_intText member
  rw [toAsciiChar, if_pos (by omega), id]

theorem trimAscii_intText (number : Int) : trimAscii (intText number) = intText number := by
  have filled : ∀ character ∈ intText number, isAsciiBlank character = false := by
    intro character member
    have bounds := toNat_of_mem_intText member
    rw [← Bool.not_eq_true, isAsciiBlank_iff]
    omega
  have trimmed := trimAscii_between (List.forall_mem_nil _) filled (List.forall_mem_nil _)
  rwa [List.append_nil, List.nil_append] at trimmed

theorem trimStart_intText (number : Int) : trimStart (intText number) = intText number := by
  obtain ⟨first, rest, text_eq, -⟩ := Json.intText_cons number
  have bounds := toNat_of_mem_intText (text_eq ▸ List.mem_cons_self : first ∈ intText number)
  rw [trimStart, text_eq]
  refine List.dropWhile_cons_of_neg ?_
  simp only [isBlank, Bool.or_eq_true, Bool.and_eq_true, decide_eq_true_eq, beq_iff_eq]
  omega

theorem takeSign_intText (number : Int) :
    takeSign (intText number) = (decide (number < 0), Nat.toDigits 10 number.natAbs) := by
  by_cases negative : number < 0
  · rw [intText, if_pos negative, takeSign_cons, if_pos rfl, decide_eq_true negative]
  · rw [intText, if_neg negative, decide_eq_false negative]
    cases digits : Nat.toDigits 10 number.natAbs with
    | nil => exact absurd digits Nat.toDigits_ne_nil
    | cons digit others =>
        have isDigit : digit.isDigit = true :=
          Json.isDigit_of_mem_toDigits number.natAbs digit (by simp [digits])
        rw [takeSign_cons, if_neg, if_neg]
        · rintro rfl
          cases isDigit
        · rintro rfl
          cases isDigit

/-- The numeral of a whole number has neither a fraction nor an exponent. -/
theorem takeDecimal?_intText (number : Int) :
    takeDecimal? (intText number) =
      some (⟨decide (number < 0),
        (Nat.toDigits 10 number.natAbs).map fun digit => digit.toNat - 48, [], 0⟩, []) := by
  have digits := takeDigits_of_forall_isDigit (Json.isDigit_of_mem_toDigits number.natAbs)
  have some_digit : ((Nat.toDigits 10 number.natAbs).map fun digit => digit.toNat - 48).isEmpty =
      false := by
    simp [Nat.toDigits_ne_nil]
  rw [takeDecimal?_eq, takeSign_intText]
  simp only [digits, some_digit, takeFraction, takeExponent, Bool.false_and]
  rfl

/-- The text of a whole number is recognised as a numeral. -/
theorem isDecimal_intText (number : Int) : isDecimal (intText number) = true := by
  rw [isDecimal, trimStart_intText, takeDecimal?_intText]
  rfl

/-- Digits without an exponent are rounded as the whole number that they denote. -/
theorem ofDecimal_zero
    {digits : Nat}
    (length : Double.decimalLength digits ≤ 400)
    (negative : Bool) :
    Double.ofDecimal negative digits 0 = Double.ofQuotient negative digits 1 := by
  unfold Double.ofDecimal
  by_cases zero : digits = 0
  · simp [zero, Double.ofQuotient]
  · have least : ¬(Double.decimalLength digits : Int) < -400 := by omega
    have most : ¬400 < (Double.decimalLength digits : Int) := by omega
    simp [zero, least, most]

/-- The text of a whole number is read as the double that is nearest to it. -/
theorem readDouble?_intText
    {number : Int}
    (length : (Nat.toDigits 10 number.natAbs).length ≤ 400) :
    readDouble? (intText number) = some (.ofInt number) := by
  rw [readDouble?, toAscii_intText, trimAscii_intText, takeDecimal?_intText]
  simp only [Decimal.toDouble, List.append_nil, valuesNumber_map, Json.digitsValue_toDigits]
  exact congrArg some (ofDecimal_zero length _)

end Numeral
end RequestFlow
