import RequestFlow.Proofs.Text.Cut
import RequestFlow.Numeral.Reading

/-!
# Recognising and reading numerals

A text that is recognised as a decimal numeral is not always one that can be read. Where a numeral
is recognised, all blanks may stand around it, and where it is read, all but the information
separators of ASCII. This is the only difference: digits of any script and blanks of any other kind
are treated alike.
-/

namespace RequestFlow

/-! ## Digits and blanks -/

namespace Numeral

open Text

variable {character : Char} {text rest : List Char}

/-- The information separators of ASCII. -/
def IsSeparator (character : Char) : Prop :=
  28 ≤ character.toNat ∧ character.toNat ≤ 31

instance : DecidablePred IsSeparator :=
  fun character => inferInstanceAs (Decidable (28 ≤ character.toNat ∧ character.toNat ≤ 31))

/-- The codes of the blanks beyond ASCII. -/
def blanksBeyond : List Nat :=
  [0x85, 0xA0, 0x1680, 0x2000, 0x2001, 0x2002, 0x2003, 0x2004, 0x2005, 0x2006, 0x2007, 0x2008,
    0x2009, 0x200A, 0x2028, 0x2029, 0x202F, 0x205F, 0x3000]

/-- The text of a literal is known from the literal. -/
theorem toList_of_eq_ofList
    {content : String}
    {characters : List Char}
    (same : content = String.ofList characters) :
    content.toList = characters := by
  rw [same, String.toList_ofList]

set_option maxRecDepth 4000 in
theorem find?_zeroDigits_of_mem_blanksBeyond :
    ∀ code ∈ blanksBeyond,
      (zeroDigits.find? fun first => first ≤ code && code < first + 10) = none := by
  unfold zeroDigits entries
  generalize read : String.toList _ = table
  have characters : table = _ := read.symm.trans (toList_of_eq_ofList rfl)
  rw [characters]
  decide +kernel

/-- No character of ASCII before the digits is one. -/
theorem digitValue?_of_lt
    (before : character.toNat < 48) :
    digitValue? character = none := by
  have not_digit : character.isDigit = false := by
    rw [Char.isDigit, Bool.and_eq_false_iff]
    exact .inl (decide_eq_false fun reaches =>
      Nat.not_le.2 before (UInt32.le_iff_toNat_le.1 reaches))
  simp [digitValue?, not_digit, show character.toNat < 128 by omega]

/-- No blank is a digit. -/
theorem digitValue?_of_isBlank
    (blank : isBlank character = true) :
    digitValue? character = none := by
  simp only [isBlank, Bool.or_eq_true, Bool.and_eq_true, decide_eq_true_eq, beq_iff_eq] at blank
  by_cases ascii : character.toNat < 128
  · exact digitValue?_of_lt (by omega)
  · have beyond : character.toNat ∈ blanksBeyond := by
      simp only [blanksBeyond, List.mem_cons]
      omega
    simp [digitValue?, ascii, find?_zeroDigits_of_mem_blanksBeyond _ beyond]

/-- The value of a digit is below ten. -/
theorem lt_of_digitValue?
    {value : Nat}
    (digit : digitValue? character = some value) :
    value < 10 := by
  simp only [digitValue?] at digit
  split at digit
  · split at digit
    next isDigit =>
      cases digit
      simp only [Char.isDigit, Bool.and_eq_true, decide_eq_true_eq, ge_iff_le] at isDigit
      have most : character.toNat ≤ 57 := isDigit.2
      omega
    · cases digit
  · obtain ⟨first, found, rfl⟩ := Option.map_eq_some_iff.1 digit
    have within := List.find?_some found
    simp only [Bool.and_eq_true, decide_eq_true_eq] at within
    omega

/-- The digit of ASCII with a value has that value. -/
theorem digitValue?_asciiDigit
    {value : Nat}
    (below : value < 10) :
    digitValue? (asciiDigit value) = some value := by
  revert value
  decide

theorem isAsciiBlank_iff :
    isAsciiBlank character = true ↔
      character.toNat = 32 ∨ 9 ≤ character.toNat ∧ character.toNat ≤ 13 := by
  have space : character = ' ' ↔ character.toNat = 32 := Char.toNat_inj.symm
  simp [isAsciiBlank, space]

/-! ## Numerals that are changed without being changed -/

/-- The characters of a decimal numeral that are not digits. -/
def marks : List Char := ['+', '-', '.', 'e', 'E']

/-- A character that a decimal numeral may have. -/
def IsNumeralChar (character : Char) : Prop :=
  character ∈ marks ∨ (digitValue? character).isSome = true

/-- Blanks of ASCII and information separators are no part of a numeral. -/
theorem not_isNumeralChar_of_le
    (before : character.toNat ≤ 32) :
    ¬IsNumeralChar character := by
  rintro (mark | digit)
  · have later : ∀ mark ∈ marks, 32 < mark.toNat := by simp [marks]
    exact absurd (later character mark) (Nat.not_lt.2 before)
  · rw [digitValue?_of_lt (by omega)] at digit
    cases digit

/-- A change of characters that a numeral does not show. -/
structure Faithful (change : Char → Char) : Prop where
  /-- A digit keeps its value, and nothing else becomes one. -/
  digit : ∀ character, digitValue? (change character) = digitValue? character
  /-- A mark of numerals stays as it is, and nothing else becomes one. -/
  mark : ∀ character, ∀ mark ∈ marks, change character = mark ↔ character = mark

/-- A text before which a numeral ends. -/
def Stops (rest : List Char) : Prop :=
  ∀ character ∈ rest.head?, ¬IsNumeralChar character

theorem stops_nil : Stops [] := by
  simp [Stops]

/-- A numeral ends before blanks of ASCII. -/
theorem stops_of_forall_isAsciiBlank
    (blank : ∀ character ∈ rest, isAsciiBlank character = true) :
    Stops rest := by
  intro character isHead
  have within := isAsciiBlank_iff.1 (blank character (List.mem_of_mem_head? isHead))
  exact not_isNumeralChar_of_le (by omega)

theorem faithful_id : Faithful id :=
  ⟨fun _ => rfl, fun _ _ _ => .rfl⟩

/-- Digits and marks are the same in ASCII. -/
theorem faithful_toAsciiChar : Faithful toAsciiChar := by
  constructor
  · intro character
    unfold toAsciiChar
    by_cases ascii : character.toNat < 128
    · rw [if_pos ascii]
    · by_cases blank : isBlank character = true
      · rw [if_neg ascii, if_pos blank, digitValue?_of_isBlank blank]
        rfl
      · rw [if_neg ascii, if_neg blank]
        cases digit : digitValue? character with
        | none => exact digit
        | some value => exact digitValue?_asciiDigit (lt_of_digitValue? digit)
  · intro character mark isMark
    have mark_lt : ∀ mark ∈ marks, mark.toNat < 128 := by simp [marks]
    have not_digit : ∀ value < 10, asciiDigit value ∉ marks := by decide
    unfold toAsciiChar
    by_cases ascii : character.toNat < 128
    · rw [if_pos ascii]
    · have different : character ≠ mark := by
        rintro rfl
        exact ascii (mark_lt character isMark)
      refine iff_of_false ?_ different
      rintro rfl
      revert isMark
      rw [if_neg ascii]
      split
      · decide
      · split
        next digit => exact not_digit _ (lt_of_digitValue? digit)
        · exact fun isMark => ascii (mark_lt character isMark)

/-- A text before which a numeral ends does not go on with a digit. -/
theorem Stops.digit
    (stops : Stops (character :: rest)) :
    digitValue? character = none := by
  have no_numeral := stops character rfl
  rw [IsNumeralChar, not_or, Bool.not_eq_true, Option.isSome_eq_false_iff,
    Option.isNone_iff_eq_none] at no_numeral
  exact no_numeral.2

/-- A text before which a numeral ends does not go on with a mark. -/
theorem Stops.ne
    {mark : Char}
    (stops : Stops (character :: rest))
    (isMark : mark ∈ marks) :
    character ≠ mark := by
  rintro rfl
  exact stops character rfl (.inl isMark)

theorem takeSign_cons
    (character : Char)
    (text : List Char) :
    takeSign (character :: text) =
      if character = '-' then (true, text)
      else if character = '+' then (false, text) else (false, character :: text) := by
  unfold takeSign
  split <;> simp_all

/-- The digits after the point of a numeral with the given digits before it, and what follows. -/
def takeFraction (whole : List Nat) : List Char → List Nat × List Char
  | '.' :: rest =>
    if whole.isEmpty && (takeDigits rest).1.isEmpty then ([], '.' :: rest) else takeDigits rest
  | text => ([], text)

theorem takeFraction_cons
    (whole : List Nat)
    (character : Char)
    (text : List Char) :
    takeFraction whole (character :: text) =
      if character = '.' then
        if whole.isEmpty && (takeDigits text).1.isEmpty then ([], '.' :: text) else takeDigits text
      else ([], character :: text) := by
  unfold takeFraction
  split <;> simp_all

theorem takeDecimal?_eq (text : List Char) :
    takeDecimal? text =
      let signed := takeSign text
      let whole := takeDigits signed.2
      let fraction := takeFraction whole.1 whole.2
      if whole.1.isEmpty && fraction.1.isEmpty then none
      else
        let exponent := takeExponent fraction.2
        some (⟨signed.1, whole.1, fraction.1, exponent.1⟩, exponent.2) := by
  unfold takeDecimal?
  rcases takeSign text with ⟨negative, body⟩
  dsimp only
  rcases takeDigits body with ⟨whole, _ | ⟨character, afterWhole⟩⟩
  · rfl
  · by_cases point : character = '.'
    · subst point
      rfl
    · simp [takeFraction_cons, point]

section Image

variable {change : Char → Char} (faithful : Faithful change) (stops : Stops rest)

include faithful stops

theorem takeDigits_image (text : List Char) :
    takeDigits (text.map change ++ rest) =
      ((takeDigits text).1, (takeDigits text).2.map change ++ rest) := by
  induction text with
  | nil =>
      cases rest with
      | nil => rfl
      | cons character rest => simp [takeDigits, stops.digit]
  | cons character text inductionHypothesis =>
      rw [List.map_cons, List.cons_append, takeDigits, takeDigits, faithful.digit]
      cases digitValue? character with
      | none => rfl
      | some value => rw [inductionHypothesis]

theorem takeSign_image (text : List Char) :
    takeSign (text.map change ++ rest) =
      ((takeSign text).1, (takeSign text).2.map change ++ rest) := by
  cases text with
  | nil =>
      cases rest with
      | nil => rfl
      | cons character rest =>
          rw [List.map_nil, List.nil_append, takeSign_cons,
            if_neg (stops.ne (by decide)), if_neg (stops.ne (by decide))]
          rfl
  | cons character text =>
      have minus := faithful.mark character '-' (by decide)
      have plus := faithful.mark character '+' (by decide)
      rw [List.map_cons, List.cons_append, takeSign_cons, takeSign_cons]
      simp only [minus, plus]
      split <;> [rfl; split <;> rfl]

theorem takeExponent_image (text : List Char) :
    takeExponent (text.map change ++ rest) =
      ((takeExponent text).1, (takeExponent text).2.map change ++ rest) := by
  cases text with
  | nil =>
      cases rest with
      | nil => rfl
      | cons character rest =>
          simp [takeExponent, stops.ne (show 'e' ∈ marks by decide),
            stops.ne (show 'E' ∈ marks by decide)]
  | cons character text =>
      have small := faithful.mark character 'e' (by decide)
      have large := faithful.mark character 'E' (by decide)
      simp only [List.map_cons, List.cons_append, takeExponent, Bool.or_eq_true, beq_iff_eq,
        small, large, takeSign_image faithful stops, takeDigits_image faithful stops]
      split
      · rcases takeDigits (takeSign text).2 with ⟨_ | ⟨value, values⟩, after⟩ <;> rfl
      · rfl

theorem takeFraction_image
    (whole : List Nat)
    (text : List Char) :
    takeFraction whole (text.map change ++ rest) =
      ((takeFraction whole text).1, (takeFraction whole text).2.map change ++ rest) := by
  cases text with
  | nil =>
      cases rest with
      | nil => rfl
      | cons character rest =>
          rw [List.map_nil, List.nil_append, takeFraction_cons, if_neg (stops.ne (by decide))]
          rfl
  | cons character text =>
      have point := faithful.mark character '.' (by decide)
      rw [List.map_cons, List.cons_append, takeFraction_cons, takeFraction_cons]
      simp only [point, takeDigits_image faithful stops]
      split
      next isPoint =>
        split
        · simp [(faithful.mark '.' '.' (by decide)).2 rfl]
        · rfl
      · rfl

/-- A numeral is read from a changed text as from the text itself. -/
theorem takeDecimal?_image (text : List Char) :
    takeDecimal? (text.map change ++ rest) =
      (takeDecimal? text).map fun found => (found.1, found.2.map change ++ rest) := by
  simp only [takeDecimal?_eq, takeSign_image faithful stops, takeDigits_image faithful stops,
    takeFraction_image faithful stops, takeExponent_image faithful stops]
  split <;> rfl

end Image

/-! ## What a numeral takes up -/

/-- The first text is the second one behind characters of a numeral. -/
def Consumes (text after : List Char) : Prop :=
  ∃ consumed, text = consumed ++ after ∧ ∀ character ∈ consumed, IsNumeralChar character

theorem Consumes.refl (text : List Char) : Consumes text text :=
  ⟨[], rfl, nofun⟩

theorem Consumes.cons
    {after : List Char}
    (consumes : Consumes text after)
    (numeral : IsNumeralChar character) :
    Consumes (character :: text) after := by
  obtain ⟨consumed, rfl, each⟩ := consumes
  exact ⟨character :: consumed, rfl, List.forall_mem_cons.2 ⟨numeral, each⟩⟩

theorem Consumes.trans
    {middle after : List Char}
    (first : Consumes text middle)
    (second : Consumes middle after) :
    Consumes text after := by
  obtain ⟨front, rfl, eachFront⟩ := first
  obtain ⟨back, rfl, eachBack⟩ := second
  exact ⟨front ++ back, (List.append_assoc _ _ _).symm,
    List.forall_mem_append.2 ⟨eachFront, eachBack⟩⟩

theorem consumes_takeDigits (text : List Char) : Consumes text (takeDigits text).2 := by
  induction text with
  | nil => exact .refl []
  | cons character text inductionHypothesis =>
      rw [takeDigits]
      cases digit : digitValue? character with
      | none => exact .refl _
      | some value => exact inductionHypothesis.cons (.inr (by rw [digit]; rfl))

theorem consumes_takeSign (text : List Char) : Consumes text (takeSign text).2 := by
  cases text with
  | nil => exact .refl []
  | cons character text =>
      rw [takeSign_cons]
      split
      next minus => exact (Consumes.refl text).cons (.inl (by rw [minus]; decide))
      · split
        next plus => exact (Consumes.refl text).cons (.inl (by rw [plus]; decide))
        · exact .refl _

theorem consumes_takeExponent (text : List Char) : Consumes text (takeExponent text).2 := by
  cases text with
  | nil => exact .refl []
  | cons character text =>
      rw [takeExponent]
      split
      next exponent =>
        have isMark : character ∈ marks := by
          rcases Bool.or_eq_true_iff.1 exponent with same | same <;> rw [eq_of_beq same] <;> decide
        have after := ((consumes_takeSign text).trans (consumes_takeDigits _)).cons (.inl isMark)
        rcases read : takeDigits (takeSign text).2 with ⟨_ | ⟨value, values⟩, rest⟩
        · simp only [read]
          exact .refl _
        · simp only [read]
          rwa [read] at after
      · exact .refl _

theorem consumes_takeFraction
    (whole : List Nat)
    (text : List Char) :
    Consumes text (takeFraction whole text).2 := by
  cases text with
  | nil => exact .refl []
  | cons character text =>
      rw [takeFraction_cons]
      split
      next point =>
        subst point
        split
        · exact .refl _
        · exact (consumes_takeDigits text).cons (.inl (by decide))
      · exact .refl _

/-- A numeral is made up of its characters alone. -/
theorem consumes_takeDecimal?
    {numeral : Decimal}
    {after : List Char}
    (read : takeDecimal? text = some (numeral, after)) :
    Consumes text after := by
  rw [takeDecimal?_eq] at read
  dsimp only at read
  split at read
  · cases read
  · cases read
    exact (((consumes_takeSign text).trans (consumes_takeDigits _)).trans
      (consumes_takeFraction _ _)).trans (consumes_takeExponent _)

/-! ## Where a numeral is recognised and where it is read -/

/-- A blank is one of ASCII where a numeral is read, unless it is a separator. -/
theorem isAsciiBlank_toAsciiChar
    (blank : isBlank character = true)
    (apart : ¬IsSeparator character) :
    isAsciiBlank (toAsciiChar character) = true := by
  unfold toAsciiChar
  by_cases ascii : character.toNat < 128
  · rw [if_pos ascii]
    simp only [isBlank, Bool.or_eq_true, Bool.and_eq_true, decide_eq_true_eq, beq_iff_eq] at blank
    rw [IsSeparator] at apart
    rw [isAsciiBlank_iff]
    omega
  · rw [if_neg ascii, if_pos blank]
    decide

/-- What is not cut off the ends of a text is left. -/
theorem mem_trimAscii_of_mem
    (member : character ∈ text)
    (filled : isAsciiBlank character = false) :
    character ∈ trimAscii text := by
  have kept : ∀ text : List Char, character ∈ text →
      character ∈ text.dropWhile isAsciiBlank := by
    intro text member
    have whole : text.takeWhile isAsciiBlank ++ text.dropWhile isAsciiBlank = text :=
      List.takeWhile_append_dropWhile
    rw [← whole, List.mem_append] at member
    refine member.resolve_left fun front => ?_
    rw [List.mem_takeWhile_imp front] at filled
    cases filled
  unfold trimAscii dropEndWhile
  exact List.mem_reverse.2 (kept _ (List.mem_reverse.2 (kept _ member)))

/-- Blanks are cut off a text that has none itself. -/
theorem trimAscii_between
    {front back : List Char}
    (blankFront : ∀ character ∈ front, isAsciiBlank character = true)
    (filled : ∀ character ∈ text, isAsciiBlank character = false)
    (blankBack : ∀ character ∈ back, isAsciiBlank character = true) :
    trimAscii (front ++ (text ++ back)) = text := by
  rw [trimAscii, List.dropWhile_append_of_pos blankFront, ← dropWhile_dropEndWhile,
    dropEndWhile_append_of_forall blankBack, dropEndWhile_of_forall filled]
  cases text with
  | nil => rfl
  | cons character text =>
      exact List.dropWhile_cons_of_neg (by simp [filled character List.mem_cons_self])

/-- A text that is read as a double has no separators. -/
theorem not_isSeparator_of_readDouble?
    {number : Double}
    (read : readDouble? text = some number) :
    ∀ character ∈ text, ¬IsSeparator character := by
  rintro character member ⟨least, most⟩
  unfold readDouble? at read
  split at read
  next numeral taken =>
    obtain ⟨consumed, whole, each⟩ := consumes_takeDecimal? taken
    rw [List.append_nil] at whole
    have unchanged : toAsciiChar character = character := by
      rw [toAsciiChar, if_pos (by omega)]
    have filled : isAsciiBlank character = false := by
      rw [← Bool.not_eq_true, isAsciiBlank_iff]
      omega
    have there : character ∈ toAscii text := by
      rw [← unchanged]
      exact List.mem_map_of_mem member
    have left := mem_trimAscii_of_mem there filled
    rw [whole] at left
    exact not_isNumeralChar_of_le (by omega) (each _ left)
  · cases read

/-- The characters behind a numeral do not matter. -/
theorem takeDecimal?_of_append
    {numeral : Decimal}
    (stops : Stops rest)
    (taken : takeDecimal? (text ++ rest) = some (numeral, rest)) :
    takeDecimal? text = some (numeral, []) := by
  have image := takeDecimal?_image faithful_id stops text
  rw [List.map_id, taken] at image
  obtain ⟨⟨same, after⟩, alone, found⟩ := Option.map_eq_some_iff.1 image.symm
  obtain ⟨rfl, nothing⟩ := Prod.mk.inj found
  rw [List.map_id, List.append_left_eq_self] at nothing
  obtain rfl : after = [] := nothing
  exact alone

/-- A numeral that has no separators beside it is read. -/
theorem exists_readDouble?_of_isDecimal
    (decimal : isDecimal text = true)
    (apart : ∀ character ∈ text, ¬IsSeparator character) :
    ∃ number, readDouble? text = some number := by
  unfold isDecimal at decimal
  split at decimal
  next numeral after taken =>
    have whole : text.takeWhile isBlank ++ trimStart text = text :=
      List.takeWhile_append_dropWhile
    obtain ⟨ahead, trimmed, -⟩ := consumes_takeDecimal? taken
    have toBlank : ∀ character ∈ text, isBlank character = true →
        isAsciiBlank (toAsciiChar character) = true :=
      fun character member blank => isAsciiBlank_toAsciiChar blank (apart character member)
    have blankFront : ∀ character ∈ toAscii (text.takeWhile isBlank),
        isAsciiBlank character = true := by
      refine List.forall_mem_map.2 fun character member => ?_
      exact toBlank character (List.takeWhile_subset _ member) (List.mem_takeWhile_imp member)
    have blankBack : ∀ character ∈ toAscii after, isAsciiBlank character = true := by
      refine List.forall_mem_map.2 fun character member => ?_
      refine toBlank character ?_ (List.all_eq_true.1 decimal character member)
      rw [← whole, trimmed]
      exact List.mem_append_right _ (List.mem_append_right _ member)
    have image := takeDecimal?_image faithful_toAsciiChar stops_nil (trimStart text)
    rw [taken, List.append_nil, Option.map_some, List.append_nil] at image
    obtain ⟨consumed, split_eq, each⟩ := consumes_takeDecimal? image
    have filled : ∀ character ∈ consumed, isAsciiBlank character = false := by
      intro character member
      rw [← Bool.not_eq_true, isAsciiBlank_iff]
      intro blank
      exact not_isNumeralChar_of_le (by omega) (each character member)
    have alone : takeDecimal? consumed = some (numeral, []) :=
      takeDecimal?_of_append (stops_of_forall_isAsciiBlank blankBack) (split_eq ▸ image)
    have between : trimAscii (toAscii text) = consumed := by
      rw [← whole, toAscii, List.map_append, split_eq]
      exact trimAscii_between blankFront filled blankBack
    exact ⟨numeral.toDouble, by rw [readDouble?, between, alone]⟩
  · cases decimal

/-- A text that is a numeral is read as a double, unless it has a separator. -/
theorem readDouble?_eq_none_iff
    (decimal : isDecimal text = true) :
    readDouble? text = none ↔ ∃ character ∈ text, IsSeparator character := by
  constructor
  · intro unread
    by_contra apart
    simp only [not_exists, not_and] at apart
    obtain ⟨number, read⟩ := exists_readDouble?_of_isDecimal decimal apart
    rw [read] at unread
    cases unread
  · rintro ⟨character, member, separates⟩
    cases read : readDouble? text with
    | none => rfl
    | some number => exact absurd separates (not_isSeparator_of_readDouble? read character member)

end Numeral

end RequestFlow
