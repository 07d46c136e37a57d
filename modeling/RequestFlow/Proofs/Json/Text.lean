import RequestFlow.Json.Printer
import RequestFlow.Json.Reader

/-!
# Texts of JSON read back

Every character is read back from its escape: from a letter after a backslash, from four hexadecimal
digits, from two such units for what lies beyond the first sixteen bits, or from itself. So a text
is read back from its literal, in both alphabets.
-/

namespace RequestFlow
namespace Text

/-- The last digit of a hexadecimal number. -/
theorem hexText_succ
    {width : Nat}
    (positive : 0 < width)
    (number : Nat) :
    hexText (width + 1) number = hexText width (number / 16) ++ [(number % 16).digitChar] := by
  by_cases small : number < 16
  · have quotient : number / 16 = 0 := by omega
    have remainder : number % 16 = number := by omega
    have digits : Nat.toDigits 16 number = [number.digitChar] := Nat.toDigits_of_lt_base small
    have zeros : List.replicate width '0' = List.replicate (width - 1) '0' ++ ['0'] := by
      rw [← List.replicate_succ', Nat.sub_add_cancel positive]
    simp [hexText, quotient, remainder, digits, zeros]
  · have digits : Nat.toDigits 16 number =
        Nat.toDigits 16 (number / 16) ++ [(number % 16).digitChar] :=
      Nat.toDigits_of_base_le (by decide) (by omega)
    simp [hexText, digits]

theorem hexText_one
    {number : Nat}
    (small : number < 16) :
    hexText 1 number = [number.digitChar] := by
  simp [hexText, Nat.toDigits_of_lt_base small]

/-- A hexadecimal digit is read as its value. -/
theorem hexDigit?_digitChar
    {value : Nat}
    (small : value < 16) :
    hexDigit? value.digitChar = some value := by
  revert value
  decide

end Text

namespace Json

open Text

/-- A number of sixteen bits is read back from its four digits. -/
theorem hexText_four
    (unit : Nat)
    (small : unit < 0x10000) :
    ∃ first second third fourth, hexText 4 unit = [first, second, third, fourth] ∧
      readUnit first second third fourth = some unit := by
  refine ⟨(unit / 16 / 16 / 16).digitChar, (unit / 16 / 16 % 16).digitChar,
    (unit / 16 % 16).digitChar, (unit % 16).digitChar, ?_, ?_⟩
  · rw [hexText_succ (by decide), hexText_succ (by decide), hexText_succ (by decide),
      hexText_one (by omega)]
    rfl
  · rw [readUnit, hexDigit?_digitChar (by omega), hexDigit?_digitChar (by omega),
      hexDigit?_digitChar (by omega), hexDigit?_digitChar (by omega)]
    simp only [Option.some.injEq]
    omega

/-- A character is none of the units that make up pairs. -/
theorem toNat_not_surrogate
    (character : Char) :
    isHighSurrogate character.toNat = false ∧ isLowSurrogate character.toNat = false := by
  have valid : character.toNat < 0xD800 ∨ 0xDFFF < character.toNat ∧ character.toNat < 0x110000 :=
    character.valid
  simp only [isHighSurrogate, isLowSurrogate, Bool.and_eq_false_iff, decide_eq_false_iff_not]
  omega

theorem loneUnit_toNat
    (character : Char) :
    loneUnit character.toNat = character := by
  obtain ⟨high, low⟩ := toNat_not_surrogate character
  simp [loneUnit, high, low]

/-- A letter after a backslash is read as the character that it stands for. -/
theorem readText_letter
    {letter character : Char}
    (noUnit : letter ≠ 'u')
    (stands : simpleEscape? letter = some character)
    (rest : List Char) :
    readText none ('\\' :: letter :: rest) = prepend [character] (readText none rest) := by
  rw [readText, stands]
  · rfl
  · intro _ _ _ _ _ equal
    exact absurd equal noUnit

/-- Four digits after the mark of a unit are read as that unit, or begin a pair. -/
theorem readText_unit
    {first second third fourth : Char}
    {unit : Nat}
    (read : readUnit first second third fourth = some unit)
    (rest : List Char) :
    readText none ('\\' :: 'u' :: first :: second :: third :: fourth :: rest) =
      if isHighSurrogate unit then readText (some unit) rest
      else prepend [loneUnit unit] (readText none rest) := by
  rw [readText, read]

/-- The second half of a pair is read together with the first. -/
theorem readText_secondUnit
    {first second third fourth : Char}
    {high low : Nat}
    (read : readUnit first second third fourth = some low)
    (isLow : isLowSurrogate low = true)
    (rest : List Char) :
    readText (some high) ('\\' :: 'u' :: first :: second :: third :: fourth :: rest) =
      prepend [joinSurrogates high low] (readText none rest) := by
  rw [readText, read]
  simp only [isLow, if_true]

/-- The escape of a unit that is no half of a pair is read as its character. -/
theorem readText_unitEscape
    {character : Char}
    (small : character.toNat < 0x10000)
    (rest : List Char) :
    readText none (unitEscape character.toNat ++ rest) =
      prepend [character] (readText none rest) := by
  obtain ⟨first, second, third, fourth, written, read⟩ := hexText_four _ small
  obtain ⟨high, -⟩ := toNat_not_surrogate character
  rw [unitEscape, written]
  simp only [List.cons_append, List.nil_append, readText_unit read, high, loneUnit_toNat]
  rfl

/-- The escapes of two halves of a pair are read as one character. -/
theorem readText_pair
    {character : Char}
    (large : 0x10000 ≤ character.toNat)
    (rest : List Char) :
    readText none
        (unitEscape (0xD800 + (character.toNat - 0x10000) / 1024) ++
          unitEscape (0xDC00 + (character.toNat - 0x10000) % 1024) ++ rest) =
      prepend [character] (readText none rest) := by
  have valid : character.toNat < 0xD800 ∨ 0xDFFF < character.toNat ∧ character.toNat < 0x110000 :=
    character.valid
  obtain ⟨a, b, c, d, firstWritten, firstRead⟩ :=
    hexText_four (0xD800 + (character.toNat - 0x10000) / 1024) (by omega)
  obtain ⟨e, f, g, h, secondWritten, secondRead⟩ :=
    hexText_four (0xDC00 + (character.toNat - 0x10000) % 1024) (by omega)
  have high : isHighSurrogate (0xD800 + (character.toNat - 0x10000) / 1024) = true := by
    simp only [isHighSurrogate, Bool.and_eq_true, decide_eq_true_eq]
    omega
  have low : isLowSurrogate (0xDC00 + (character.toNat - 0x10000) % 1024) = true := by
    simp only [isLowSurrogate, Bool.and_eq_true, decide_eq_true_eq]
    omega
  have joined : joinSurrogates (0xD800 + (character.toNat - 0x10000) / 1024)
      (0xDC00 + (character.toNat - 0x10000) % 1024) = character := by
    have code : 0x10000 + 1024 * (0xD800 + (character.toNat - 0x10000) / 1024 - 0xD800) +
        (0xDC00 + (character.toNat - 0x10000) % 1024 - 0xDC00) = character.toNat := by
      omega
    rw [joinSurrogates, code]
    exact Char.ofNat_toNat character
  rw [unitEscape, unitEscape, firstWritten, secondWritten]
  simp only [List.cons_append, List.nil_append]
  rw [readText_unit firstRead, if_pos high, readText_secondUnit secondRead low, joined]

/-- A character that needs no escape is read as itself. -/
theorem readText_literal
    {character : Char}
    (printable : 32 ≤ character.toNat)
    (noQuote : character ≠ '"')
    (noBackslash : character ≠ '\\')
    (rest : List Char) :
    readText none (character :: rest) = prepend [character] (readText none rest) := by
  have plain : ¬(character.toNat < 32 ∨ character = '\\') := by
    rintro (control | backslash)
    · omega
    · exact noBackslash backslash
  rw [readText, if_neg plain]
  · rfl
  · exact noQuote
  · intro _ _ _ _ _ backslash
    exact absurd backslash noBackslash
  · intro _ _ backslash
    exact absurd backslash noBackslash

/-- A character is read back from its escape. -/
theorem readText_escape
    (asciiOnly : Bool)
    (character : Char)
    (rest : List Char) :
    readText none (escape asciiOnly character ++ rest) =
      prepend [character] (readText none rest) := by
  unfold escape
  by_cases quote : character = '"'
  · rw [if_pos quote, quote]
    exact readText_letter (by decide) (by rfl) rest
  rw [if_neg quote]
  by_cases backslash : character = '\\'
  · rw [if_pos backslash, backslash]
    exact readText_letter (by decide) (by rfl) rest
  rw [if_neg backslash]
  by_cases newline : character = '\n'
  · rw [if_pos newline, newline]
    exact readText_letter (by decide) (by rfl) rest
  rw [if_neg newline]
  by_cases carriage : character = '\r'
  · rw [if_pos carriage, carriage]
    exact readText_letter (by decide) (by rfl) rest
  rw [if_neg carriage]
  by_cases tab : character = '\t'
  · rw [if_pos tab, tab]
    exact readText_letter (by decide) (by rfl) rest
  rw [if_neg tab]
  by_cases back : character = Char.ofNat 8
  · rw [if_pos back, back]
    exact readText_letter (by decide) (by rfl) rest
  rw [if_neg back]
  by_cases feed : character = Char.ofNat 12
  · rw [if_pos feed, feed]
    exact readText_letter (by decide) (by rfl) rest
  rw [if_neg feed]
  by_cases control : character.toNat < 32
  · rw [if_pos control]
    exact readText_unitEscape (by omega) rest
  rw [if_neg control]
  by_cases printable : (!asciiOnly || character.toNat < 127) = true
  · rw [if_pos printable]
    exact readText_literal (by omega) quote backslash rest
  rw [if_neg printable]
  by_cases small : character.toNat < 0x10000
  · rw [if_pos small]
    exact readText_unitEscape small rest
  rw [if_neg small]
  exact readText_pair (by omega) rest

/-- A text is read back from its literal. -/
theorem readText_textLiteral
    (asciiOnly : Bool)
    (content rest : List Char) :
    readText none (content.flatMap (escape asciiOnly) ++ '"' :: rest) = .ok (content, rest) := by
  induction content with
  | nil => simp [readText, flush]
  | cons character content inductionHypothesis =>
      rw [List.flatMap_cons, List.append_assoc, readText_escape, inductionHypothesis]
      rfl

end Json
end RequestFlow
