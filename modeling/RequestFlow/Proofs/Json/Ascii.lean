import RequestFlow.Proofs.Json.RoundTrip

/-!
# JSON on one line of ASCII

A style that escapes what lies beyond ASCII, and breaks no lines, writes values with printable
characters of ASCII alone. Line ends, control characters and the escape character are among those
that never stand for themselves, at whatever depth the text with them lies.
-/

namespace RequestFlow
namespace Text

/-- A printable character of ASCII, from the blank to the tilde. -/
def IsAsciiPrintable (character : Char) : Prop :=
  0x20 ≤ character.toNat ∧ character.toNat ≤ 0x7E

instance (character : Char) : Decidable (IsAsciiPrintable character) :=
  inferInstanceAs (Decidable (_ ∧ _))

/-- A text of printable characters of ASCII. -/
def IsAsciiLine (content : List Char) : Prop :=
  ∀ character ∈ content, IsAsciiPrintable character

instance (content : List Char) : Decidable (IsAsciiLine content) :=
  List.decidableBAll _ content

@[simp] theorem isAsciiLine_nil : IsAsciiLine [] :=
  List.forall_mem_nil _

@[simp] theorem isAsciiLine_cons_iff
    {character : Char}
    {rest : List Char} :
    IsAsciiLine (character :: rest) ↔ IsAsciiPrintable character ∧ IsAsciiLine rest :=
  List.forall_mem_cons

@[simp] theorem isAsciiLine_append_iff
    {first second : List Char} :
    IsAsciiLine (first ++ second) ↔ IsAsciiLine first ∧ IsAsciiLine second :=
  List.forall_mem_append

theorem isAsciiLine_flatMap
    {content : List Char}
    {change : Char → List Char}
    (each : ∀ character ∈ content, IsAsciiLine (change character)) :
    IsAsciiLine (content.flatMap change) := by
  intro character member
  obtain ⟨source, listed, written⟩ := List.mem_flatMap.1 member
  exact each source listed character written

/-- What lies between two printable characters is one. -/
theorem isAsciiPrintable_of_between
    {first character last : Char}
    (between : first.toNat ≤ character.toNat ∧ character.toNat ≤ last.toNat)
    (lower : IsAsciiPrintable first)
    (upper : IsAsciiPrintable last) :
    IsAsciiPrintable character :=
  ⟨Nat.le_trans lower.1 between.1, Nat.le_trans between.2 upper.2⟩

theorem isAsciiPrintable_of_isDigit
    {character : Char}
    (digit : character.isDigit = true) :
    IsAsciiPrintable character :=
  isAsciiPrintable_of_between (Char.isDigit_iff_toNat.1 digit) (by decide) (by decide)

/-- A digit of a hexadecimal number can be printed. -/
theorem isAsciiPrintable_of_hexDigit?
    {character : Char}
    {value : Nat}
    (digit : hexDigit? character = some value) :
    IsAsciiPrintable character := by
  unfold hexDigit? at digit
  split at digit
  next lies => exact isAsciiPrintable_of_between lies (by decide) (by decide)
  split at digit
  next lies => exact isAsciiPrintable_of_between lies (by decide) (by decide)
  split at digit
  next lies => exact isAsciiPrintable_of_between lies (by decide) (by decide)
  cases digit

end Text

namespace Json

open Numeral Text

/-- A style that writes on one line, and with printable characters of ASCII. -/
structure Style.IsAscii (style : Style) : Prop where
  /-- Characters beyond ASCII are written as escapes. -/
  escapes : style.asciiOnly = true
  /-- What stands between items is printable. -/
  item : IsAsciiLine style.itemSeparator
  /-- What stands after a key is printable. -/
  key : IsAsciiLine style.keySeparator
  /-- Everything stands on one line. -/
  line : style.indent = none

theorem asciiSpaced_isAscii : asciiSpaced.IsAscii where
  escapes := rfl
  item := by decide
  key := by decide
  line := rfl

theorem asciiSpaced_isBlank : asciiSpaced.IsBlank where
  item := ⟨[' '], rfl, List.forall_mem_singleton.2 rfl⟩
  key := ⟨[' '], rfl, List.forall_mem_singleton.2 rfl⟩

/-! ## Characters -/

theorem isAsciiLine_unitEscape
    {unit : Nat}
    (small : unit < 0x10000) :
    IsAsciiLine (unitEscape unit) := by
  obtain ⟨first, second, third, fourth, written, read⟩ := hexText_four unit small
  rw [unitEscape, written]
  unfold readUnit at read
  split at read
  next firstRead secondRead thirdRead fourthRead =>
    simp only [isAsciiLine_cons_iff, isAsciiLine_nil, and_true]
    exact ⟨by decide, by decide, isAsciiPrintable_of_hexDigit? firstRead,
      isAsciiPrintable_of_hexDigit? secondRead, isAsciiPrintable_of_hexDigit? thirdRead,
      isAsciiPrintable_of_hexDigit? fourthRead⟩
  · cases read

/-- Whatever the character, its escape can be printed. -/
theorem isAsciiLine_escape (character : Char) : IsAsciiLine (escape true character) := by
  have valid : character.toNat < 0xD800 ∨ 0xDFFF < character.toNat ∧ character.toNat < 0x110000 :=
    character.valid
  unfold escape
  by_cases quote : character = '"'
  · rw [if_pos quote]
    decide
  rw [if_neg quote]
  by_cases backslash : character = '\\'
  · rw [if_pos backslash]
    decide
  rw [if_neg backslash]
  by_cases newline : character = '\n'
  · rw [if_pos newline]
    decide
  rw [if_neg newline]
  by_cases carriage : character = '\r'
  · rw [if_pos carriage]
    decide
  rw [if_neg carriage]
  by_cases tab : character = '\t'
  · rw [if_pos tab]
    decide
  rw [if_neg tab]
  by_cases back : character = Char.ofNat 8
  · rw [if_pos back]
    decide
  rw [if_neg back]
  by_cases feed : character = Char.ofNat 12
  · rw [if_pos feed]
    decide
  rw [if_neg feed]
  by_cases control : character.toNat < 32
  · rw [if_pos control]
    exact isAsciiLine_unitEscape (by omega)
  rw [if_neg control]
  by_cases printable : character.toNat < 127
  · rw [if_pos (by simpa using printable)]
    simpa [IsAsciiPrintable] using ⟨Nat.not_lt.1 control, Nat.lt_succ_iff.1 printable⟩
  rw [if_neg (by simpa using printable)]
  by_cases small : character.toNat < 0x10000
  · rw [if_pos small]
    exact isAsciiLine_unitEscape small
  rw [if_neg small]
  exact isAsciiLine_append_iff.2
    ⟨isAsciiLine_unitEscape (by omega), isAsciiLine_unitEscape (by omega)⟩

theorem isAsciiLine_textLiteral (content : List Char) : IsAsciiLine (textLiteral true content) := by
  have escapes : IsAsciiLine (content.flatMap (escape true)) :=
    isAsciiLine_flatMap fun character _ => isAsciiLine_escape character
  simp only [textLiteral, isAsciiLine_cons_iff, isAsciiLine_append_iff]
  exact ⟨⟨by decide, escapes⟩, by decide⟩

theorem isAsciiLine_intText (number : Int) : IsAsciiLine (intText number) := by
  have digits : IsAsciiLine (Nat.toDigits 10 number.natAbs) := fun character member =>
    isAsciiPrintable_of_isDigit (isDigit_of_mem_toDigits number.natAbs character member)
  unfold intText
  split
  · exact isAsciiLine_cons_iff.2 ⟨by decide, digits⟩
  · exact digits

/-! ## Values -/

section Values

variable {style : Style} (ascii : style.IsAscii)

include ascii

theorem Style.IsAscii.isAsciiLine_lineStart (depth : Nat) :
    IsAsciiLine (style.lineStart depth) := by
  rw [lineStart, ascii.line]
  exact isAsciiLine_nil

/-- Further items can be printed when each of them can. -/
theorem isAsciiLine_renderItems
    {depth : Nat}
    {items : List Value}
    (each : ∀ item ∈ items, IsAsciiLine (renderAt style depth item)) :
    IsAsciiLine (renderItems style depth items) := by
  induction items with
  | nil => exact isAsciiLine_nil
  | cons item items inductionHypothesis =>
      rw [List.forall_mem_cons] at each
      simp only [renderItems, isAsciiLine_append_iff]
      exact ⟨⟨⟨ascii.item, ascii.isAsciiLine_lineStart depth⟩, each.1⟩,
        inductionHypothesis each.2⟩

/-- A field can be printed when its value can. -/
theorem isAsciiLine_renderField
    {depth : Nat}
    {field : String × Value}
    (value : IsAsciiLine (renderAt style depth field.2)) :
    IsAsciiLine (renderField style depth field) := by
  simp only [renderField, ascii.escapes, isAsciiLine_append_iff]
  exact ⟨isAsciiLine_textLiteral _, ascii.key, value⟩

/-- Further fields can be printed when the value of each can. -/
theorem isAsciiLine_renderFields
    {depth : Nat}
    {fields : List (String × Value)}
    (each : ∀ field ∈ fields, IsAsciiLine (renderAt style depth field.2)) :
    IsAsciiLine (renderFields style depth (Fields.named fields)) := by
  induction fields with
  | nil => exact isAsciiLine_nil
  | cons field fields inductionHypothesis =>
      rw [List.forall_mem_cons] at each
      simp only [renderFields_named_cons, isAsciiLine_append_iff]
      exact ⟨ascii.item, ascii.isAsciiLine_lineStart depth, isAsciiLine_renderField ascii each.1,
        inductionHypothesis each.2⟩

/-- A value is written with printable characters of ASCII, at any depth. -/
theorem IsData.isAsciiLine_renderAt
    {value : Value}
    (data : IsData value)
    (depth : Nat) :
    IsAsciiLine (renderAt style depth value) := by
  induction data generalizing depth with
  | null => exact (by decide : IsAsciiLine "null".toList)
  | bool flag =>
      rw [renderAt]
      cases flag <;> decide
  | int number _ => exact isAsciiLine_intText number
  | text content =>
      rw [renderAt, ascii.escapes]
      exact isAsciiLine_textLiteral content.toList
  | list items _ inductionHypothesis =>
      cases items with
      | nil => exact (by decide : IsAsciiLine ['[', ']'])
      | cons item items =>
          have further := isAsciiLine_renderItems ascii fun other member =>
            inductionHypothesis other (List.mem_cons_of_mem item member) (depth + 1)
          simp only [renderAt, isAsciiLine_cons_iff, isAsciiLine_append_iff, isAsciiLine_nil,
            and_true]
          exact ⟨⟨⟨⟨⟨by decide, ascii.isAsciiLine_lineStart (depth + 1)⟩,
            inductionHypothesis item List.mem_cons_self (depth + 1)⟩, further⟩,
            ascii.isAsciiLine_lineStart depth⟩, by decide⟩
  | record fields _ _ inductionHypothesis =>
      cases fields with
      | nil => exact (by decide : IsAsciiLine ['\x7b', '\x7d'])
      | cons field fields =>
          have first := isAsciiLine_renderField ascii
            (inductionHypothesis field List.mem_cons_self (depth + 1))
          have further := isAsciiLine_renderFields ascii fun other member =>
            inductionHypothesis other (List.mem_cons_of_mem field member) (depth + 1)
          simp only [renderAt_record_cons, isAsciiLine_cons_iff, isAsciiLine_append_iff,
            isAsciiLine_nil, and_true]
          exact ⟨by decide, ascii.isAsciiLine_lineStart (depth + 1), first, further,
            ascii.isAsciiLine_lineStart depth, by decide⟩

end Values

end Json
end RequestFlow
