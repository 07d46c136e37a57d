import RequestFlow.Json.Embedded
import RequestFlow.Proofs.Json.Text
import RequestFlow.Proofs.Json.Token

/-!
# JSON read back

Values made of null, truth values, whole numbers, texts, lists and objects are read back from how
they are written, whatever the style: the order of fields, every character and every sign survive.
The number that bounds the nesting of calls when reading is large enough for what is read.
-/

namespace RequestFlow
namespace Json

open Numeral Text

/-- The values of JSON without doubles: whole numbers stay within the conversion limit, and the keys
of an object are texts that differ. -/
inductive IsData : Value → Prop
  | null : IsData .null
  | bool (flag : Bool) : IsData (.bool flag)
  | int (number : Int) :
      (Nat.toDigits 10 number.natAbs).length ≤ digitLimit → IsData (.int number)
  | text (content : String) : IsData (.text content)
  | list (items : List Value) : (∀ item ∈ items, IsData item) → IsData (.list items)
  | record (fields : List (String × Value)) :
      (fields.map (·.1)).Nodup → (∀ field ∈ fields, IsData field.2) → IsData (.record fields)

/-! ## Layout -/

/-- Beside the comma between items and the colon after a key, a style adds nothing but blanks. -/
structure Style.IsBlank (style : Style) : Prop where
  /-- A comma and blanks stand between items. -/
  item : ∃ gap, style.itemSeparator = ',' :: gap ∧ ∀ character ∈ gap, isSpace character = true
  /-- A colon and blanks stand after a key. -/
  key : ∃ gap, style.keySeparator = ':' :: gap ∧ ∀ character ∈ gap, isSpace character = true

theorem compact_isBlank : compact.IsBlank where
  item := ⟨[], rfl, by simp⟩
  key := ⟨[], rfl, by simp⟩

/-- A line starts with blanks. -/
theorem isSpace_of_mem_lineStart
    (style : Style)
    (depth : Nat) :
    ∀ character ∈ style.lineStart depth, isSpace character = true := by
  intro character member
  unfold Style.lineStart at member
  split at member
  · simp at member
  · rcases List.mem_cons.1 member with rfl | blank
    · rfl
    · rw [List.eq_of_mem_replicate blank]
      rfl

/-- Between two items stand a comma and blanks. -/
theorem Style.IsBlank.separator
    {style : Style}
    (blank : style.IsBlank)
    (depth : Nat) :
    ∃ gap, (∀ character ∈ gap, isSpace character = true) ∧
      style.itemSeparator ++ style.lineStart depth = ',' :: gap := by
  obtain ⟨gap, separator, gapBlank⟩ := blank.item
  refine ⟨gap ++ style.lineStart depth, ?_, by rw [separator, List.cons_append]⟩
  intro character member
  rcases List.mem_append.1 member with inGap | inLine
  · exact gapBlank character inGap
  · exact isSpace_of_mem_lineStart style depth character inLine

/-- A character that is no part of a number ends one. -/
theorem endsNumber_cons
    {character : Char}
    (digit : character.isDigit = false)
    (others : character ≠ '.' ∧ character ≠ 'e' ∧ character ≠ 'E')
    (rest : List Char) :
    EndsNumber (character :: rest) := by
  simpa [EndsNumber] using ⟨digit, others⟩

/-- Blanks end a number. -/
theorem endsNumber_append
    {gap rest : List Char}
    (blank : ∀ character ∈ gap, isSpace character = true)
    (ends : EndsNumber rest) :
    EndsNumber (gap ++ rest) := by
  cases gap with
  | nil => exact ends
  | cons character gap =>
      have space := blank character (by simp)
      simp only [isSpace, Bool.or_eq_true, beq_iff_eq] at space
      rcases space with ((rfl | rfl) | rfl) | rfl <;>
        exact endsNumber_cons (by decide) (by decide) _

/-- A digit or a minus sign is no blank, and opens and closes nothing. -/
theorem number_start
    {first : Char}
    (starts : first = '-' ∨ first.isDigit = true) :
    isSpace first = false ∧ first ≠ ']' ∧ first ≠ '"' ∧ first ≠ '[' ∧ first ≠ '\x7b' := by
  rcases starts with rfl | digit
  · decide
  · have other : ∀ character : Char, character.isDigit = false → first ≠ character :=
      fun character different equal => ne_of_isDigit digit different equal.symm
    simp [isSpace, other]

/-- A written value starts with a character that is no blank and closes nothing. -/
theorem renderAt_cons
    {value : Value}
    (data : IsData value)
    (style : Style)
    (depth : Nat) :
    ∃ first rest, renderAt style depth value = first :: rest ∧
      isSpace first = false ∧ first ≠ ']' := by
  cases data with
  | null => exact ⟨'n', _, rfl, by decide, by decide⟩
  | bool flag => cases flag <;> exact ⟨_, _, rfl, by decide, by decide⟩
  | int number _ =>
      obtain ⟨first, rest, written, starts⟩ := intText_cons number
      exact ⟨first, rest, written, (number_start starts).1, (number_start starts).2.1⟩
  | text content => exact ⟨'"', _, rfl, by decide, by decide⟩
  | list items all => cases items <;> exact ⟨'[', _, rfl, by decide, by decide⟩
  | record fields => cases fields <;> exact ⟨'\x7b', _, rfl, by decide, by decide⟩

/-- What bounds the length of a written value is not zero. -/
theorem exists_succ_of_length_le
    {value : Value}
    (data : IsData value)
    {style : Style}
    {depth fuel : Nat}
    (enough : 2 * (renderAt style depth value).length ≤ fuel) :
    ∃ less, fuel = less + 1 := by
  obtain ⟨first, rest, written, _⟩ := renderAt_cons data style depth
  rw [written, List.length_cons] at enough
  exact ⟨fuel - 1, by omega⟩

/-- Blanks in front of a written value are skipped. -/
theorem skipSpace_renderAt
    {value : Value}
    (data : IsData value)
    (style : Style)
    (depth : Nat)
    {gap : List Char}
    (blank : ∀ character ∈ gap, isSpace character = true)
    (rest : List Char) :
    skipSpace (gap ++ (renderAt style depth value ++ rest)) =
      renderAt style depth value ++ rest := by
  obtain ⟨first, others, written, solid, _⟩ := renderAt_cons data style depth
  rw [written]
  exact skipSpace_append_cons blank solid _

/-! ## Fields -/

/-- A field as it is written. -/
def renderField (style : Style) (depth : Nat) (field : String × Value) : List Char :=
  textLiteral style.asciiOnly field.1.toList ++
    (style.keySeparator ++ renderAt style depth field.2)

/-- Further fields are written one after another, each after a separator. -/
theorem renderFields_named_cons
    (style : Style)
    (depth : Nat)
    (field : String × Value)
    (others : List (String × Value)) :
    renderFields style depth (Fields.named (field :: others)) =
      style.itemSeparator ++ (style.lineStart depth ++ (renderField style depth field ++
        renderFields style depth (Fields.named others))) := by
  simp [Fields.named, renderFields, renderField, keyName]

/-- An object with a field is written with that field and then further ones, between braces. -/
theorem renderAt_record_cons
    (style : Style)
    (depth : Nat)
    (field : String × Value)
    (others : List (String × Value)) :
    renderAt style depth (.record (field :: others)) =
      '\x7b' :: (style.lineStart (depth + 1) ++ (renderField style (depth + 1) field ++
        (renderFields style (depth + 1) (Fields.named others) ++
          (style.lineStart depth ++ ['\x7d'])))) := by
  simp [Value.record, Fields.named, renderAt, renderField, keyName]

/-- A written field starts with a quote, and so blanks in front of it are skipped. -/
theorem skipSpace_renderField
    (style : Style)
    {gap : List Char}
    (gapBlank : ∀ character ∈ gap, isSpace character = true)
    (depth : Nat)
    (field : String × Value)
    (rest : List Char) :
    skipSpace (gap ++ (renderField style depth field ++ rest)) =
      renderField style depth field ++ rest :=
  skipSpace_append_cons gapBlank (by decide) _

/-- Fields with names that differ are merged as they stand. -/
theorem merge_named
    {fields : List (String × Value)}
    (distinct : (fields.map (·.1)).Nodup) :
    Assoc.merge [] (Fields.named fields) = Fields.named fields := by
  apply Assoc.merge_of_distinct
  rw [List.nil_append, Fields.named, List.pairwise_map]
  rw [List.Nodup, List.pairwise_map] at distinct
  exact distinct.imp fun different => by simpa using different

/-- How an object goes on after a field. -/
def furtherFields
    (fuel : Nat)
    (field : String × Value)
    (rest : List Char) : Except ReadFault (List (Key × Value) × List Char) :=
  match skipSpace rest with
  | '\x7d' :: after => .ok ([(.text field.1, field.2)], after)
  | ',' :: after =>
    match readFields fuel (skipSpace after) with
    | .ok (fields, final) => .ok ((.text field.1, field.2) :: fields, final)
    | .error fault => .error fault
  | _ => .error .malformed

/-! ## Values -/

/-- A value is read back from how it is written at any depth, in front of what ends a number. -/
def ReadsBack (style : Style) (value : Value) : Prop :=
  ∀ depth fuel rest, EndsNumber rest → 2 * (renderAt style depth value).length ≤ fuel →
    readValue fuel (renderAt style depth value ++ rest) = .ok (value, rest)

/-- What opens no text, list or object is read as a word or a number. -/
theorem readValue_of_scalar
    {first : Char}
    (noText : first ≠ '"')
    (noList : first ≠ '[')
    (noObject : first ≠ '\x7b')
    (fuel : Nat)
    (rest : List Char) :
    readValue (fuel + 1) (first :: rest) = readScalar (first :: rest) := by
  rw [readValue]
  · intro zero
    omega
  · intro _ _ _ equal
    simp_all
  · intro _ _ _ equal
    simp_all
  · intro _ _ _ equal
    simp_all

theorem readsBack_null (style : Style) : ReadsBack style .null := by
  intro depth fuel rest _ enough
  obtain ⟨fuel, rfl⟩ := exists_succ_of_length_le .null enough
  exact (readValue_of_scalar (by decide) (by decide) (by decide) fuel _).trans
    (readScalar_null rest)

theorem readsBack_bool
    (style : Style)
    (flag : Bool) :
    ReadsBack style (.bool flag) := by
  intro depth fuel rest _ enough
  obtain ⟨fuel, rfl⟩ := exists_succ_of_length_le (.bool flag) enough
  refine Eq.trans ?_ (readScalar_bool flag rest)
  cases flag <;>
    exact readValue_of_scalar (by decide) (by decide) (by decide) fuel _

theorem readsBack_int
    (style : Style)
    {number : Int}
    (short : (Nat.toDigits 10 number.natAbs).length ≤ digitLimit) :
    ReadsBack style (.int number) := by
  intro depth fuel rest ends enough
  obtain ⟨first, others, written, starts⟩ := intText_cons number
  obtain ⟨_, _, noText, noList, noObject⟩ := number_start starts
  obtain ⟨fuel, rfl⟩ := exists_succ_of_length_le (.int number short) enough
  have read := readScalar_intText short ends
  rw [written] at read
  rw [renderAt, written, List.cons_append, readValue_of_scalar noText noList noObject]
  exact read

theorem readsBack_text
    (style : Style)
    (content : String) :
    ReadsBack style (.text content) := by
  intro depth fuel rest _ enough
  obtain ⟨fuel, rfl⟩ := exists_succ_of_length_le (.text content) enough
  simp [renderAt, textLiteral, readValue, readText_textLiteral]

/-! ## Lists -/

section Items

variable {style : Style} (blank : style.IsBlank)

include blank

/-- A further item stands after a comma and blanks. -/
theorem renderItems_cons
    (depth : Nat)
    (item : Value)
    (others : List Value) :
    ∃ gap, (∀ character ∈ gap, isSpace character = true) ∧
      renderItems style depth (item :: others) =
        ',' :: (gap ++ (renderAt style depth item ++ renderItems style depth others)) := by
  obtain ⟨gap, gapBlank, separator⟩ := blank.separator depth
  refine ⟨gap, gapBlank, ?_⟩
  rw [renderItems, separator]
  simp

/-- The items of a list are read back, up to the closing bracket. -/
theorem readItems_renderItems
    (depth : Nat)
    {gap : List Char}
    (gapBlank : ∀ character ∈ gap, isSpace character = true)
    (after : List Char)
    (item : Value)
    (others : List Value)
    (data : ∀ value ∈ item :: others, IsData value ∧ ReadsBack style value)
    (fuel : Nat)
    (enough : 2 * (renderAt style depth item ++ renderItems style depth others).length < fuel) :
    readItems fuel
        (renderAt style depth item ++ (renderItems style depth others ++ (gap ++ ']' :: after))) =
      .ok (item :: others, after) := by
  induction others generalizing item fuel with
  | nil =>
      obtain ⟨fuel, rfl⟩ : ∃ less, fuel = less + 1 := ⟨fuel - 1, by omega⟩
      have ends : EndsNumber (gap ++ ']' :: after) :=
        endsNumber_append gapBlank (endsNumber_cons (by decide) (by decide) _)
      have read := (data item (by simp)).2 depth fuel (gap ++ ']' :: after) ends
        (by simp [renderItems] at enough; omega)
      have closed : skipSpace (gap ++ ']' :: after) = ']' :: after :=
        skipSpace_append_cons gapBlank (by decide) _
      simp only [renderItems, List.nil_append, readItems, read, closed]
  | cons other others inductionHypothesis =>
      obtain ⟨fuel, rfl⟩ : ∃ less, fuel = less + 1 := ⟨fuel - 1, by omega⟩
      obtain ⟨blanks, allBlank, written⟩ := renderItems_cons blank depth other others
      rw [written] at enough ⊢
      simp only [List.length_append, List.length_cons] at enough
      have read := (data item (by simp)).2 depth fuel
        (',' :: (blanks ++ (renderAt style depth other ++ renderItems style depth others)) ++
          (gap ++ ']' :: after))
        (endsNumber_cons (by decide) (by decide) _) (by omega)
      have further := inductionHypothesis other
        (fun value member => data value (List.mem_cons_of_mem item member)) fuel
        (by simp only [List.length_append]; omega)
      have comma : ∀ rest, skipSpace (',' :: rest) = ',' :: rest := skipSpace_cons (by decide)
      have skipped := skipSpace_renderAt (data other (by simp)).1 style depth allBlank
        (renderItems style depth others ++ (gap ++ ']' :: after))
      rw [readItems, read]
      simp only [List.cons_append, List.append_assoc, comma, skipped, further]

/-- A list is read back when its items are. -/
theorem readsBack_list
    {items : List Value}
    (data : ∀ item ∈ items, IsData item ∧ ReadsBack style item) :
    ReadsBack style (.list items) := by
  intro depth fuel rest _ enough
  cases items with
  | nil =>
      obtain ⟨fuel, rfl⟩ := exists_succ_of_length_le (.list [] (List.forall_mem_nil _)) enough
      rfl
  | cons item others =>
      simp only [renderAt, List.cons_append, List.append_assoc, List.length_cons,
        List.length_append] at enough ⊢
      obtain ⟨fuel, rfl⟩ : ∃ less, fuel = less + 1 := ⟨fuel - 1, by omega⟩
      have skipped := skipSpace_renderAt (data item (by simp)).1 style (depth + 1)
        (isSpace_of_mem_lineStart style (depth + 1))
        (renderItems style (depth + 1) others ++ (style.lineStart depth ++ ']' :: rest))
      have read := readItems_renderItems blank (depth + 1)
        (isSpace_of_mem_lineStart style depth) rest item others data fuel
        (by simp only [List.length_append]; omega)
      obtain ⟨first, tail, written, _, noEnd⟩ :=
        renderAt_cons (data item (by simp)).1 style (depth + 1)
      rw [readValue]
      simp only [List.nil_append]
      rw [skipped]
      split
      · simp_all
      · rw [read]

/-! ## Objects -/

/-- A further field stands after a comma and blanks. -/
theorem renderFields_cons
    (depth : Nat)
    (field : String × Value)
    (others : List (String × Value)) :
    ∃ gap, (∀ character ∈ gap, isSpace character = true) ∧
      renderFields style depth (Fields.named (field :: others)) =
        ',' :: (gap ++ (renderField style depth field ++
          renderFields style depth (Fields.named others))) := by
  obtain ⟨gap, gapBlank, separator⟩ := blank.separator depth
  refine ⟨gap, gapBlank, ?_⟩
  rw [renderFields_named_cons, ← List.append_assoc, separator, List.cons_append]

/-- A field is read back, and what follows it says how the object goes on. -/
theorem readFields_renderField
    (depth : Nat)
    {field : String × Value}
    (data : IsData field.2)
    (back : ReadsBack style field.2)
    {rest : List Char}
    (ends : EndsNumber rest)
    {fuel : Nat}
    (enough : 2 * (renderField style depth field).length ≤ fuel) :
    readFields (fuel + 1) (renderField style depth field ++ rest) =
      furtherFields fuel field rest := by
  obtain ⟨name, value⟩ := field
  obtain ⟨gap, separator, gapBlank⟩ := blank.key
  have short : 2 * (renderAt style depth value).length ≤ fuel := by
    simp only [renderField, List.length_append] at enough
    omega
  have colon : ∀ rest, skipSpace (':' :: rest) = ':' :: rest := skipSpace_cons (by decide)
  have skipped := skipSpace_renderAt data style depth gapBlank rest
  have read := back depth fuel rest ends short
  simp only [renderField, textLiteral, separator, List.cons_append, List.append_assoc,
    List.nil_append, readFields, readText_textLiteral, colon, skipped, read, String.ofList_toList]
  rfl

/-- The fields of an object are read back, up to the closing brace. -/
theorem readFields_renderFields
    (depth : Nat)
    {gap : List Char}
    (gapBlank : ∀ character ∈ gap, isSpace character = true)
    (after : List Char)
    (field : String × Value)
    (others : List (String × Value))
    (data : ∀ entry ∈ field :: others, IsData entry.2 ∧ ReadsBack style entry.2)
    (fuel : Nat)
    (enough :
      2 * (renderField style depth field ++
        renderFields style depth (Fields.named others)).length < fuel) :
    readFields fuel
        (renderField style depth field ++
          (renderFields style depth (Fields.named others) ++ (gap ++ '\x7d' :: after))) =
      .ok (Fields.named (field :: others), after) := by
  induction others generalizing field fuel with
  | nil =>
      obtain ⟨fuel, rfl⟩ : ∃ less, fuel = less + 1 := ⟨fuel - 1, by omega⟩
      obtain ⟨fieldData, fieldBack⟩ := data field (by simp)
      have ends : EndsNumber (gap ++ '\x7d' :: after) :=
        endsNumber_append gapBlank (endsNumber_cons (by decide) (by decide) _)
      have closed : skipSpace (gap ++ '\x7d' :: after) = '\x7d' :: after :=
        skipSpace_append_cons gapBlank (by decide) _
      have nothing : renderFields style depth (Fields.named []) = [] := rfl
      rw [nothing, List.nil_append, readFields_renderField blank depth fieldData fieldBack ends,
        furtherFields, closed]
      · rfl
      · simp only [nothing, List.append_nil] at enough
        omega
  | cons other others inductionHypothesis =>
      obtain ⟨fuel, rfl⟩ : ∃ less, fuel = less + 1 := ⟨fuel - 1, by omega⟩
      obtain ⟨fieldData, fieldBack⟩ := data field (by simp)
      obtain ⟨blanks, allBlank, written⟩ := renderFields_cons blank depth other others
      rw [written] at enough ⊢
      simp only [List.length_append, List.length_cons] at enough
      have further := inductionHypothesis other
        (fun entry member => data entry (List.mem_cons_of_mem field member)) fuel
        (by simp only [List.length_append]; omega)
      have comma : ∀ rest, skipSpace (',' :: rest) = ',' :: rest := skipSpace_cons (by decide)
      have skipped := skipSpace_renderField style allBlank depth other
        (renderFields style depth (Fields.named others) ++ (gap ++ '\x7d' :: after))
      simp only [List.cons_append, List.append_assoc]
      rw [readFields_renderField blank depth fieldData fieldBack
        (endsNumber_cons (by decide) (by decide) _) (by omega)]
      simp only [furtherFields, comma, skipped, further]
      rfl

/-- An object whose keys are texts that differ is read back when its values are. -/
theorem readsBack_record
    {fields : List (String × Value)}
    (distinct : (fields.map (·.1)).Nodup)
    (data : ∀ field ∈ fields, IsData field.2 ∧ ReadsBack style field.2) :
    ReadsBack style (.record fields) := by
  intro depth fuel rest _ enough
  cases fields with
  | nil =>
      obtain ⟨fuel, rfl⟩ :=
        exists_succ_of_length_le (.record [] List.nodup_nil (List.forall_mem_nil _)) enough
      rfl
  | cons field others =>
      rw [renderAt_record_cons] at enough ⊢
      simp only [List.cons_append, List.append_assoc, List.length_cons,
        List.length_append] at enough ⊢
      obtain ⟨fuel, rfl⟩ : ∃ less, fuel = less + 1 := ⟨fuel - 1, by omega⟩
      have skipped := skipSpace_renderField style (isSpace_of_mem_lineStart style (depth + 1))
        (depth + 1) field
        (renderFields style (depth + 1) (Fields.named others) ++
          (style.lineStart depth ++ '\x7d' :: rest))
      have read := readFields_renderFields blank (depth + 1)
        (isSpace_of_mem_lineStart style depth) rest field others data fuel
        (by simp only [List.length_append]; omega)
      rw [readValue]
      simp only [List.nil_append]
      rw [skipped]
      split
      · next equal => simp [renderField, textLiteral] at equal
      · rw [read]
        simp only [merge_named distinct]
        rfl

end Items

/-! ## Whole texts -/

/-- Whatever the style, every value is read back from how it is written. -/
theorem IsData.readsBack
    {style : Style}
    (blank : style.IsBlank)
    {value : Value}
    (data : IsData value) :
    ReadsBack style value := by
  induction data with
  | null => exact readsBack_null style
  | bool flag => exact readsBack_bool style flag
  | int number short => exact readsBack_int style short
  | text content => exact readsBack_text style content
  | list items all inductionHypothesis =>
      exact readsBack_list blank fun item member =>
        ⟨all item member, inductionHypothesis item member⟩
  | record fields distinct all inductionHypothesis =>
      exact readsBack_record blank distinct fun field member =>
        ⟨all field member, inductionHypothesis field member⟩

/-- What is written is read back as a whole text. -/
theorem readChars_render
    {style : Style}
    (blank : style.IsBlank)
    {value : Value}
    (data : IsData value) :
    readChars (render style value) = .ok value := by
  have skipped := skipSpace_renderAt data style 0 (List.forall_mem_nil _) []
  have read := data.readsBack blank 0 (2 * (renderAt style 0 value).length + 2) [] endsNumber_nil
    (by omega)
  simp only [List.nil_append, List.append_nil] at skipped read
  rw [readChars, render, skipped, read]
  rfl

/-- No key is a tuple. -/
theorem IsData.hasTupleKey
    {value : Value}
    (data : IsData value) :
    hasTupleKey value = false := by
  induction data with
  | null => rfl
  | bool flag => rfl
  | int number short => rfl
  | text content => rfl
  | list items all inductionHypothesis =>
      rw [Json.hasTupleKey]
      clear all
      induction items with
      | nil => rfl
      | cons item items further =>
          rw [anyTupleKey, inductionHypothesis item (by simp), Bool.false_or]
          exact further fun other member => inductionHypothesis other (by simp [member])
  | record fields distinct all inductionHypothesis =>
      rw [Value.record, Fields.named, Json.hasTupleKey]
      clear all distinct
      induction fields with
      | nil => rfl
      | cons field fields further =>
          have others := further fun other member => inductionHypothesis other (by simp [member])
          simp [fieldsTupleKey, inductionHypothesis field, others]

/-- Writing a value gives a text, and the text is found to be JSON of that value. -/
theorem write_embedded
    {style : Style}
    (blank : style.IsBlank)
    {value : Value}
    (data : IsData value) :
    ∃ content, write style value = .ok content ∧ embedded? content = .ok (some value) := by
  refine ⟨String.ofList (render style value), by simp [write, data.hasTupleKey], ?_⟩
  rw [embedded?, read, String.toList_ofList, readChars_render blank data]

end Json
end RequestFlow
