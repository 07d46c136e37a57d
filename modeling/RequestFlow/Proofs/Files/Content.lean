import RequestFlow.Files.Content
import RequestFlow.Proofs.Flow.Ensures
import RequestFlow.Proofs.Json.Digits
import RequestFlow.Proofs.Text.Cut
import RequestFlow.Proofs.Text.Utf8

/-!
# Paths that are followed and files that are read

The names on a path have its characters, so that a null character stops it wherever it stands. A
file is read as JSON unless it cannot be decoded or has a number that is too long.
-/

namespace RequestFlow

/-! ## Paths -/

namespace Location

open Text

/-- The names on a path have all its characters but for slashes and dots. -/
theorem exists_mem_names_ofText_iff
    {path : String}
    {character : Char}
    (not_slash : character ≠ '/')
    (not_dot : character ≠ '.') :
    (∃ name ∈ (ofText path).names, character ∈ name.toList) ↔ character ∈ path.toList := by
  constructor
  · rintro ⟨name, listed, member⟩
    obtain ⟨part, kept, rfl⟩ := List.mem_map.1 listed
    rw [String.toList_ofList] at member
    exact (mem_of_mem_splitAt (List.mem_filter.1 kept).1 character member).1
  · intro member
    have whole : character ∈ (splitAt '/' path.toList).flatMap ('/' :: ·) := by
      rw [flatMap_splitAt]
      exact List.mem_cons_of_mem _ member
    obtain ⟨part, isPart, inside⟩ := List.mem_flatMap.1 whole
    have inPart : character ∈ part := (List.mem_cons.1 inside).resolve_left not_slash
    refine ⟨String.ofList part, List.mem_map_of_mem (List.mem_filter.2 ⟨isPart, ?_⟩), ?_⟩
    · refine decide_eq_true ⟨List.ne_nil_of_mem inPart, ?_⟩
      rintro rfl
      exact not_dot (List.mem_singleton.1 inPart)
    · rwa [String.toList_ofList]

/-- A location has a null character in one of its names. -/
def HasNull (location : Location) : Prop :=
  ∃ name ∈ location.names, '\x00' ∈ name.toList

theorem hasNull_iff
    {location : Location} :
    location.names.any (·.contains '\x00') = true ↔ location.HasNull := by
  simp [HasNull, String.contains_char_eq]

/-- What a path leads to has a null character if the path does. -/
theorem hasNull_join_iff
    {location : Location}
    {path : String}
    (clean : ¬location.HasNull) :
    (location.join path).HasNull ↔ '\x00' ∈ path.toList := by
  rw [← exists_mem_names_ofText_iff (by decide) (by decide), join]
  split
  · constructor
    · rintro ⟨name, listed, member⟩
      rcases List.mem_append.1 listed with before | after
      · exact absurd ⟨name, before, member⟩ clean
      · exact ⟨name, after, member⟩
    · rintro ⟨name, listed, member⟩
      exact ⟨name, List.mem_append_right _ listed, member⟩
  · rfl

theorem HasNull.of_parent
    {location : Location}
    (hasNull : location.parent.HasNull) :
    location.HasNull := by
  obtain ⟨name, listed, member⟩ := hasNull
  exact ⟨name, List.dropLast_subset _ listed, member⟩

end Location

/-! ## Contents -/

namespace FileTree

/-- Only paths without null characters are followed. -/
theorem not_hasNull_of_file
    {tree : FileTree}
    {location : Location}
    {content : List UInt8}
    (found : tree.find location = .file content) :
    ¬location.HasNull := by
  intro hasNull
  rw [find, if_pos (Location.hasNull_iff.2 hasNull)] at found
  cases found

/-- The mark begins with a byte that no character of ASCII has. -/
theorem withoutMark_cons
    {byte : UInt8}
    (unmarked : byte ≠ 0xEF)
    (rest : List UInt8) :
    withoutMark (byte :: rest) = byte :: rest := by
  have other : (byte == 0xEF) = false := beq_eq_false_iff_ne.2 unmarked
  have another : ((0xEF : UInt8) == byte) = false := beq_eq_false_iff_ne.2 unmarked.symm
  simp [withoutMark, orderMark, List.isPrefixOf, other, another]

/-- A text that begins with a character of ASCII is read again. -/
theorem textOf_encodeUtf8
    {text : String}
    {first : Char}
    {rest : List Char}
    (begins : text.toList = first :: rest)
    (ascii : first.toNat < 0x80) :
    textOf (Text.encodeUtf8 text.toList) = .ok text := by
  have one : Text.encodeChar first = [.ofNat first.toNat] := if_pos ascii
  have plain : UInt8.ofNat first.toNat ≠ 0xEF := by
    intro same
    have number := congrArg UInt8.toNat same
    rw [Text.toNat_ofNat_of_lt (by omega)] at number
    simp at number
    omega
  have unmarked : withoutMark (Text.encodeUtf8 text.toList) = Text.encodeUtf8 text.toList := by
    rw [begins, Text.encodeUtf8, List.flatMap_cons, one, List.singleton_append]
    exact withoutMark_cons plain _
  rw [textOf, unmarked, Text.decodeUtf8_encodeUtf8]
  exact congrArg Except.ok String.ofList_toList

theorem textOf_eq_error_iff
    {content : List UInt8}
    {fault : Fault} :
    textOf content = .error fault ↔
      ∃ flaw, Text.decodeUtf8 (withoutMark content) = .error flaw ∧ fault = .undecodable flaw := by
  unfold textOf
  cases Text.decodeUtf8 (withoutMark content) <;> simp [eq_comm]

theorem jsonOf_of_textOf
    {content : List UInt8}
    {text : String}
    (decoded : textOf content = .ok text) :
    jsonOf content = Json.embedded? text := by
  rw [jsonOf, decoded]
  rfl

/-- A file is read as JSON unless it has a malformed sequence of bytes or a number that is too long.
-/
theorem jsonOf_eq_error_iff
    {content : List UInt8}
    {fault : Fault} :
    jsonOf content = .error fault ↔
      (∃ flaw, Text.decodeUtf8 (withoutMark content) = .error flaw ∧ fault = .undecodable flaw) ∨
        ∃ text count, textOf content = .ok text ∧ Numeral.digitLimit < count ∧
          Json.read text = .error (.tooManyDigits count) ∧ fault = .tooManyDigits count := by
  rw [jsonOf, bind_eq_error_iff, textOf_eq_error_iff]
  simp only [Json.embedded?_eq_error_iff, exists_and_left]

end FileTree
end RequestFlow
