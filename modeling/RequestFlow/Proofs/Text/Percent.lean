import RequestFlow.Proofs.Text.Utf8
import RequestFlow.Text.Percent

/-!
# Decoding percent escapes

A text that is encoded is decoded again. Decoding does not reach over a slash, so that a path is
decoded segment by segment, and it makes no text longer.
-/

namespace RequestFlow
namespace Text

variable {character : Char} {text front rest : List Char} {covered : Nat}

/-! ## Bytes of a run of ASCII characters -/

/-- An escape consists of a percent sign and two more characters. -/
theorem two_le_length_of_escapedByte?
    {byte : UInt8}
    (escaped : escapedByte? (character :: text) = some byte) :
    2 ≤ text.length := by
  unfold escapedByte? at escaped
  split at escaped
  · next high low further same =>
      obtain ⟨-, rfl⟩ := List.cons.inj same
      exact Nat.le_add_left 2 further.length
  · cases escaped

theorem escapedByte?_of_ne
    (different : character ≠ '%') :
    escapedByte? (character :: text) = none := by
  unfold escapedByte?
  split
  · next high low further same => exact absurd (List.cons.inj same).1 different
  · rfl

/-- A character that begins no escape stands for itself. -/
theorem percentBytesAfter_of_ne
    (different : character ≠ '%')
    (text : List Char) :
    percentBytesAfter 0 (character :: text) = .ofNat character.toNat :: percentBytes text := by
  rw [percentBytesAfter, escapedByte?_of_ne different]
  rfl

/-- A slash is part of no escape. -/
theorem escapedByte?_append_slash
    (character : Char)
    (front rest : List Char) :
    escapedByte? (character :: (front ++ '/' :: rest)) = escapedByte? (character :: front) := by
  have no_digit : hexDigit? '/' = none := rfl
  by_cases percent : character = '%'
  · subst percent
    match front with
    | [] =>
        cases rest with
        | nil => rfl
        | cons low rest => simp [escapedByte?, no_digit]
    | [high] =>
        simp only [List.cons_append, List.nil_append, escapedByte?, no_digit]
        cases hexDigit? high <;> rfl
    | _ :: _ :: _ => rfl
  · rw [escapedByte?_of_ne percent, escapedByte?_of_ne percent]

/-- A slash cuts the bytes of a run in two. -/
theorem percentBytesAfter_append_slash
    (inside : covered ≤ front.length)
    (rest : List Char) :
    percentBytesAfter covered (front ++ '/' :: rest) =
      percentBytesAfter covered front ++ 0x2F :: percentBytes rest := by
  induction front generalizing covered with
  | nil =>
      rw [Nat.le_zero.1 inside, List.nil_append, percentBytesAfter_of_ne (by decide)]
      rfl
  | cons character front inductionHypothesis =>
      cases covered with
      | succ covered => exact inductionHypothesis (Nat.le_of_succ_le_succ inside)
      | zero =>
          rw [List.cons_append, percentBytesAfter, percentBytesAfter, escapedByte?_append_slash]
          split
          · next byte escaped =>
              rw [inductionHypothesis (two_le_length_of_escapedByte? escaped)]
              rfl
          · rw [inductionHypothesis (Nat.zero_le _)]
            rfl

theorem length_percentBytesAfter_le
    (covered : Nat)
    (text : List Char) :
    (percentBytesAfter covered text).length ≤ text.length := by
  induction text generalizing covered with
  | nil => cases covered <;> exact Nat.le_refl 0
  | cons character rest inductionHypothesis =>
      cases covered with
      | succ covered => exact Nat.le_succ_of_le (inductionHypothesis covered)
      | zero =>
          rw [percentBytesAfter]
          split <;> exact Nat.succ_le_succ (inductionHypothesis _)

/-! ## Decoding -/

theorem decode_percentBytes_append_slash
    (front rest : List Char) :
    decodeUtf8Lenient (percentBytes (front ++ '/' :: rest)) =
      decodeUtf8Lenient (percentBytes front) ++ '/' :: decodeUtf8Lenient (percentBytes rest) := by
  rw [percentBytes, percentBytesAfter_append_slash (Nat.zero_le _),
    decodeUtf8Lenient_append_ascii (by decide)]
  rfl

/-- A slash among the characters that are still to be read cuts them in two. -/
theorem percentDecodeAfter_append_slash
    (later earlier rest : List Char) :
    percentDecodeAfter (later ++ '/' :: earlier) rest =
      decodeUtf8Lenient (percentBytes earlier.reverse) ++ '/' :: percentDecodeAfter later rest := by
  have pending : (later ++ '/' :: earlier).reverse = earlier.reverse ++ '/' :: later.reverse := by
    simp
  induction rest generalizing later with
  | nil =>
      rw [percentDecodeAfter, percentDecodeAfter, pending]
      exact decode_percentBytes_append_slash _ _
  | cons character rest inductionHypothesis =>
      rw [percentDecodeAfter, percentDecodeAfter]
      split
      · exact inductionHypothesis (character :: later) (by simp)
      · rw [pending, decode_percentBytes_append_slash, List.append_assoc, List.cons_append]

/-- The parts of a path between slashes are decoded one by one. -/
theorem percentDecode_append_slash
    (front rest : List Char) :
    percentDecode (front ++ '/' :: rest) = percentDecode front ++ '/' :: percentDecode rest := by
  suffices cut : ∀ pending, percentDecodeAfter pending (front ++ '/' :: rest) =
      percentDecodeAfter pending front ++ '/' :: percentDecode rest from cut []
  induction front with
  | nil =>
      intro pending
      change percentDecodeAfter ('/' :: pending) rest = _
      exact percentDecodeAfter_append_slash [] pending rest
  | cons character front inductionHypothesis =>
      intro pending
      rw [List.cons_append, percentDecodeAfter, percentDecodeAfter]
      split
      · exact inductionHypothesis _
      · rw [inductionHypothesis, List.append_assoc, List.cons_append]

/-- Decoding makes no text longer. -/
theorem length_percentDecode_le (text : List Char) :
    (percentDecode text).length ≤ text.length := by
  have run : ∀ pending : List Char,
      (decodeUtf8Lenient (percentBytes pending.reverse)).length ≤ pending.length := by
    intro pending
    calc (decodeUtf8Lenient (percentBytes pending.reverse)).length
        ≤ (percentBytes pending.reverse).length := length_decodeUtf8Lenient_le _
      _ ≤ pending.reverse.length := length_percentBytesAfter_le 0 _
      _ = pending.length := List.length_reverse
  suffices bound : ∀ pending, (percentDecodeAfter pending text).length ≤
      pending.length + text.length by
    have bounded := bound []
    rwa [List.length_nil, Nat.zero_add] at bounded
  induction text with
  | nil => exact run
  | cons character rest inductionHypothesis =>
      intro pending
      rw [percentDecodeAfter, List.length_cons]
      split
      · have later := inductionHypothesis (character :: pending)
        rw [List.length_cons] at later
        omega
      · have earlier := run pending
        have later := inductionHypothesis []
        rw [List.length_nil] at later
        rw [List.length_append, List.length_cons]
        omega

/-- A text of ASCII characters is one run. -/
theorem percentDecode_of_ascii
    (ascii : ∀ character ∈ text, character.toNat < 128) :
    percentDecode text = decodeUtf8Lenient (percentBytes text) := by
  suffices run : ∀ pending, percentDecodeAfter pending text =
      decodeUtf8Lenient (percentBytes (pending.reverse ++ text)) from run []
  induction text with
  | nil =>
      intro pending
      rw [percentDecodeAfter, List.append_nil]
  | cons character rest inductionHypothesis =>
      intro pending
      rw [List.forall_mem_cons] at ascii
      rw [percentDecodeAfter, if_pos ascii.1, inductionHypothesis ascii.2, List.reverse_cons,
        List.append_assoc, List.singleton_append]

/-- A text without percent signs is left as it is. -/
theorem percentDecode_of_not_mem
    (plain : '%' ∉ text) :
    percentDecode text = text := by
  have run : ∀ run : List Char, (∀ character ∈ run, character.toNat < 128) → '%' ∉ run →
      decodeUtf8Lenient (percentBytes run) = run := by
    intro run ascii plain
    have bytes : percentBytes run = encodeUtf8 run := by
      induction run with
      | nil => rfl
      | cons character rest inductionHypothesis =>
          rw [List.forall_mem_cons] at ascii
          rw [List.mem_cons, not_or] at plain
          rw [percentBytes, percentBytesAfter_of_ne (Ne.symm plain.1), encodeUtf8,
            List.flatMap_cons, encodeChar, if_pos ascii.1]
          exact congrArg (_ :: ·) (inductionHypothesis ascii.2 plain.2)
    rw [bytes, decodeUtf8Lenient_encodeUtf8]
  suffices decoded : ∀ pending : List Char, (∀ character ∈ pending, character.toNat < 128) →
      '%' ∉ pending → percentDecodeAfter pending text = pending.reverse ++ text from
    decoded [] (List.forall_mem_nil _) List.not_mem_nil
  induction text with
  | nil =>
      intro pending ascii free
      rw [percentDecodeAfter, List.append_nil]
      exact run _ (by simpa using ascii) (by simpa using free)
  | cons character rest inductionHypothesis =>
      intro pending ascii free
      rw [List.mem_cons, not_or] at plain
      rw [percentDecodeAfter]
      split
      · next small =>
          rw [inductionHypothesis plain.2 _ (List.forall_mem_cons.2 ⟨small, ascii⟩)
            (by simp [plain.1, free])]
          simp
      · have onward := inductionHypothesis plain.2 [] (List.forall_mem_nil _) List.not_mem_nil
        rw [run _ (by simpa using ascii) (by simpa using free), onward]
        rfl

/-! ## Decoding what was encoded -/

/-- The digits of an escape. -/
theorem digits_of_byte :
    ∀ value < 256,
      (List.replicate (2 - ((Nat.toDigits 16 value).map Char.toUpper).length) '0' ++
        (Nat.toDigits 16 value).map Char.toUpper).map hexDigit? =
          [some (value / 16), some (value % 16)] := by
  decide +kernel

/-- The characters that encoding leaves as they are, by their code points. -/
theorem isUnreserved_iff :
    isUnreserved character = true ↔
      48 ≤ character.toNat ∧ character.toNat ≤ 57 ∨
      65 ≤ character.toNat ∧ character.toNat ≤ 90 ∨
      97 ≤ character.toNat ∧ character.toNat ≤ 122 ∨
      character.toNat = 45 ∨ character.toNat = 46 ∨ character.toNat = 95 ∨
        character.toNat = 126 := by
  have upper : character.isUpper = true ↔ 65 ≤ character.toNat ∧ character.toNat ≤ 90 :=
    decide_eq_true_iff
  have lower : character.isLower = true ↔ 97 ≤ character.toNat ∧ character.toNat ≤ 122 :=
    Bool.and_eq_true_iff.trans (and_congr decide_eq_true_iff decide_eq_true_iff)
  have digit : character.isDigit = true ↔ 48 ≤ character.toNat ∧ character.toNat ≤ 57 :=
    Bool.and_eq_true_iff.trans (and_congr decide_eq_true_iff decide_eq_true_iff)
  have alphanumeric : character.isAlphanum = true ↔
      (character.isUpper = true ∨ character.isLower = true) ∨ character.isDigit = true :=
    Bool.or_eq_true_iff.trans (or_congr_left Bool.or_eq_true_iff)
  have code : ∀ other : Char, character = other ↔ character.toNat = other.toNat :=
    fun _ => Char.toNat_inj.symm
  unfold isUnreserved
  simp only [Bool.or_eq_true, beq_iff_eq, alphanumeric, upper, lower, digit, code,
    Char.reduceToNat]
  omega

theorem isUnreserved_of_hexDigit?
    {value : Nat}
    (digit : hexDigit? character = some value) :
    isUnreserved character = true := by
  rw [isUnreserved_iff]
  unfold hexDigit? at digit
  simp only [Char.le_def, UInt32.le_iff_toNat_le] at digit
  split at digit
  · next decimal => exact .inl decimal
  · split at digit
    · next lower => exact .inr (.inr (.inl ⟨lower.1, Nat.le_trans lower.2 (by decide)⟩))
    · split at digit
      · next upper => exact .inr (.inl ⟨upper.1, Nat.le_trans upper.2 (by decide)⟩)
      · cases digit

/-- The escape of a byte is a percent sign and the two digits of the byte. -/
theorem exists_escape (byte : UInt8) :
    ∃ high low,
      List.replicate (2 - ((Nat.toDigits 16 byte.toNat).map Char.toUpper).length) '0' ++
        (Nat.toDigits 16 byte.toNat).map Char.toUpper = [high, low] ∧
      hexDigit? high = some (byte.toNat / 16) ∧ hexDigit? low = some (byte.toNat % 16) := by
  obtain ⟨high, others, digits_eq, high_eq, others_eq⟩ :=
    List.map_eq_cons_iff.1 (digits_of_byte byte.toNat byte.toNat_lt)
  obtain ⟨low, none, rfl, low_eq, none_eq⟩ := List.map_eq_cons_iff.1 others_eq
  obtain rfl := List.map_eq_nil_iff.1 none_eq
  exact ⟨high, low, digits_eq, high_eq, low_eq⟩

/-- What encoding leaves as it is is a character of ASCII and no percent sign. -/
theorem ascii_of_isUnreserved
    (unreserved : isUnreserved character = true) :
    character.toNat < 128 ∧ character ≠ '%' := by
  constructor
  · rw [isUnreserved_iff] at unreserved
    omega
  · rintro rfl
    cases unreserved

theorem percentBytes_percentEncodeChar_append
    (character : Char)
    (rest : List Char) :
    percentBytes (percentEncodeChar character ++ rest) =
      encodeChar character ++ percentBytes rest := by
  unfold percentEncodeChar
  split
  · next unreserved =>
      obtain ⟨ascii, different⟩ := ascii_of_isUnreserved unreserved
      rw [encodeChar, if_pos ascii]
      exact percentBytesAfter_of_ne different rest
  · generalize encodeChar character = bytes
    induction bytes with
    | nil => rfl
    | cons byte bytes inductionHypothesis =>
        obtain ⟨high, low, digits_eq, high_eq, low_eq⟩ := exists_escape byte
        have escaped : ∀ further, escapedByte? ('%' :: high :: low :: further) = some byte := by
          intro further
          have whole : 16 * (byte.toNat / 16) + byte.toNat % 16 = byte.toNat := by omega
          rw [escapedByte?, high_eq, low_eq]
          dsimp only
          rw [whole, UInt8.ofNat_toNat]
        dsimp only at inductionHypothesis ⊢
        rw [List.flatMap_cons, digits_eq, List.append_assoc]
        change percentBytesAfter 0 ('%' :: high :: low :: _) = _
        rw [percentBytesAfter, escaped]
        exact congrArg (byte :: ·) inductionHypothesis

/-- An encoded text has no characters but unreserved ones and percent signs. -/
theorem isUnreserved_or_eq_of_mem
    {other : Char}
    (member : other ∈ percentEncode text) :
    isUnreserved other = true ∨ other = '%' := by
  obtain ⟨character, -, inside⟩ := List.mem_flatMap.1 member
  unfold percentEncodeChar at inside
  split at inside
  · next unreserved =>
      obtain rfl := List.mem_singleton.1 inside
      exact .inl unreserved
  · obtain ⟨byte, -, inEscape⟩ := List.mem_flatMap.1 inside
    obtain ⟨high, low, digits_eq, high_eq, low_eq⟩ := exists_escape byte
    dsimp only at inEscape
    rw [digits_eq] at inEscape
    rcases List.mem_cons.1 inEscape with rfl | digit
    · exact .inr rfl
    · rcases List.mem_cons.1 digit with rfl | last
      · exact .inl (isUnreserved_of_hexDigit? high_eq)
      · obtain rfl := List.mem_singleton.1 last
        exact .inl (isUnreserved_of_hexDigit? low_eq)

/-- A text that is encoded is decoded again. -/
theorem percentDecode_percentEncode (text : List Char) :
    percentDecode (percentEncode text) = text := by
  have ascii : ∀ character ∈ percentEncode text, character.toNat < 128 := by
    intro character member
    rcases isUnreserved_or_eq_of_mem member with unreserved | rfl
    · exact (ascii_of_isUnreserved unreserved).1
    · decide
  have bytes : percentBytes (percentEncode text) = encodeUtf8 text := by
    clear ascii
    induction text with
    | nil => rfl
    | cons character rest inductionHypothesis =>
        rw [percentEncode, List.flatMap_cons, percentBytes_percentEncodeChar_append]
        exact congrArg (encodeChar character ++ ·) inductionHypothesis
  rw [percentDecode_of_ascii ascii, bytes, decodeUtf8Lenient_encodeUtf8]

end Text
end RequestFlow
