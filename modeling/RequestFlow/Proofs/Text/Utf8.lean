import RequestFlow.Text.Utf8

/-!
# Decoding UTF-8

A character that is encoded is decoded again, whatever comes after it. A byte of ASCII is a sequence
of its own and belongs to no other, so that bytes may be decoded in front of it and from it on.
-/

namespace RequestFlow
namespace Text

variable {character : Char} {low high code covered count : Nat} {first byte : UInt8}
  {bytes front rest : List UInt8}

/-! ## Passing over bytes -/

theorem decodeAfter_append (front rest : List UInt8) :
    decodeAfter front.length (front ++ rest) = decodeAfter 0 rest := by
  induction front with
  | nil => rfl
  | cons byte front inductionHypothesis => exact inductionHypothesis

theorem length_decodeAfter_le
    (covered : Nat)
    (bytes : List UInt8) :
    (decodeAfter covered bytes).length ≤ bytes.length := by
  induction bytes generalizing covered with
  | nil => cases covered <;> exact Nat.le_refl 0
  | cons byte rest inductionHypothesis =>
      cases covered with
      | zero => exact Nat.succ_le_succ (inductionHypothesis _)
      | succ covered => exact Nat.le_succ_of_le (inductionHypothesis covered)

/-- No character takes less than a byte. -/
theorem length_decodeUtf8Lenient_le (bytes : List UInt8) :
    (decodeUtf8Lenient bytes).length ≤ bytes.length := by
  rw [decodeUtf8Lenient, List.length_map]
  exact length_decodeAfter_le 0 bytes

/-! ## Characters -/

theorem toNat_ofNat_of_lt
    {value : Nat}
    (small : value < 256) :
    (UInt8.ofNat value).toNat = value := by
  rw [UInt8.toNat_ofNat']
  exact Nat.mod_eq_of_lt small

section Sequence

variable {value : Nat}

theorem sequenceShape?_two
    (above : 0xC2 ≤ value)
    (below : value < 0xE0) :
    sequenceShape? value = some (1, 0x80, 0xBF, value - 0xC0) := by
  unfold sequenceShape?
  rw [if_neg (by omega), if_neg (by omega), if_pos below]

theorem sequenceShape?_three
    (above : 0xE0 ≤ value)
    (below : value < 0xF0) :
    sequenceShape? value =
      some (2, if value = 0xE0 then 0xA0 else 0x80, if value = 0xED then 0x9F else 0xBF,
        value - 0xE0) := by
  unfold sequenceShape?
  rw [if_neg (by omega), if_neg (by omega), if_neg (by omega), if_pos below]

theorem sequenceShape?_four
    (above : 0xF0 ≤ value)
    (below : value < 0xF5) :
    sequenceShape? value =
      some (3, if value = 0xF0 then 0x90 else 0x80, if value = 0xF4 then 0x8F else 0xBF,
        value - 0xF0) := by
  unfold sequenceShape?
  rw [if_neg (by omega), if_neg (by omega), if_neg (by omega), if_neg (by omega), if_pos below]

theorem takeSequence_of_shape
    {bits : Nat}
    (small : value < 256)
    (shape : sequenceShape? value = some (count, low, high, bits)) :
    takeSequence (.ofNat value) rest =
      ((takeContinuation count low high bits rest).1.map Char.ofNat,
        (takeContinuation count low high bits rest).2) := by
  rw [takeSequence, toNat_ofNat_of_lt small, shape]

theorem takeContinuation_zero :
    takeContinuation 0 low high code rest = (some code, 0) := by
  cases rest <;> rfl

/-- A continuation byte within the bounds is taken. -/
theorem takeContinuation_of_mem
    (above : low ≤ value)
    (below : value ≤ high)
    (small : value < 256) :
    takeContinuation (count + 1) low high code (.ofNat value :: rest) =
      ((takeContinuation count 0x80 0xBF (64 * code + (value - 0x80)) rest).1,
        (takeContinuation count 0x80 0xBF (64 * code + (value - 0x80)) rest).2 + 1) := by
  rw [takeContinuation, toNat_ofNat_of_lt small, if_pos ⟨above, below⟩]

end Sequence

/-- The bytes of a character are a first byte and a sequence that is read as the character. -/
theorem exists_encodeChar (character : Char) :
    ∃ first further, encodeChar character = first :: further ∧
      ∀ rest, takeSequence first (further ++ rest) = (some character, further.length) := by
  have valid : character.toNat < 0xD800 ∨ 0xDFFF < character.toNat ∧ character.toNat < 0x110000 :=
    character.valid
  have back : Char.ofNat character.toNat = character := Char.ofNat_toNat character
  unfold encodeChar
  generalize character.toNat = code at valid back
  dsimp only
  -- in each case the bits of the bytes put the code together again
  split
  · next one =>
      refine ⟨_, [], rfl, fun rest => ?_⟩
      have shape : sequenceShape? code = some (0, 0, 0, code) := if_pos one
      rw [takeSequence_of_shape (by omega) shape, takeContinuation_zero, Option.map_some, back]
      rfl
  · split
    · refine ⟨_, _, rfl, fun rest => ?_⟩
      have bits : 64 * (0xC0 + code / 64 - 0xC0) + (0x80 + code % 64 - 0x80) = code := by omega
      rw [takeSequence_of_shape (by omega) (sequenceShape?_two (by omega) (by omega)),
        List.cons_append, takeContinuation_of_mem (by omega) (by omega) (by omega),
        takeContinuation_zero, bits, Option.map_some, back]
      rfl
    · split
      · refine ⟨_, _, rfl, fun rest => ?_⟩
        have bits : 64 * (64 * (0xE0 + code / 4096 - 0xE0) + (0x80 + code / 64 % 64 - 0x80)) +
            (0x80 + code % 64 - 0x80) = code := by omega
        rw [takeSequence_of_shape (by omega) (sequenceShape?_three (by omega) (by omega)),
          List.cons_append, List.cons_append,
          takeContinuation_of_mem (by split <;> omega) (by split <;> omega) (by omega),
          takeContinuation_of_mem (by omega) (by omega) (by omega), takeContinuation_zero,
          bits, Option.map_some, back]
        rfl
      · refine ⟨_, _, rfl, fun rest => ?_⟩
        have bits : 64 * (64 * (64 * (0xF0 + code / 262144 - 0xF0) +
            (0x80 + code / 4096 % 64 - 0x80)) + (0x80 + code / 64 % 64 - 0x80)) +
            (0x80 + code % 64 - 0x80) = code := by omega
        rw [takeSequence_of_shape (by omega) (sequenceShape?_four (by omega) (by omega)),
          List.cons_append, List.cons_append, List.cons_append,
          takeContinuation_of_mem (by split <;> omega) (by split <;> omega) (by omega),
          takeContinuation_of_mem (by omega) (by omega) (by omega),
          takeContinuation_of_mem (by omega) (by omega) (by omega), takeContinuation_zero,
          bits, Option.map_some, back]
        rfl

/-- A character in front of other bytes is decoded by itself. -/
theorem decodeUtf8Lenient_encodeChar_append
    (character : Char)
    (rest : List UInt8) :
    decodeUtf8Lenient (encodeChar character ++ rest) = character :: decodeUtf8Lenient rest := by
  obtain ⟨first, further, bytes_eq, taken⟩ := exists_encodeChar character
  rw [bytes_eq, List.cons_append, decodeUtf8Lenient, decodeAfter, taken]
  dsimp only
  rw [decodeAfter_append]
  rfl

/-- A text that is encoded is decoded again. -/
theorem decodeUtf8Lenient_encodeUtf8 (text : List Char) :
    decodeUtf8Lenient (encodeUtf8 text) = text := by
  induction text with
  | nil => rfl
  | cons character rest inductionHypothesis =>
      rw [encodeUtf8, List.flatMap_cons, decodeUtf8Lenient_encodeChar_append]
      exact congrArg (character :: ·) inductionHypothesis

theorem flawAfter?_append
    (front rest : List UInt8)
    (position : Nat) :
    flawAfter? front.length position (front ++ rest) =
      flawAfter? 0 (position + front.length) rest := by
  induction front generalizing position with
  | nil => rfl
  | cons byte front inductionHypothesis =>
      rw [List.length_cons, List.cons_append, flawAfter?, inductionHypothesis]
      congr 1
      omega

theorem flawAfter?_encodeUtf8
    (text : List Char)
    (position : Nat) :
    flawAfter? 0 position (encodeUtf8 text) = none := by
  induction text generalizing position with
  | nil => rfl
  | cons character rest inductionHypothesis =>
      obtain ⟨first, further, bytes_eq, taken⟩ := exists_encodeChar character
      rw [encodeUtf8, List.flatMap_cons, bytes_eq, List.cons_append, flawAfter?, taken]
      dsimp only
      rw [flawAfter?_append]
      exact inductionHypothesis _

/-- A text that is encoded has no malformed sequence. -/
theorem decodeUtf8_encodeUtf8 (text : List Char) : decodeUtf8 (encodeUtf8 text) = .ok text := by
  rw [decodeUtf8, flawAfter?_encodeUtf8]
  exact congrArg Except.ok (decodeUtf8Lenient_encodeUtf8 text)

/-! ## Bytes of ASCII -/

/-- A continuation does not reach over a byte of ASCII. -/
theorem takeContinuation_append
    (above : 0x80 ≤ low)
    (ascii : first.toNat < 0x80)
    (bytes rest : List UInt8) :
    takeContinuation count low high code (bytes ++ first :: rest) =
      takeContinuation count low high code bytes := by
  induction bytes generalizing count low high code with
  | nil =>
      cases count with
      | zero => rw [takeContinuation_zero, takeContinuation_zero]
      | succ count =>
          have outside : ¬ (low ≤ first.toNat ∧ first.toNat ≤ high) := by omega
          rw [List.nil_append, takeContinuation, takeContinuation, if_neg outside]
  | cons byte bytes inductionHypothesis =>
      cases count with
      | zero => rw [takeContinuation_zero, takeContinuation_zero]
      | succ count =>
          rw [List.cons_append, takeContinuation, takeContinuation,
            inductionHypothesis (Nat.le_refl _)]

theorem snd_takeContinuation_le
    (count low high code : Nat)
    (bytes : List UInt8) :
    (takeContinuation count low high code bytes).2 ≤ bytes.length := by
  induction bytes generalizing count low high code with
  | nil => cases count <;> exact Nat.le_refl 0
  | cons byte bytes inductionHypothesis =>
      cases count with
      | zero => exact Nat.zero_le _
      | succ count =>
          rw [takeContinuation]
          split
          · exact Nat.succ_le_succ (inductionHypothesis _ _ _ _)
          · exact Nat.zero_le _

theorem zero_or_le_of_sequenceShape?
    {value bits : Nat}
    (shape : sequenceShape? value = some (count, low, high, bits)) :
    count = 0 ∨ 0x80 ≤ low := by
  unfold sequenceShape? at shape
  repeat' split at shape
  all_goals cases shape
  all_goals omega

theorem takeSequence_append
    (ascii : first.toNat < 0x80)
    (byte : UInt8)
    (bytes rest : List UInt8) :
    takeSequence byte (bytes ++ first :: rest) = takeSequence byte bytes := by
  unfold takeSequence
  split
  · rfl
  · next count low high bits shape =>
      rcases zero_or_le_of_sequenceShape? shape with rfl | above
      · rw [takeContinuation_zero, takeContinuation_zero]
      · rw [takeContinuation_append above ascii]

theorem snd_takeSequence_le
    (byte : UInt8)
    (bytes : List UInt8) :
    (takeSequence byte bytes).2 ≤ bytes.length := by
  unfold takeSequence
  split
  · exact Nat.zero_le _
  · exact snd_takeContinuation_le _ _ _ _ _

theorem decodeAfter_append_ascii
    (ascii : first.toNat < 0x80)
    (inside : covered ≤ front.length)
    (rest : List UInt8) :
    decodeAfter covered (front ++ first :: rest) =
      decodeAfter covered front ++ decodeAfter 0 (first :: rest) := by
  induction front generalizing covered with
  | nil =>
      rw [Nat.le_zero.1 inside]
      rfl
  | cons byte front inductionHypothesis =>
      cases covered with
      | succ covered => exact inductionHypothesis (Nat.le_of_succ_le_succ inside)
      | zero =>
          rw [List.cons_append, decodeAfter, decodeAfter, takeSequence_append ascii]
          dsimp only
          rw [inductionHypothesis (snd_takeSequence_le byte front)]
          rfl

theorem decodeAfter_of_ascii
    (ascii : first.toNat < 0x80)
    (rest : List UInt8) :
    decodeAfter 0 (first :: rest) = some (Char.ofNat first.toNat) :: decodeAfter 0 rest := by
  have shape : sequenceShape? first.toNat = some (0, 0, 0, first.toNat) := if_pos ascii
  rw [decodeAfter, takeSequence, shape]
  dsimp only
  rw [takeContinuation_zero]
  rfl

/-- A byte of ASCII cuts what is decoded in two. -/
theorem decodeUtf8Lenient_append_ascii
    (ascii : first.toNat < 0x80)
    (front rest : List UInt8) :
    decodeUtf8Lenient (front ++ first :: rest) =
      decodeUtf8Lenient front ++ Char.ofNat first.toNat :: decodeUtf8Lenient rest := by
  rw [decodeUtf8Lenient, decodeAfter_append_ascii ascii (Nat.zero_le _),
    decodeAfter_of_ascii ascii, List.map_append]
  rfl

end Text
end RequestFlow
