import RequestFlow.Logging.Ansi

/-!
# What stripping colours leaves

Two colour sequences never overlap, since the escape character stands at the front of each and
nowhere else in it. One pass therefore takes out all the sequences of a text. What stood on either
side of one is joined by that, and the joined characters may be a sequence in their turn. This
happens exactly where sequences had been set into another one, between its characters.
-/

namespace RequestFlow
namespace Log

/-! ## Sequences -/

/-- The class `[0-9;]`. -/
def InNumberClass (character : Char) : Prop :=
  ('0' ≤ character ∧ character ≤ '9') ∨ character = ';'

/-- The texts of an escape character, an opening bracket, any number of digits and semicolons, and
the letter `m`. -/
inductive IsSequence : List Char → Prop
  | intro {numbers : List Char} :
      (∀ character ∈ numbers, InNumberClass character) →
      IsSequence ('\x1b' :: '[' :: (numbers ++ ['m']))

/-- A colour sequence stands somewhere in a text. -/
def HasSequence (text : List Char) : Prop :=
  ∃ sequence, IsSequence sequence ∧ sequence <:+: text

theorem isParameter_iff {character : Char} :
    isParameter character = true ↔ InNumberClass character := by
  change ((decide ('0' ≤ character) && decide (character ≤ '9')) || character == ';') = true ↔ _
  simp only [InNumberClass, Bool.or_eq_true, Bool.and_eq_true, decide_eq_true_eq, beq_iff_eq]

variable {sequence text rest : List Char}

/-- The numbers of a sequence end at its letter. -/
theorem dropWhile_isParameter_append
    {numbers : List Char}
    (each : ∀ character ∈ numbers, InNumberClass character)
    (rest : List Char) :
    (numbers ++ 'm' :: rest).dropWhile isParameter = 'm' :: rest := by
  have all : ∀ character ∈ numbers, isParameter character = true :=
    fun character member => isParameter_iff.2 (each character member)
  rw [List.dropWhile_append_of_pos all]
  rfl

/-- A sequence is read where one stands. -/
theorem afterSequence?_eq_some_iff :
    afterSequence? text = some rest ↔
      ∃ sequence, IsSequence sequence ∧ text = sequence ++ rest := by
  constructor
  · intro found
    unfold afterSequence? at found
    split at found
    next input =>
      have whole : input.takeWhile isParameter ++ input.dropWhile isParameter = input :=
        List.takeWhile_append_dropWhile
      have all : ∀ character ∈ input.takeWhile isParameter, isParameter character = true :=
        List.all_eq_true.1 List.all_takeWhile
      split at found
      next after ends =>
        cases found
        rw [ends] at whole
        refine ⟨_, .intro fun character member => isParameter_iff.1 (all character member), ?_⟩
        simp [whole]
      next => cases found
    next => cases found
  · rintro ⟨_, ⟨each⟩, rfl⟩
    simp only [List.cons_append, List.append_assoc, List.nil_append, afterSequence?,
      dropWhile_isParameter_append each]

/-- A text that begins with another character than the escape character begins with no sequence. -/
theorem afterSequence?_cons_of_ne
    {character : Char}
    (other : character ≠ '\x1b')
    (rest : List Char) :
    afterSequence? (character :: rest) = none := by
  unfold afterSequence?
  split
  next same => exact absurd (List.cons.inj same).1 other
  next => rfl

/-- The escape character stands nowhere in a sequence but at its front. -/
theorem IsSequence.not_mem_tail
    (isSequence : IsSequence sequence) :
    '\x1b' ∉ sequence.tail := by
  obtain ⟨each⟩ := isSequence
  have outside : ¬InNumberClass '\x1b' := by simp [InNumberClass]
  simp only [List.tail_cons, List.mem_cons, List.mem_append, List.not_mem_nil, or_false]
  rintro (bracket | inNumbers | letter)
  · exact absurd bracket (by decide)
  · exact outside (each _ inNumbers)
  · exact absurd letter (by decide)

/-! ## Stripping -/

@[simp] theorem stripColours_nil : stripColours [] = [] := by
  rw [stripColours]
  rfl

/-- A sequence at the front is taken out. -/
theorem stripColours_sequence_append
    (isSequence : IsSequence sequence)
    (rest : List Char) :
    stripColours (sequence ++ rest) = stripColours rest := by
  have found : afterSequence? (sequence ++ rest) = some rest :=
    afterSequence?_eq_some_iff.2 ⟨sequence, isSequence, rfl⟩
  rw [stripColours]
  split
  next after same =>
    rw [found] at same
    cases same
    rfl
  next absent =>
    rw [found] at absent
    cases absent

/-- A character that begins no sequence is kept. -/
theorem stripColours_cons
    {character : Char}
    (begins : afterSequence? (character :: rest) = none) :
    stripColours (character :: rest) = character :: stripColours rest := by
  rw [stripColours]
  split
  next after same =>
    rw [begins] at same
    cases same
  next => rfl

/-- Texts are stripped from the front: sequences are taken out and other characters kept. -/
theorem stripping
    {motive : List Char → Prop}
    (nil : motive [])
    (taken : ∀ sequence rest, IsSequence sequence → motive rest → motive (sequence ++ rest))
    (kept : ∀ character rest, afterSequence? (character :: rest) = none → motive rest →
      motive (character :: rest))
    (text : List Char) :
    motive text := by
  induction text using stripColours.induct with
  | case1 text after found inductionHypothesis =>
      obtain ⟨sequence, isSequence, rfl⟩ := afterSequence?_eq_some_iff.1 found
      exact taken sequence after isSequence inductionHypothesis
  | case2 => exact nil
  | case3 character rest begins inductionHypothesis =>
      exact kept character rest begins inductionHypothesis

/-- What is left is the text with some of its characters taken out. -/
theorem stripColours_sublist (text : List Char) : (stripColours text).Sublist text := by
  induction text using stripping with
  | nil => simp
  | taken sequence rest isSequence inductionHypothesis =>
      rw [stripColours_sequence_append isSequence]
      exact inductionHypothesis.trans (List.sublist_append_right _ _)
  | kept character rest begins inductionHypothesis =>
      rw [stripColours_cons begins]
      exact inductionHypothesis.cons_cons character

/-- No sequence reaches over an escape character, and so a text may be cut in front of one. -/
theorem stripColours_append_escape
    (front back : List Char) :
    stripColours (front ++ '\x1b' :: back) =
      stripColours front ++ stripColours ('\x1b' :: back) := by
  induction front using stripping with
  | nil => rw [stripColours_nil, List.nil_append, List.nil_append]
  | taken sequence rest isSequence inductionHypothesis =>
      rw [List.append_assoc, stripColours_sequence_append isSequence,
        stripColours_sequence_append isSequence, inductionHypothesis]
  | kept character rest begins inductionHypothesis =>
      have unbroken : afterSequence? (character :: (rest ++ '\x1b' :: back)) = none := by
        rw [Option.eq_none_iff_forall_ne_some]
        intro after found
        obtain ⟨sequence, isSequence, whole⟩ := afterSequence?_eq_some_iff.1 found
        rw [← List.cons_append] at whole
        rcases List.append_eq_append_iff.1 whole with ⟨beyond, same, ends⟩ | ⟨after, same, -⟩
        · cases beyond with
          | nil =>
              have begun : afterSequence? (character :: rest) = some [] :=
                afterSequence?_eq_some_iff.2 ⟨sequence, isSequence, by simpa using same.symm⟩
              rw [begins] at begun
              cases begun
          | cons next beyond =>
              obtain ⟨rfl, -⟩ := List.cons.inj ends
              exact isSequence.not_mem_tail (by simp [same])
        · have begun := afterSequence?_eq_some_iff.2 ⟨sequence, isSequence, same⟩
          rw [begins] at begun
          cases begun
      rw [List.cons_append, stripColours_cons unbroken, stripColours_cons begins,
        inductionHypothesis, List.cons_append]

/-- Nothing is taken out of a text exactly if no sequence stands in it. -/
theorem stripColours_eq_self_iff :
    stripColours text = text ↔ ¬HasSequence text := by
  constructor
  · rintro same ⟨sequence, isSequence, front, back, rfl⟩
    have cut : stripColours (front ++ sequence ++ back) =
        stripColours front ++ stripColours back := by
      have begins := stripColours_sequence_append isSequence back
      obtain ⟨each⟩ := isSequence
      rw [List.append_assoc, ← begins]
      exact stripColours_append_escape front _
    have shorter := (stripColours_sublist front).length_le
    have shorterBack := (stripColours_sublist back).length_le
    have some_character : 0 < sequence.length := by
      obtain ⟨each⟩ := isSequence
      exact Nat.succ_pos _
    have lengths := congrArg List.length (cut.symm.trans same)
    simp only [List.length_append] at lengths
    omega
  · intro clean
    induction text using stripping with
    | nil => exact stripColours_nil
    | taken sequence rest isSequence inductionHypothesis =>
        exact absurd ⟨sequence, isSequence, List.infix_append' [] sequence rest⟩ clean
    | kept character rest begins inductionHypothesis =>
        rw [stripColours_cons begins, inductionHypothesis]
        rintro ⟨sequence, isSequence, inside⟩
        exact clean ⟨sequence, isSequence, List.infix_cons inside⟩

/-! ## Sequences set into sequences -/

/-- Any number of sequences, one after another. -/
inductive Sequences : List Char → Prop
  | nil : Sequences []
  | cons {sequence rest : List Char} :
      IsSequence sequence → Sequences rest → Sequences (sequence ++ rest)

/-- The second text is the first one with any number of sequences set in after each character but
the last. -/
inductive Interspersed : List Char → List Char → Prop
  | single {character : Char} : Interspersed [character] [character]
  | cons {character : Char} {between core text : List Char} :
      Sequences between → Interspersed core text →
      Interspersed (character :: core) (character :: (between ++ text))

/-- A sequence into which others have been set. -/
def IsBroken (text : List Char) : Prop :=
  ∃ sequence, IsSequence sequence ∧ Interspersed sequence text ∧ text ≠ sequence

theorem interspersed_cons_iff
    {character : Char}
    {core : List Char} :
    Interspersed (character :: core) text ↔
      (core = [] ∧ text = [character]) ∨
      ∃ between rest, text = character :: (between ++ rest) ∧
        Sequences between ∧ Interspersed core rest := by
  constructor
  · intro interspersed
    cases interspersed with
    | single => exact .inl ⟨rfl, rfl⟩
    | cons sequences interspersed => exact .inr ⟨_, _, rfl, sequences, interspersed⟩
  · rintro (⟨rfl, rfl⟩ | ⟨between, rest, rfl, sequences, interspersed⟩)
    · exact .single
    · exact .cons sequences interspersed

theorem Interspersed.ne_nil
    {core : List Char}
    (interspersed : Interspersed core text) :
    core ≠ [] := by
  cases interspersed <;> exact List.cons_ne_nil _ _

/-- Sequences are none, or begin with an escape character. -/
theorem Sequences.eq_nil_or
    (sequences : Sequences text) :
    text = [] ∨ ∃ rest, text = '\x1b' :: rest := by
  cases sequences with
  | nil => exact .inl rfl
  | cons isSequence sequences =>
      obtain ⟨each⟩ := isSequence
      exact .inr ⟨_, rfl⟩

/-- Sequences at the front are taken out. -/
theorem Sequences.stripColours_append
    (sequences : Sequences text)
    (rest : List Char) :
    stripColours (text ++ rest) = stripColours rest := by
  induction sequences with
  | nil => rfl
  | cons isSequence sequences inductionHypothesis =>
      rw [List.append_assoc, stripColours_sequence_append isSequence, inductionHypothesis]

/-! ### What is left of a text stood in it interspersed -/

/-- The first character that is kept stands behind sequences, and begins none. -/
theorem exists_of_stripColours_eq_cons
    {character : Char}
    {kept : List Char}
    (stripped : stripColours text = character :: kept) :
    ∃ front rest, Sequences front ∧ text = front ++ character :: rest ∧
      stripColours rest = kept ∧ afterSequence? (character :: rest) = none := by
  induction text using stripping with
  | nil =>
      rw [stripColours_nil] at stripped
      cases stripped
  | taken sequence rest isSequence inductionHypothesis =>
      rw [stripColours_sequence_append isSequence] at stripped
      obtain ⟨front, after, sequences, rfl, left, begins⟩ := inductionHypothesis stripped
      exact ⟨sequence ++ front, after, .cons isSequence sequences, by simp, left, begins⟩
  | kept first rest begins inductionHypothesis =>
      rw [stripColours_cons begins] at stripped
      obtain ⟨rfl, left⟩ := List.cons.inj stripped
      exact ⟨[], rest, .nil, rfl, left, begins⟩

/-- A part of what is left is what is left of a part. -/
theorem exists_of_stripColours_eq_append
    {front kept : List Char}
    (stripped : stripColours text = front ++ kept) :
    ∃ before rest, text = before ++ rest ∧ stripColours rest = kept := by
  induction front generalizing text with
  | nil => exact ⟨[], text, rfl, stripped⟩
  | cons character front inductionHypothesis =>
      obtain ⟨sequences, after, -, rfl, others, -⟩ := exists_of_stripColours_eq_cons stripped
      obtain ⟨before, rest, rfl, left⟩ := inductionHypothesis others
      exact ⟨sequences ++ character :: before, rest, by simp, left⟩

/-- Characters that are left side by side stood with nothing but sequences between them. -/
theorem exists_interspersed
    {core kept : List Char}
    (some_character : core ≠ [])
    (stripped : stripColours text = core ++ kept) :
    ∃ front part rest, Sequences front ∧ text = front ++ (part ++ rest) ∧
      Interspersed core part ∧ afterSequence? (part ++ rest) = none := by
  induction core generalizing text with
  | nil => exact absurd rfl some_character
  | cons character core inductionHypothesis =>
      obtain ⟨front, after, sequences, rfl, left, begins⟩ := exists_of_stripColours_eq_cons stripped
      cases core with
      | nil => exact ⟨front, [character], after, sequences, rfl, .single, begins⟩
      | cons next core =>
          obtain ⟨between, part, rest, set, rfl, interspersed, -⟩ :=
            inductionHypothesis (List.cons_ne_nil _ _) left
          refine ⟨front, character :: (between ++ part), rest, sequences, by simp,
            .cons set interspersed, by simpa using begins⟩

/-! ### What is interspersed is left -/

/-- Text without escape characters is left when the sequences that are set into it are taken out. -/
theorem Interspersed.stripColours_append
    {core : List Char}
    (interspersed : Interspersed core text)
    (plain : '\x1b' ∉ core)
    (rest : List Char) :
    stripColours (text ++ rest) = core ++ stripColours rest := by
  induction interspersed with
  | single =>
      have other := Ne.symm (List.ne_of_not_mem_cons plain)
      exact stripColours_cons (afterSequence?_cons_of_ne other rest)
  | cons sequences _ inductionHypothesis =>
      have other := Ne.symm (List.ne_of_not_mem_cons plain)
      rw [List.cons_append, stripColours_cons (afterSequence?_cons_of_ne other _),
        List.append_assoc, sequences.stripColours_append,
        inductionHypothesis (List.not_mem_of_not_mem_cons plain), List.cons_append]

/-- The numbers of a sequence into which others have been set are followed by an escape character.
-/
theorem Interspersed.exists_dropWhile
    {numbers : List Char}
    (each : ∀ character ∈ numbers, InNumberClass character)
    (interspersed : Interspersed (numbers ++ ['m']) text)
    (broken : text ≠ numbers ++ ['m'])
    (rest : List Char) :
    ∃ after, (text ++ rest).dropWhile isParameter = '\x1b' :: after := by
  induction numbers generalizing text with
  | nil =>
      rcases interspersed_cons_iff.1 interspersed with ⟨-, rfl⟩ | ⟨_, _, -, -, interspersed⟩
      · exact absurd rfl broken
      · exact absurd rfl interspersed.ne_nil
  | cons number numbers inductionHypothesis =>
      obtain ⟨isNumber, each⟩ := List.forall_mem_cons.1 each
      rcases interspersed_cons_iff.1 interspersed with
        ⟨ends, -⟩ | ⟨between, part, rfl, sequences, onward⟩
      · simp at ends
      · rw [List.cons_append, List.dropWhile_cons_of_pos (isParameter_iff.2 isNumber)]
        rcases sequences.eq_nil_or with rfl | ⟨after, rfl⟩
        · exact inductionHypothesis each onward fun same => broken (by simp [same])
        · exact ⟨_, List.dropWhile_cons_of_neg (by decide)⟩

/-- A sequence into which others have been set is not read as one. -/
theorem IsBroken.afterSequence?_append
    (broken : IsBroken text)
    (rest : List Char) :
    afterSequence? (text ++ rest) = none := by
  obtain ⟨_, ⟨each⟩, interspersed, other⟩ := broken
  rename_i numbers
  -- The first of the sequences that are set in stands behind the escape character, behind the
  -- bracket, or among the numbers.
  rcases interspersed_cons_iff.1 interspersed with ⟨ends, -⟩ | ⟨between, part, rfl, set, onward⟩
  · cases ends
  rcases set.eq_nil_or with rfl | ⟨after, rfl⟩
  · rcases interspersed_cons_iff.1 onward with ⟨ends, -⟩ | ⟨among, tail, rfl, setIn, numbered⟩
    · simp at ends
    rcases setIn.eq_nil_or with rfl | ⟨after, rfl⟩
    · obtain ⟨after, stops⟩ :=
        numbered.exists_dropWhile each (fun same => other (by simp [same])) rest
      simp only [List.nil_append, List.cons_append, afterSequence?, stops]
      rfl
    · rfl
  · rfl

/-- Taking out what has been set into a sequence leaves that sequence. -/
theorem IsBroken.exists_stripColours_append
    (broken : IsBroken text)
    (rest : List Char) :
    ∃ sequence,
      IsSequence sequence ∧ stripColours (text ++ rest) = sequence ++ stripColours rest := by
  have begins := broken.afterSequence?_append rest
  obtain ⟨sequence, isSequence, interspersed, -⟩ := broken
  have plain := isSequence.not_mem_tail
  refine ⟨sequence, isSequence, ?_⟩
  cases interspersed with
  | single => cases isSequence
  | cons set onward =>
      rw [List.cons_append] at begins ⊢
      rw [stripColours_cons begins, List.append_assoc, set.stripColours_append,
        onward.stripColours_append plain, List.cons_append]

/-! ## What is left -/

/-- A sequence is left exactly if others had been set into it. -/
theorem hasSequence_stripColours_iff :
    HasSequence (stripColours text) ↔ ∃ broken, IsBroken broken ∧ broken <:+: text := by
  constructor
  · rintro ⟨sequence, isSequence, front, back, whole⟩
    have some_character : sequence ≠ [] := by
      obtain ⟨each⟩ := isSequence
      exact List.cons_ne_nil _ _
    rw [List.append_assoc] at whole
    obtain ⟨before, after, rfl, left⟩ := exists_of_stripColours_eq_append whole.symm
    obtain ⟨set, part, rest, -, rfl, interspersed, begins⟩ :=
      exists_interspersed some_character left
    refine ⟨part, ⟨sequence, isSequence, interspersed, ?_⟩, before ++ set, rest, by simp⟩
    rintro rfl
    rw [afterSequence?_eq_some_iff.2 ⟨part, isSequence, rfl⟩] at begins
    cases begins
  · rintro ⟨broken, isBroken, front, back, rfl⟩
    obtain ⟨sequence, isSequence, left⟩ := isBroken.exists_stripColours_append back
    obtain ⟨rest, rfl⟩ : ∃ rest, broken = '\x1b' :: rest := by
      obtain ⟨_, ⟨each⟩, interspersed, -⟩ := isBroken
      cases interspersed with
      | cons => exact ⟨_, rfl⟩
    refine ⟨sequence, isSequence, stripColours front, stripColours back, ?_⟩
    have cut := stripColours_append_escape front (rest ++ back)
    rw [List.cons_append] at left
    rw [List.append_assoc, ← left, ← cut, List.append_assoc, List.cons_append]

/-- Stripping a text takes characters out of it and does nothing else. It leaves a text alone
exactly if no sequence stands there, and so stripping once more does nothing exactly if no sequence
is left. A sequence is left exactly if the text has a sequence into which others have been set. -/
theorem withoutColours_exact
    (content : String) :
    (withoutColours content).toList.Sublist content.toList ∧
    (withoutColours content = content ↔ ¬HasSequence content.toList) ∧
    (withoutColours (withoutColours content) = withoutColours content ↔
      ¬HasSequence (withoutColours content).toList) ∧
    (HasSequence (withoutColours content).toList ↔
      ∃ broken, IsBroken broken ∧ broken <:+: content.toList) := by
  have alone : ∀ content : String,
      withoutColours content = content ↔ ¬HasSequence content.toList := by
    intro content
    rw [← stripColours_eq_self_iff, ← String.toList_inj, withoutColours, String.toList_ofList]
  refine ⟨?_, alone content, alone (withoutColours content), ?_⟩
  · rw [withoutColours, String.toList_ofList]
    exact stripColours_sublist content.toList
  · rw [withoutColours, String.toList_ofList]
    exact hasSequence_stripColours_iff

/-- A sequence that has been set into another one leaves that one behind, and stripping once more
takes it out. -/
theorem sequence_left_behind :
    withoutColours "\x1b[\x1b[mm" = "\x1b[m" ∧
    HasSequence "\x1b[m".toList ∧
    withoutColours (withoutColours "\x1b[\x1b[mm") = "" := by
  have once : withoutColours "\x1b[\x1b[mm" = "\x1b[m" := by cbv
  have twice : withoutColours "\x1b[m" = "" := by cbv
  refine ⟨once, ⟨_, .intro (List.forall_mem_nil _), List.infix_rfl⟩, ?_⟩
  rw [once, twice]

end Log
end RequestFlow
