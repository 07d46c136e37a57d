import Mathlib.Tactic.SplitIfs
import RequestFlow.Pattern.Search

/-!
# Why patterns are refused

Most patterns that cannot be read are malformed. One that is refused for another reason bears the
reason on its face: it has a run of digits that is too long or denotes too great a number or code,
or it has both of the letters whose options contradict each other. Every step of reading stays
within the pattern, and so what it takes and what it refuses can be traced back to the text.
-/

namespace RequestFlow
namespace Pattern

variable {α β : Type} {pattern : List Char} {names : CharacterNames} {gives : α → Prop}

/-! ## Tokens and their text -/

/-- The characters of a token. -/
def Token.spelling : Token → List Char
  | .plain character => [character]
  | .escaped character => ['\\', character]
  | .dangling => ['\\']

/-- Nothing is lost when a pattern is cut into tokens. -/
theorem flatMap_spelling_tokens (pattern : List Char) :
    (tokens pattern).flatMap Token.spelling = pattern := by
  induction pattern using tokens.induct with
  | case1 character rest inductionHypothesis =>
      rw [tokens, List.flatMap_cons, inductionHypothesis]
      rfl
  | case2 => rfl
  | case3 character rest notEscaped notDangling inductionHypothesis =>
      rw [tokens, List.flatMap_cons, inductionHypothesis]
      · rfl
      · exact notEscaped
      · exact notDangling
  | case4 => rfl

/-- Characters that follow each other as tokens do so in the text. -/
theorem isInfix_of_map_plain
    {characters : List Char}
    (consecutive : characters.map .plain <:+: tokens pattern) :
    characters <:+: pattern := by
  obtain ⟨before, after, whole⟩ := consecutive
  have spelled : (characters.map Token.plain).flatMap Token.spelling = characters := by
    rw [List.flatMap_map]
    exact List.flatMap_singleton' characters
  refine ⟨before.flatMap Token.spelling, after.flatMap Token.spelling, ?_⟩
  rw [← flatMap_spelling_tokens pattern, ← whole, List.flatMap_append, List.flatMap_append, spelled]

/-- A character that is a token by itself is one of the text. -/
theorem mem_of_plain_mem
    {character : Char}
    (member : .plain character ∈ tokens pattern) :
    character ∈ pattern := by
  rw [← flatMap_spelling_tokens pattern]
  exact List.mem_flatMap.2 ⟨.plain character, member, List.mem_singleton_self character⟩

/-! ## Reasons -/

/-- A refusal that the text of a pattern accounts for. -/
inductive Warranted (pattern : List Char) : Rejection → Prop
  | malformed : Warranted pattern .malformed
  | codeTooLarge {digits : List Char} :
      digits <:+: pattern →
      (∀ digit ∈ digits, Text.isHexDigit digit = true) →
      wordLimit ≤ Text.hexNumber digits →
      Warranted pattern .codeTooLarge
  | repetitionTooLarge {digits : List Char} :
      digits <:+: pattern →
      (∀ digit ∈ digits, digit.isDigit = true) →
      repetitionLimit ≤ Numeral.digitsValue digits →
      Warranted pattern .repetitionTooLarge
  | tooManyDigits {digits : List Char} :
      digits <:+: pattern →
      (∀ digit ∈ digits, digit.isDigit = true) →
      Numeral.digitLimit < digits.length →
      Warranted pattern (.tooManyDigits digits.length)
  | conflictingAlphabets :
      'a' ∈ pattern →
      'u' ∈ pattern →
      Warranted pattern .conflictingAlphabets

/-- What a part of a text accounts for, the text accounts for. -/
theorem Warranted.of_isInfix
    {source : List Char}
    {rejection : Rejection}
    (part : pattern <:+: source)
    (warranted : Warranted pattern rejection) :
    Warranted source rejection := by
  cases warranted with
  | malformed => exact .malformed
  | codeTooLarge within isDigit large => exact .codeTooLarge (within.trans part) isDigit large
  | repetitionTooLarge within isDigit large =>
      exact .repetitionTooLarge (within.trans part) isDigit large
  | tooManyDigits within isDigit long => exact .tooManyDigits (within.trans part) isDigit long
  | conflictingAlphabets ascii unicode =>
      exact .conflictingAlphabets (part.subset ascii) (part.subset unicode)

/-- The options for alphabets are only set by their letters. -/
structure Spelled (pattern : List Char) (options : Options) : Prop where
  /-- The option for ASCII has its letter. -/
  ascii : options.ascii = true → 'a' ∈ pattern
  /-- The option for all scripts has its letter. -/
  unicode : options.unicode = true → 'u' ∈ pattern

theorem spelled_empty : Spelled pattern {} :=
  ⟨nofun, nofun⟩

theorem Spelled.join
    {first second : Options}
    (spelledFirst : Spelled pattern first)
    (spelledSecond : Spelled pattern second) :
    Spelled pattern (first.join second) :=
  ⟨fun set => (Bool.or_eq_true_iff.1 set).elim spelledFirst.ascii spelledSecond.ascii,
    fun set => (Bool.or_eq_true_iff.1 set).elim spelledFirst.unicode spelledSecond.unicode⟩

/-- A reader that works on a pattern has come to some place in it, with options from it. -/
structure Within (pattern : List Char) (scan : Scan) : Prop where
  /-- What is left is the end of the pattern. -/
  rest : scan.rest <:+ tokens pattern
  /-- The letters of the options stand in the pattern. -/
  spelled : Spelled pattern scan.options

namespace Read

/-- From a place in the pattern a reader comes to another one with a result of the given kind, or
refuses the pattern for a reason that it accounts for. -/
def Sound (pattern : List Char) (gives : α → Prop) (read : Read α) : Prop :=
  ∀ scan, Within pattern scan →
    (∀ result reached, read scan = .ok (result, reached) →
      gives result ∧ Within pattern reached) ∧
    ∀ rejection, read scan = .error rejection → Warranted pattern rejection

/-- A reader that is sound, whatever its result. -/
abbrev Stays (pattern : List Char) (read : Read α) : Prop :=
  Sound pattern (fun _ => True) read

theorem sound_pure
    {result : α}
    (given : gives result) :
    Sound pattern gives (pure result) := by
  refine fun scan within => ⟨?_, nofun⟩
  rintro _ _ ⟨⟩
  exact ⟨given, within⟩

theorem stays_pure (result : α) : Stays pattern (pure result) :=
  sound_pure trivial

theorem sound_throw
    {rejection : Rejection}
    (warranted : Warranted pattern rejection) :
    Sound pattern gives (throw rejection : Read α) := by
  refine fun scan within => ⟨nofun, ?_⟩
  rintro _ ⟨⟩
  exact warranted

theorem sound_malformed : Sound pattern gives (malformed : Read α) :=
  sound_throw .malformed

theorem Sound.bind
    {results : β → Prop}
    {first : Read α}
    {next : α → Read β}
    (sound : Sound pattern gives first)
    (soundNext : ∀ result, gives result → Sound pattern results (next result)) :
    Sound pattern results (first >>= next) := by
  intro scan within
  obtain ⟨given, refused⟩ := sound scan within
  have unfolded : (first >>= next) scan = (first scan >>= fun read => next read.1 read.2) := rfl
  rw [unfolded]
  rcases ended : first scan with rejection | ⟨result, reached⟩
  · refine ⟨nofun, ?_⟩
    rintro _ ⟨⟩
    exact refused rejection ended
  · obtain ⟨holds, withinReached⟩ := given result reached ended
    exact soundNext result holds reached withinReached

theorem sound_get : Sound pattern (Within pattern) (get : Read Scan) := by
  refine fun scan within => ⟨?_, nofun⟩
  rintro _ _ ⟨⟩
  exact ⟨within, within⟩

theorem sound_modify
    {change : Scan → Scan}
    (keeps : ∀ scan, Within pattern scan → Within pattern (change scan)) :
    Sound pattern (fun _ => True) (modify change : Read Unit) := by
  refine fun scan within => ⟨?_, nofun⟩
  rintro _ _ ⟨⟩
  exact ⟨trivial, keeps scan within⟩

/-- A reader goes on at another place of the pattern. -/
theorem stays_goTo
    {rest : List Token}
    (suffix : rest <:+ tokens pattern) :
    Stays pattern (modify fun scan => { scan with rest } : Read Unit) :=
  sound_modify fun _ within => ⟨suffix, within.spelled⟩

theorem Sound.ite
    {condition : Prop}
    [Decidable condition]
    {read other : Read α}
    (sound : Sound pattern gives read)
    (soundOther : Sound pattern gives other) :
    Sound pattern gives (if condition then read else other) := by
  split
  · exact sound
  · exact soundOther

/-! ### Taking tokens -/

/-- A character that is taken is one of the pattern. -/
def IsFrom (pattern : List Char) (found : Option Token) : Prop :=
  ∀ character, found = some (.plain character) → character ∈ pattern

theorem sound_peek : Sound pattern (IsFrom pattern) peek := by
  refine sound_get.bind fun scan within => ?_
  split
  · exact sound_malformed
  next token rest _ tokens =>
    refine sound_pure ?_
    rintro character ⟨⟩
    refine mem_of_plain_mem (within.rest.subset ?_)
    rw [tokens]
    exact List.mem_cons_self
  · exact sound_pure nofun

theorem sound_next : Sound pattern (IsFrom pattern) next := by
  refine sound_peek.bind fun found isFrom => ?_
  refine (sound_modify fun scan within => ?_).bind fun _ _ =>
    sound_peek.bind fun _ _ => sound_pure isFrom
  exact ⟨(List.tail_suffix _).trans within.rest, within.spelled⟩

theorem stays_accept (character : Char) : Stays pattern (accept character) := by
  refine sound_peek.bind fun found _ => Sound.ite ?_ (stays_pure _)
  exact sound_next.bind fun _ _ => stays_pure _

theorem stays_expect (character : Char) : Stays pattern (expect character) :=
  (stays_accept character).bind fun _ _ => Sound.ite (stays_pure _) sound_malformed

theorem takeUpTo_plain
    {test : Char → Bool}
    {count : Nat}
    {character : Char}
    {scan : Scan}
    {rest : List Token}
    (starts : scan.rest = .plain character :: rest) :
    takeUpTo test (count + 1) scan =
      if test character then
        if rest.head? = some .dangling then .error .malformed
        else do
          let (others, reached) ← takeUpTo test count { scan with rest }
          pure (character :: others, reached)
      else pure ([], scan) := by
  obtain ⟨_, options, groups, behind, conditions, names⟩ := scan
  obtain rfl := starts
  by_cases passes : test character = true
  · rw [if_pos passes]
    change ite (test character = true) (_ : Read (List Char)) _ _ = _
    rw [if_pos passes]
    cases rest with
    | nil => rfl
    | cons token rest => cases token <;> rfl
  · rw [if_neg passes]
    change ite (test character = true) (_ : Read (List Char)) _ _ = _
    rw [if_neg passes]
    rfl

/-- The characters that are taken are the next ones, unless a dangling backslash is met. The places
of the characters count here, so this is a fact about all places and not about one pattern. -/
theorem takeUpTo_cases
    (test : Char → Bool)
    (count : Nat)
    (scan : Scan) :
    takeUpTo test count scan = .error .malformed ∨
      ∃ characters rest, scan.rest = characters.map .plain ++ rest ∧
        (∀ character ∈ characters, test character = true) ∧
        takeUpTo test count scan = .ok (characters, { scan with rest }) := by
  induction count generalizing scan with
  | zero => exact .inr ⟨[], scan.rest, rfl, nofun, rfl⟩
  | succ count inductionHypothesis =>
      obtain ⟨rest, options, groups, behind, conditions, names⟩ := scan
      match rest with
      | .plain character :: rest =>
          rw [takeUpTo_plain rfl]
          by_cases passes : test character = true
          · rw [if_pos passes]
            split
            · exact .inl rfl
            · obtain refused | ⟨characters, after, starts, each, taken⟩ :=
                inductionHypothesis ⟨rest, options, groups, behind, conditions, names⟩
              · rw [refused]
                exact .inl rfl
              · rw [taken]
                refine .inr ⟨character :: characters, after, ?_, ?_, rfl⟩
                · exact congrArg (Token.plain character :: ·) starts
                · exact List.forall_mem_cons.2 ⟨passes, each⟩
          · rw [if_neg passes]
            exact .inr ⟨[], _, rfl, nofun, rfl⟩
      | .dangling :: _ => exact .inl rfl
      | .escaped _ :: _ => exact .inr ⟨[], _, rfl, nofun, rfl⟩
      | [] => exact .inr ⟨[], _, rfl, nofun, rfl⟩

/-- Characters that follow each other in a pattern and pass a test. -/
structure IsRun (pattern : List Char) (test : Char → Bool) (characters : List Char) : Prop where
  /-- The characters stand in the pattern one after another. -/
  consecutive : characters <:+: pattern
  /-- All of them satisfy the test. -/
  passes : ∀ character ∈ characters, test character = true

theorem sound_takeUpTo
    (test : Char → Bool)
    (count : Nat) :
    Sound pattern (IsRun pattern test) (takeUpTo test count) := by
  intro scan within
  obtain refused | ⟨characters, rest, starts, passes, taken⟩ := takeUpTo_cases test count scan
  · rw [refused]
    refine ⟨nofun, ?_⟩
    rintro _ ⟨⟩
    exact .malformed
  · rw [taken]
    refine ⟨?_, nofun⟩
    rintro _ _ ⟨⟩
    have after := within.rest
    rw [starts] at after
    refine ⟨⟨isInfix_of_map_plain ?_, passes⟩, ?_⟩
    · exact (List.prefix_append _ _).isInfix.trans after.isInfix
    · exact ⟨(List.suffix_append _ _).trans after, within.spelled⟩

theorem sound_takeAll (test : Char → Bool) :
    Sound pattern (IsRun pattern test) (takeAll test) :=
  sound_get.bind fun _ _ => sound_takeUpTo test _

theorem splitName?_suffix
    {terminator : Char}
    {input rest : List Token}
    {name : List Char}
    (found : splitName? terminator input = some (name, rest)) :
    rest <:+ input := by
  induction input generalizing name with
  | nil => cases found
  | cons token input inductionHypothesis =>
      cases token with
      | plain character =>
          rw [splitName?] at found
          split at found
          · cases found
            exact List.suffix_cons _ _
          · obtain ⟨⟨_, _⟩, later, same⟩ := Option.map_eq_some_iff.1 found
            cases same
            exact (inductionHypothesis later).trans (List.suffix_cons _ _)
      | escaped character =>
          rw [splitName?] at found
          obtain ⟨⟨_, _⟩, later, same⟩ := Option.map_eq_some_iff.1 found
          cases same
          exact (inductionHypothesis later).trans (List.suffix_cons _ _)
      | dangling => cases found

theorem stays_takeName (terminator : Char) : Stays pattern (takeName terminator) := by
  refine sound_get.bind fun scan within => ?_
  split
  next found =>
    refine (stays_goTo ?_).bind fun _ _ => stays_pure _
    exact (splitName?_suffix found).trans within.rest
  · exact sound_malformed

theorem sound_takeHex (count : Nat) :
    Sound pattern (IsRun pattern Text.isHexDigit) (takeHex count) :=
  (sound_takeUpTo _ count).bind fun _ run => Sound.ite (sound_pure run) sound_malformed

end Read

open Read

/-! ## Escapes -/

/-- Digits are refused as a code that is too great only for what they are. -/
theorem stays_codeOf
    {digits : List Char}
    (run : IsRun pattern Text.isHexDigit digits) :
    Stays pattern (codeOf digits) := by
  unfold codeOf
  split
  next large => exact sound_throw (.codeTooLarge run.consecutive run.passes large)
  · exact Sound.ite (stays_pure _) sound_malformed

theorem stays_readCode (digits : Nat) : Stays pattern (readCode digits) :=
  (sound_takeHex digits).bind fun _ run => stays_codeOf run

theorem stays_octalCode (digits : List Char) : Stays pattern (octalCode digits) :=
  Sound.ite (stays_pure _) sound_malformed

theorem stays_plainCode (character : Char) : Stays pattern (plainCode character) :=
  Sound.ite sound_malformed (stays_pure _)

theorem stays_readNamed : Stays pattern readNamed := by
  refine (stays_expect _).bind fun _ _ => (stays_takeName _).bind fun name _ => ?_
  refine sound_get.bind fun scan _ => ?_
  split
  · exact stays_pure _
  · exact sound_malformed

theorem stays_readClassEscape (letter : Char) : Stays pattern (readClassEscape letter) := by
  unfold readClassEscape
  split
  · exact stays_pure _
  · exact stays_pure _
  · exact (stays_readCode _).bind fun _ _ => stays_pure _
  · refine Sound.ite ?_ (Sound.ite ?_ ?_)
    · exact stays_readNamed.bind fun _ _ => stays_pure _
    · refine (sound_takeUpTo _ _).bind fun digits _ => ?_
      exact (stays_octalCode _).bind fun _ _ => stays_pure _
    · exact (stays_plainCode _).bind fun _ _ => stays_pure _

theorem stays_checkBehind (number : Nat) : Stays pattern (checkBehind number) := by
  refine sound_get.bind fun scan _ => ?_
  split
  · exact stays_pure _
  · exact Sound.ite (stays_pure _) sound_malformed

theorem stays_referTo (number : Nat) : Stays pattern (referTo number) := by
  refine sound_get.bind fun scan _ => Sound.ite ?_ sound_malformed
  exact (stays_checkBehind number).bind fun _ _ => stays_pure _

theorem stays_readDigits (first : Char) : Stays pattern (readDigits first) := by
  refine (sound_takeUpTo _ _).bind fun digits _ => ?_
  split
  · refine Sound.ite ((sound_takeUpTo _ _).bind fun third _ => ?_)
      ((stays_pure _).bind fun third _ => ?_)
    -- Whether a third digit was looked for or not, what follows is the same.
    all_goals
      dsimp only
      split
      · exact (stays_octalCode _).bind fun _ _ => stays_pure _
      · exact stays_referTo _
  · exact stays_referTo _

theorem stays_readEscape (letter : Char) : Stays pattern (readEscape letter) := by
  unfold readEscape
  split
  · exact stays_pure _
  · exact stays_pure _
  · exact stays_pure _
  · exact (stays_readCode _).bind fun _ _ => stays_pure _
  · refine Sound.ite ?_ (Sound.ite ?_ (Sound.ite ?_ ?_))
    · exact stays_readNamed.bind fun _ _ => stays_pure _
    · exact (sound_takeUpTo _ _).bind fun _ _ => stays_pure _
    · exact stays_readDigits letter
    · exact (stays_plainCode _).bind fun _ _ => stays_pure _

/-! ## Classes and bounds -/

theorem stays_readElement (token : Token) : Stays pattern (readElement token) := by
  cases token with
  | plain character => exact stays_pure _
  | escaped letter => exact stays_readClassEscape letter
  | dangling => exact sound_malformed

theorem stays_rangeBetween (first last : Element) : Stays pattern (rangeBetween first last) := by
  unfold rangeBetween
  split
  · exact Sound.ite (stays_pure _) sound_malformed
  · exact sound_malformed

theorem stays_readElements
    (fuel : Nat)
    (atFront : Bool) :
    Stays pattern (readElements fuel atFront) := by
  induction fuel generalizing atFront with
  | zero => exact sound_malformed
  | succ fuel inductionHypothesis =>
      have others (element : Element) : Stays pattern
          (do let others ← readElements fuel false; pure (element :: others)) :=
        (inductionHypothesis false).bind fun _ _ => stays_pure _
      refine sound_next.bind fun found _ => ?_
      split
      · exact sound_malformed
      next token _ =>
        refine Sound.ite (stays_pure _) ?_
        refine (stays_readElement token).bind fun first _ => ?_
        refine (stays_accept '-').bind fun _ _ => Sound.ite ?_ (others first)
        refine sound_next.bind fun found _ => ?_
        split
        · exact sound_malformed
        next token _ =>
          refine Sound.ite (stays_pure _) ?_
          refine (stays_readElement token).bind fun last _ => ?_
          exact (stays_rangeBetween first last).bind fun range _ => others range

theorem stays_readClass : Stays pattern readClass := by
  refine (stays_accept '^').bind fun _ _ => sound_get.bind fun scan _ => ?_
  exact (stays_readElements _ true).bind fun _ _ => stays_pure _

/-- Digits are refused as a number of rounds only for what they are. -/
theorem stays_readRounds
    {digits : List Char}
    (run : IsRun pattern Char.isDigit digits) :
    Stays pattern (readRounds digits) := by
  unfold readRounds
  split
  next long => exact sound_throw (.tooManyDigits run.consecutive run.passes long)
  · split
    next large => exact sound_throw (.repetitionTooLarge run.consecutive run.passes large)
    · exact stays_pure _

theorem stays_readBounds : Stays pattern readBounds := by
  refine sound_get.bind fun start within => sound_peek.bind fun found _ => ?_
  refine Sound.ite (stays_pure _) ?_
  refine (sound_takeAll _).bind fun low lowRun => (stays_accept ',').bind fun ranged _ => ?_
  refine Sound.ite ((sound_takeAll Char.isDigit).bind fun high highRun => ?_)
    ((sound_pure lowRun).bind fun high highRun => ?_)
  all_goals
    refine (stays_accept '\x7d').bind fun _ _ => Sound.ite ?_ ?_
    · refine (stays_readRounds lowRun).bind fun least _ => Sound.ite (stays_pure _) ?_
      refine (stays_readRounds highRun).bind fun most _ => ?_
      exact Sound.ite sound_malformed (stays_pure _)
    -- What is no bound after all stands for itself, and is read again from where it began.
    · exact (stays_goTo within.rest).bind fun _ _ => stays_pure _

theorem stays_boundsOf (sign : Char) : Stays pattern (boundsOf sign) :=
  Sound.ite (stays_pure _)
    (Sound.ite (stays_pure _) (Sound.ite (stays_pure _) stays_readBounds))

theorem stays_readGreed : Stays pattern readGreed := by
  refine (stays_accept '?').bind fun _ _ => Sound.ite (stays_pure _) ?_
  refine (stays_accept '+').bind fun _ _ => ?_
  exact Sound.ite (stays_pure _) (stays_pure _)

theorem stays_readRepetition
    (sign : Char)
    (items : List Expression) :
    Stays pattern (readRepetition sign items) := by
  refine (stays_boundsOf sign).bind fun bounds _ => ?_
  split
  · exact stays_pure _
  · split
    · exact sound_malformed
    · refine Sound.ite ?_ sound_malformed
      exact stays_readGreed.bind fun _ _ => stays_pure _

/-! ## Options and names -/

/-- A letter of the pattern only sets its own option. -/
theorem sound_addOption
    {options : Options}
    {letter : Char}
    (spelled : Spelled pattern options)
    (member : letter ∈ pattern) :
    Sound pattern (Spelled pattern) (addOption options letter) := by
  refine Sound.ite (sound_pure ⟨spelled.ascii, spelled.unicode⟩) ?_
  refine Sound.ite (sound_pure ⟨spelled.ascii, spelled.unicode⟩) ?_
  refine Sound.ite (sound_pure ⟨spelled.ascii, spelled.unicode⟩) ?_
  refine Sound.ite (sound_pure ⟨spelled.ascii, spelled.unicode⟩) ?_
  refine Sound.ite (sound_pure ⟨spelled.ascii, spelled.unicode⟩) ?_
  split
  next ascii => exact sound_pure ⟨fun _ => ascii.1 ▸ member, spelled.unicode⟩
  · split
    next unicode => exact sound_pure ⟨spelled.ascii, fun _ => unicode.1 ▸ member⟩
    · exact sound_malformed

theorem sound_readOptions
    {signs : List Char}
    {options : Options}
    {letter : Char}
    (fuel : Nat)
    (spelled : Spelled pattern options)
    (member : letter ∈ pattern) :
    Sound pattern (fun found => Spelled pattern found.1)
      (readOptions signs fuel options letter) := by
  induction fuel generalizing options letter with
  | zero => exact sound_malformed
  | succ fuel inductionHypothesis =>
      refine (sound_addOption spelled member).bind fun options spelled => ?_
      refine sound_next.bind fun found isFrom => ?_
      split
      next _ character =>
        exact Sound.ite (sound_pure spelled)
          (inductionHypothesis spelled (isFrom character rfl))
      · exact sound_malformed

/-- A change of options for the whole pattern only sets what it has the letters for. -/
def OptionChange.IsSpelled (pattern : List Char) : OptionChange → Prop
  | .global added => Spelled pattern added
  | .scope _ _ => True

theorem sound_readRemoved (added : Options) :
    Sound pattern (OptionChange.IsSpelled pattern) (readRemoved added) := by
  refine sound_next.bind fun found isFrom => ?_
  split
  next _ letter =>
    refine sound_get.bind fun scan _ => ?_
    refine (sound_readOptions _ spelled_empty (isFrom letter rfl)).bind fun removed _ => ?_
    exact Sound.ite sound_malformed (sound_pure trivial)
  · exact sound_malformed

theorem sound_readChange
    {letter : Char}
    (member : letter ∈ pattern) :
    Sound pattern (OptionChange.IsSpelled pattern) (readChange letter) := by
  refine Sound.ite (sound_readRemoved {}) (sound_get.bind fun scan _ => ?_)
  refine (sound_readOptions _ spelled_empty member).bind fun added spelled => ?_
  refine Sound.ite (sound_pure spelled) (Sound.ite sound_malformed ?_)
  exact Sound.ite (sound_readRemoved _) (sound_pure trivial)

theorem stays_openGroup (name : Option (List Char)) : Stays pattern (openGroup name) := by
  refine sound_get.bind fun scan _ => Sound.ite sound_malformed ?_
  refine (sound_modify fun _ within => ?_).bind fun _ _ => stays_pure _
  exact ⟨within.rest, within.spelled⟩

theorem stays_closeGroup
    (number : Nat)
    (body : Expression) :
    Stays pattern (closeGroup number body) :=
  sound_modify fun _ within => ⟨within.rest, within.spelled⟩

theorem stays_readCondition : Stays pattern readCondition := by
  refine (stays_takeName ')').bind fun name _ => sound_get.bind fun scan _ => Sound.ite ?_ ?_
  · split
    · exact stays_pure _
    · exact sound_malformed
  · split
    · refine Sound.ite ((sound_modify fun _ within => ?_).bind fun _ _ => stays_pure _)
        sound_malformed
      exact ⟨within.rest, within.spelled⟩
    · exact sound_malformed

theorem stays_skipComment : Stays pattern skipComment := by
  refine sound_get.bind fun scan within => ?_
  have left : scan.rest.dropWhile (· != .plain ')') <:+ tokens pattern :=
    (List.dropWhile_suffix _).trans within.rest
  dsimp only
  split
  next comment =>
    rw [comment] at left
    exact stays_goTo ((List.suffix_cons _ _).trans left)
  · exact sound_malformed

theorem stays_skipLine : Stays pattern skipLine := by
  refine (sound_modify fun _ within => ?_).bind fun _ _ => sound_next.bind fun _ _ => stays_pure _
  exact ⟨(List.dropWhile_suffix _).trans within.rest, within.spelled⟩

/-! ## Descent -/

/-- What stands between parentheses only sets options of the pattern that it has the letters
for. -/
def Bracketed.IsSpelled (pattern : List Char) : Bracketed → Prop
  | .options added => Spelled pattern added
  | _ => True

/-- Descending so deep stays within the pattern. -/
structure Descends (pattern : List Char) (fuel : Nat) : Prop where
  /-- Reading alternatives does. -/
  alternatives (verbose whole first : Bool) :
    Stays pattern (readAlternatives fuel verbose whole first)
  /-- Reading a sequence does. -/
  sequence (verbose first : Bool) (items : List Expression) :
    Stays pattern (readSequence fuel verbose first items)
  /-- Reading what stands in brackets does. -/
  bracketed (verbose : Bool) :
    Sound pattern (Bracketed.IsSpelled pattern) (readBracketed fuel verbose)
  /-- Reading a group does. -/
  capture (verbose : Bool) (name : Option (List Char)) :
    Sound pattern (Bracketed.IsSpelled pattern) (readCapture fuel verbose name)
  /-- Reading a scope of options does. -/
  scope (verbose : Bool) (added removed : Options) :
    Sound pattern (Bracketed.IsSpelled pattern) (readScope fuel verbose added removed)
  /-- Reading a lookahead does. -/
  ahead (verbose negated : Bool) :
    Sound pattern (Bracketed.IsSpelled pattern) (readAhead fuel verbose negated)
  /-- Reading a lookbehind does. -/
  behind (verbose negated : Bool) :
    Sound pattern (Bracketed.IsSpelled pattern) (readBehind fuel verbose negated)

theorem descends_zero : Descends pattern 0 where
  alternatives _ _ _ := sound_malformed
  sequence _ _ _ := sound_malformed
  bracketed _ := sound_malformed
  capture _ _ := sound_malformed
  scope _ _ _ := sound_malformed
  ahead _ _ := sound_malformed
  behind _ _ := sound_malformed

namespace Descends

variable {fuel : Nat}

theorem alternatives_succ
    (descends : Descends pattern fuel)
    (verbose whole first : Bool) :
    Stays pattern (readAlternatives (fuel + 1) verbose whole first) := by
  rw [readAlternatives]
  refine (descends.sequence _ _ _).bind fun head _ => ?_
  refine (stays_accept '|').bind fun _ _ => Sound.ite ?_ (stays_pure _)
  refine sound_get.bind fun scan _ => ?_
  exact (descends.alternatives _ _ _).bind fun _ _ => stays_pure _

theorem sequence_succ
    (descends : Descends pattern fuel)
    (verbose first : Bool)
    (items : List Expression) :
    Stays pattern (readSequence (fuel + 1) verbose first items) := by
  have continues (items : List Expression) :
      Stays pattern (readSequence fuel verbose first items) :=
    descends.sequence verbose first items
  rw [readSequence]
  refine sound_peek.bind fun found _ => ?_
  split
  · exact stays_pure _
  · exact stays_pure _
  · exact stays_pure _
  next token _ _ _ =>
    refine sound_next.bind fun _ _ => Sound.ite (continues _) (Sound.ite ?_ ?_)
    · exact stays_skipLine.bind fun _ _ => continues _
    · split
      · exact sound_malformed
      · exact (stays_readEscape _).bind fun _ _ => continues _
      · refine Sound.ite ?_ (Sound.ite ?_ (Sound.ite ?_ (continues _)))
        · exact stays_readClass.bind fun _ _ => continues _
        · exact (stays_readRepetition _ _).bind fun _ _ => continues _
        · refine (descends.bracketed verbose).bind fun bracketed spelled => ?_
          split
          · exact continues _
          · exact continues _
          next added =>
            refine Sound.ite ?_ sound_malformed
            refine (sound_modify fun scan within => ?_).bind fun _ _ =>
              sound_get.bind fun scan _ => descends.sequence _ _ _
            exact ⟨within.rest, within.spelled.join spelled⟩

theorem capture_succ
    (descends : Descends pattern fuel)
    (verbose : Bool)
    (name : Option (List Char)) :
    Sound pattern (Bracketed.IsSpelled pattern) (readCapture (fuel + 1) verbose name) := by
  rw [readCapture]
  refine (stays_openGroup name).bind fun number _ => ?_
  refine (descends.alternatives _ _ _).bind fun body _ => ?_
  refine (stays_expect ')').bind fun _ _ => ?_
  exact (stays_closeGroup number body).bind fun _ _ => sound_pure trivial

theorem scope_succ
    (descends : Descends pattern fuel)
    (verbose : Bool)
    (added removed : Options) :
    Sound pattern (Bracketed.IsSpelled pattern) (readScope (fuel + 1) verbose added removed) := by
  rw [readScope]
  refine (descends.alternatives _ _ _).bind fun body _ => ?_
  exact (stays_expect ')').bind fun _ _ => sound_pure trivial

theorem ahead_succ
    (descends : Descends pattern fuel)
    (verbose negated : Bool) :
    Sound pattern (Bracketed.IsSpelled pattern) (readAhead (fuel + 1) verbose negated) := by
  rw [readAhead]
  refine (descends.alternatives _ _ _).bind fun body _ => ?_
  exact (stays_expect ')').bind fun _ _ => sound_pure trivial

theorem behind_succ
    (descends : Descends pattern fuel)
    (verbose negated : Bool) :
    Sound pattern (Bracketed.IsSpelled pattern) (readBehind (fuel + 1) verbose negated) := by
  rw [readBehind]
  refine sound_get.bind fun scan _ => ?_
  refine (sound_modify fun _ within => ?_).bind fun _ _ => ?_
  · exact ⟨within.rest, within.spelled⟩
  refine (descends.alternatives _ _ _).bind fun body _ => ?_
  refine (sound_modify fun _ within => ?_).bind fun _ _ => ?_
  · exact ⟨within.rest, within.spelled⟩
  refine (stays_expect ')').bind fun _ _ => ?_
  exact sound_get.bind fun scan _ => sound_pure trivial

theorem bracketed_succ
    (descends : Descends pattern fuel)
    (verbose : Bool) :
    Sound pattern (Bracketed.IsSpelled pattern) (readBracketed (fuel + 1) verbose) := by
  rw [readBracketed]
  refine (stays_accept '?').bind fun _ _ => Sound.ite ?_ (descends.capture _ _)
  refine sound_next.bind fun found isFrom => ?_
  split
  next _ mark =>
    refine Sound.ite ?_ (Sound.ite ?_ (Sound.ite ?_ (Sound.ite ?_ (Sound.ite ?_ (Sound.ite ?_
      (Sound.ite ?_ (Sound.ite ?_ ?_)))))))
    · refine (stays_accept '<').bind fun _ _ => Sound.ite ?_ ?_
      · refine (stays_takeName '>').bind fun name _ => ?_
        exact Sound.ite (descends.capture _ _) sound_malformed
      · refine (stays_accept '=').bind fun _ _ => Sound.ite ?_ sound_malformed
        refine (stays_takeName ')').bind fun name _ => sound_get.bind fun scan _ => ?_
        split
        · exact (stays_referTo _).bind fun _ _ => sound_pure trivial
        · exact sound_malformed
    · exact descends.scope _ _ _
    · exact stays_skipComment.bind fun _ _ => sound_pure trivial
    · exact descends.ahead _ _
    · exact descends.ahead _ _
    · refine (stays_accept '=').bind fun _ _ => Sound.ite (descends.behind _ _) ?_
      refine (stays_accept '!').bind fun _ _ => ?_
      exact Sound.ite (descends.behind _ _) sound_malformed
    · refine stays_readCondition.bind fun number _ => (stays_checkBehind number).bind fun _ _ => ?_
      refine (descends.sequence _ _ _).bind fun present _ => (stays_accept '|').bind fun _ _ => ?_
      refine Sound.ite ((descends.sequence _ _ _).bind fun absent _ => ?_)
        ((stays_pure _).bind fun absent _ => ?_)
      all_goals exact (stays_expect ')').bind fun _ _ => sound_pure trivial
    · refine (descends.alternatives _ _ _).bind fun body _ => ?_
      exact (stays_expect ')').bind fun _ _ => sound_pure trivial
    · refine (sound_readChange (isFrom mark rfl)).bind fun change spelled => ?_
      split
      · exact sound_pure spelled
      · exact descends.scope _ _ _
  · exact sound_malformed

end Descends

/-- The readers call each other with less fuel, so the induction is for all of them at once. -/
theorem descends (fuel : Nat) : Descends pattern fuel := by
  induction fuel with
  | zero => exact descends_zero
  | succ fuel inductionHypothesis =>
      exact {
        alternatives := inductionHypothesis.alternatives_succ
        sequence := inductionHypothesis.sequence_succ
        bracketed := inductionHypothesis.bracketed_succ
        capture := inductionHypothesis.capture_succ
        scope := inductionHypothesis.scope_succ
        ahead := inductionHypothesis.ahead_succ
        behind := inductionHypothesis.behind_succ }

/-! ## Whole patterns -/

theorem warranted_of_finish
    {expression : Expression}
    {scan : Scan}
    {rejection : Rejection}
    (within : Within pattern scan)
    (refused : finish expression scan = .error rejection) :
    Warranted pattern rejection := by
  unfold finish at refused
  split at refused
  next both =>
    cases refused
    obtain ⟨ascii, unicode⟩ := Bool.and_eq_true_iff.1 both
    exact .conflictingAlphabets (within.spelled.ascii ascii) (within.spelled.unicode unicode)
  · split_ifs at refused <;> cases refused <;> exact .malformed

theorem warranted_of_compile
    {options : Options}
    {rejection : Rejection}
    (spelled : Spelled pattern options)
    (refused : compile names options pattern = .error rejection) :
    Warranted pattern rejection := by
  have within : Within pattern ⟨tokens pattern, options, [], none, [], names⟩ :=
    ⟨List.suffix_refl _, spelled⟩
  obtain ⟨given, rejected⟩ :=
    (descends (4 * (tokens pattern).length + 4)).alternatives options.verbose true true _ within
  unfold compile at refused
  dsimp only at refused
  split at refused
  next expression scan read => exact warranted_of_finish (given _ _ read).2 refused
  next rejection read =>
    cases refused
    exact rejected _ read

/-- A letter after a delimited pattern chooses no alphabet. -/
theorem spelled_of_suffixOption?
    {letter : Char}
    {option : Options}
    (read : suffixOption? letter = some option) :
    Spelled pattern option := by
  obtain ⟨before, after, table, -⟩ := List.lookup_eq_some_iff.1 read
  have member : (letter, option) ∈ before ++ (letter, option) :: after :=
    List.mem_append_right _ List.mem_cons_self
  rw [← table] at member
  simp only [List.mem_cons, List.not_mem_nil, or_false, Prod.mk.injEq] at member
  rcases member with ⟨-, rfl⟩ | ⟨-, rfl⟩ | ⟨-, rfl⟩ | ⟨-, rfl⟩ | ⟨-, rfl⟩ <;> exact ⟨nofun, nofun⟩

theorem spelled_of_suffixOptions?
    {suffix : List Char}
    {options : Options}
    (read : suffixOptions? suffix = some options) :
    Spelled pattern options := by
  induction suffix generalizing options with
  | nil =>
      cases read
      exact spelled_empty
  | cons letter suffix inductionHypothesis =>
      rw [suffixOptions?] at read
      split at read
      next option others first later =>
        cases read
        exact (spelled_of_suffixOption? first).join (inductionHypothesis later)
      · cases read

theorem splitLast?_eq_append
    {mark : Char}
    {text before after : List Char}
    (found : splitLast? mark text = some (before, after)) :
    text = before ++ mark :: after := by
  induction text generalizing before with
  | nil => cases found
  | cons character text inductionHypothesis =>
      rw [splitLast?] at found
      split at found
      next later =>
        cases found
        rw [inductionHypothesis later]
        rfl
      · split at found
        next same =>
          cases found
          rw [same]
          rfl
        · cases found

/-- A pattern between delimiters is a part of the text, under options that choose no alphabet. -/
theorem isInfix_of_delimited?
    {text body : List Char}
    {options : Options}
    (delimited : delimited? text = some (body, options)) :
    body <:+: text ∧ Spelled body options := by
  cases text with
  | nil => cases delimited
  | cons first text =>
      rw [delimited?] at delimited
      split_ifs at delimited
      split at delimited
      next before suffix found =>
        obtain ⟨_, read, same⟩ := Option.map_eq_some_iff.1 delimited
        cases same
        refine ⟨⟨[first], first :: suffix, ?_⟩, spelled_of_suffixOptions? read⟩
        rw [splitLast?_eq_append found]
        rfl
      · cases delimited

/-- A text is only refused as a pattern for a reason that it accounts for. -/
theorem warranted_of_ofText
    {source : String}
    {rejection : Rejection}
    (refused : ofText names source = .error rejection) :
    Warranted source.toList rejection := by
  unfold ofText at refused
  split at refused
  next body options delimited =>
    obtain ⟨part, spelled⟩ := isInfix_of_delimited? delimited
    exact (warranted_of_compile spelled refused).of_isInfix part
  · exact warranted_of_compile spelled_empty refused

end Pattern
end RequestFlow
