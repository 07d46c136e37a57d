import RequestFlow.Text.Point

/-!
# Colour sequences

A colour sequence is an escape character, an opening bracket, any number of digits and semicolons,
and the letter `m`. Sequences are taken out of texts in one pass from the left; what comes to stand
side by side that way is not looked at again.
-/

namespace RequestFlow
namespace Log

/-- Whether a character may stand among the numbers of a colour sequence. -/
def isParameter (character : Char) : Bool :=
  character.isDigit || character == ';'

/-- What follows a colour sequence, if a text begins with one. -/
def afterSequence? : List Char → Option (List Char)
  | '\x1b' :: '[' :: rest =>
    match rest.dropWhile isParameter with
    | 'm' :: after => some after
    | _ => none
  | _ => none

/-- Taking out a sequence leaves less. -/
theorem length_afterSequence?
    {input after : List Char}
    (found : afterSequence? input = some after) :
    after.length < input.length := by
  unfold afterSequence? at found
  split at found
  next rest =>
    split at found
    next tail same =>
      cases found
      have shorter : (rest.dropWhile isParameter).length ≤ rest.length :=
        (List.dropWhile_suffix _).length_le
      rw [same] at shorter
      simp only [List.length_cons] at shorter ⊢
      omega
    · cases found
  · cases found

/-- A text without its colour sequences. -/
def stripColours (input : List Char) : List Char :=
  match _found : afterSequence? input with
  | some after => stripColours after
  | none =>
    match input with
    | [] => []
    | character :: rest => character :: stripColours rest
termination_by input.length
decreasing_by
  · exact length_afterSequence? _found
  · simp

/-- A text without its colour sequences. -/
def withoutColours (content : String) : String :=
  String.ofList (stripColours content.toList)

/-- A message without its colour sequences, after characters that have been read, the last of them
first. No sequence has half of a surrogate pair in it, so each run of characters is a text of its
own. -/
def stripRuns : (run : List Char) → List Text.Point → List Text.Point
  | run, [] => Text.points (stripColours run.reverse)
  | run, .character character :: rest => stripRuns (character :: run) rest
  | run, .half index :: rest =>
    Text.points (stripColours run.reverse) ++ .half index :: stripRuns [] rest

/-- A message without its colour sequences. -/
def plainMessage (message : List Text.Point) : List Text.Point :=
  stripRuns [] message

end Log
end RequestFlow
