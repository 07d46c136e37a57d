import Mathlib.Data.List.Forall2
import RequestFlow.Proofs.Text.Cut
import RequestFlow.Route.Path

/-!
# Segments and the path they make up

The segments of a path, each behind a slash, make up the path again, but for the blanks at its end
and for slashes at both ends. A path that was put together from parts is cut into these parts again
if the segments fit them: a part has no slash of its own, or is at most as long as its segment.
-/

namespace RequestFlow
namespace Route

open Text

/-- Parts of a path, each behind a slash. -/
def joined (parts : List (List Char)) : List Char :=
  parts.flatMap ('/' :: ·)

@[simp] theorem joined_nil : joined [] = [] := rfl

@[simp] theorem joined_cons
    (part : List Char)
    (parts : List (List Char)) :
    joined (part :: parts) = '/' :: (part ++ joined parts) := rfl

variable {path front text : List Char} {parts pieces : List (List Char)} {count : Nat}

/-! ## Cutting a path -/

/-- What stands between the slashes at both ends of a text. -/
def inside (text : List Char) : List Char :=
  dropEndWhile (· == '/') (text.dropWhile (· == '/'))

theorem inside_cons_slash (text : List Char) : inside ('/' :: text) = inside text := rfl

theorem inside_dropEndWhile (text : List Char) :
    inside (dropEndWhile (· == '/') text) = inside text := by
  unfold inside
  rw [dropWhile_dropEndWhile, dropEndWhile_eq_rdropWhile, dropEndWhile_eq_rdropWhile,
    List.rdropWhile_idempotent]

theorem inside_normalize (path : List Char) :
    inside (normalize path) = inside (trim path) := by
  unfold normalize
  dsimp only
  split
  · next nothing =>
      -- the root, whether or not a slash was put in front of it
      split at nothing
      · rw [← inside_dropEndWhile (trim path), nothing]
        rfl
      · rw [← inside_cons_slash (trim path), ← inside_dropEndWhile ('/' :: trim path), nothing]
        rfl
  · rw [inside_dropEndWhile]
    split <;> rfl

/-- The segments of a path are the parts of what stands between its outer slashes. -/
theorem segments_eq_splitAt (path : List Char) :
    segments path = splitAt '/' (inside (trim path)) := by
  rw [← inside_normalize]
  rfl

/-- The segments of a path make up the path, but for blanks at its end and slashes at both ends. -/
theorem exists_joined_segments (rest : List Char) :
    ∃ before after, trimEnd ('/' :: rest) =
      List.replicate before '/' ++ joined (segments ('/' :: rest)) ++
        List.replicate after '/' := by
  have trimmed : trimEnd ('/' :: rest) = '/' :: trimEnd rest :=
    dropEndWhile_append (by decide) [] rest
  have kept : trim ('/' :: rest) = '/' :: trimEnd rest := trimmed
  obtain ⟨before, tail_eq⟩ := exists_replicate_append_dropWhile '/' (trimEnd rest)
  obtain ⟨after, inside_eq⟩ := exists_dropEndWhile_append_replicate '/'
    ((trimEnd rest).dropWhile (· == '/'))
  have rejoined : joined (segments ('/' :: rest)) =
      '/' :: dropEndWhile (· == '/') ((trimEnd rest).dropWhile (· == '/')) := by
    rw [segments_eq_splitAt, kept]
    exact flatMap_splitAt '/' _
  have moved : '/' :: List.replicate before '/' = List.replicate before '/' ++ ['/'] :=
    List.replicate_succ.symm.trans List.replicate_succ'
  refine ⟨before, after, ?_⟩
  calc trimEnd ('/' :: rest)
      = ('/' :: List.replicate before '/') ++ (trimEnd rest).dropWhile (· == '/') := by
        rw [trimmed, List.cons_append, ← tail_eq]
    _ = _ := by
        rw [moved, rejoined, List.append_assoc, List.singleton_append, List.append_assoc,
          List.cons_append, ← inside_eq]

/-- A path that was put together from parts without slashes is cut into these parts again. -/
theorem splitAt_joined
    (free : ∀ part ∈ path :: parts, '/' ∉ part) :
    splitAt '/' (path ++ joined parts) = path :: parts := by
  induction parts generalizing path with
  | nil =>
      rw [joined_nil, List.append_nil]
      exact splitAt_of_not_mem (free path List.mem_cons_self)
  | cons part parts inductionHypothesis =>
      rw [List.forall_mem_cons] at free
      rw [joined_cons, splitAt_append free.1, inductionHypothesis free.2]

/-- What was put together from parts without slashes ends in no slash, if the last part is not
empty. -/
theorem exists_append_joined
    (filled : ∀ part ∈ path :: parts, part ≠ [] ∧ '/' ∉ part) :
    ∃ front last, path ++ joined parts = front ++ [last] ∧ last ≠ '/' := by
  induction parts generalizing path with
  | nil =>
      obtain ⟨some_character, slashless⟩ := filled path List.mem_cons_self
      refine ⟨path.dropLast, path.getLast some_character, ?_, ?_⟩
      · rw [joined_nil, List.append_nil, List.dropLast_append_getLast]
      · exact ne_of_mem_of_not_mem (List.getLast_mem some_character) slashless
  | cons part parts inductionHypothesis =>
      obtain ⟨front, last, rest_eq, different⟩ :=
        inductionHypothesis fun other member => filled other (List.mem_cons_of_mem path member)
      refine ⟨path ++ '/' :: front, last, ?_, different⟩
      rw [joined_cons, rest_eq, List.append_assoc, List.cons_append]

/-- The segments of a path that was put together from parts are these parts, if none of them is
empty or has a slash, and the path does not end in a blank. -/
theorem segments_joined
    (some_part : parts ≠ [])
    (filled : ∀ part ∈ parts, part ≠ [] ∧ '/' ∉ part)
    (ends : trimEnd (joined parts) = joined parts) :
    segments (joined parts) = parts := by
  obtain ⟨part, others, rfl⟩ := List.exists_cons_of_ne_nil some_part
  have trimmed : trim (joined (part :: others)) = '/' :: (part ++ joined others) := ends
  have front : (part ++ joined others).dropWhile (· == '/') = part ++ joined others := by
    obtain ⟨some_character, slashless⟩ := filled part List.mem_cons_self
    obtain ⟨first, rest, rfl⟩ := List.exists_cons_of_ne_nil some_character
    have different : first ≠ '/' := ne_of_mem_of_not_mem List.mem_cons_self slashless
    exact List.dropWhile_cons_of_neg (by simpa using different)
  have back : dropEndWhile (· == '/') (part ++ joined others) = part ++ joined others := by
    obtain ⟨front, last, text_eq, different⟩ := exists_append_joined filled
    rw [text_eq]
    exact List.rdropWhile_concat_neg _ front last (by simpa using different)
  have kept : inside ('/' :: (part ++ joined others)) = part ++ joined others := by
    unfold inside
    rw [List.dropWhile_cons_of_pos (by rfl), front, back]
  rw [segments_eq_splitAt, trimmed, kept]
  exact splitAt_joined fun other member => (filled other member).2

/-! ## Parts that fit segments -/

/-- A part that has no slash of its own, or is at most as long as the piece it is compared with. -/
def Fits (part piece : List Char) : Prop :=
  part.length ≤ piece.length ∨ '/' ∉ part

/-- A part that fits ends before the piece does, wherever the piece begins. -/
theorem Fits.length_le
    {part piece rest back : List Char}
    (fits : Fits part piece)
    (same : part ++ rest = front ++ '/' :: (piece ++ back)) :
    part.length ≤ front.length + piece.length := by
  rcases fits with short | free
  · exact Nat.le_add_left_of_le short
  · rcases List.append_eq_append_iff.1 same with ⟨more, front_eq, -⟩ | ⟨more, part_eq, slash⟩
    · rw [front_eq, List.length_append]
      omega
    · cases more with
      | nil =>
          rw [part_eq, List.append_nil]
          exact Nat.le_add_right _ _
      | cons first more =>
          obtain ⟨rfl, -⟩ := List.cons.inj slash
          exact absurd (by simp [part_eq]) free

/-- Parts that fit pieces make up no path in which something stands in front of the pieces. -/
theorem eq_nil_of_joined_eq
    {back : List Char}
    (fits : List.Forall₂ Fits parts pieces)
    (same : joined parts = front ++ (joined pieces ++ back)) :
    front = [] := by
  induction fits generalizing front with
  | nil => exact (List.append_eq_nil_iff.1 same.symm).1
  | @cons part piece parts pieces fit fits inductionHypothesis =>
      cases front with
      | nil => rfl
      | cons first front =>
          rw [joined_cons, joined_cons, List.cons_append, List.cons_append,
            List.append_assoc] at same
          have behind := (List.cons.inj same).2
          have short := fit.length_le behind
          -- the part ends inside of what stands in front of the other pieces
          have cut : front ++ '/' :: (piece ++ (joined pieces ++ back)) =
              (front ++ '/' :: piece) ++ (joined pieces ++ back) := by simp
          rw [cut] at behind
          rcases List.append_eq_append_iff.1 behind with
            ⟨more, front_eq, onward⟩ | ⟨more, part_eq, -⟩
          · obtain rfl := inductionHypothesis onward
            have lengths := congrArg List.length front_eq
            simp only [List.length_append, List.length_cons, List.length_nil] at lengths
            omega
          · have lengths := congrArg List.length part_eq
            simp only [List.length_append, List.length_cons] at lengths
            omega

/-- Parts that fit pieces are the pieces, if they make up the same path but for slashes at its end.
-/
theorem eq_of_joined_eq
    (fits : List.Forall₂ Fits parts pieces)
    (same : joined parts = joined pieces ++ List.replicate count '/') :
    parts = pieces := by
  induction fits with
  | nil => rfl
  | @cons part piece parts pieces fit fits inductionHypothesis =>
      rw [joined_cons, joined_cons, List.cons_append, List.append_assoc] at same
      rcases List.append_eq_append_iff.1 (List.cons.inj same).2 with
        ⟨more, piece_eq, onward⟩ | ⟨more, part_eq, onward⟩
      · obtain rfl := eq_nil_of_joined_eq fits onward
        rw [List.append_nil] at piece_eq
        rw [piece_eq, inductionHypothesis onward]
      · cases more with
        | nil =>
            rw [List.append_nil] at part_eq
            rw [part_eq, inductionHypothesis onward.symm]
        | cons first more =>
            -- what the part has more begins with a slash
            have slash : first = '/' := by
              cases pieces with
              | nil =>
                  have member : first ∈ List.replicate count '/' := by
                    rw [joined_nil, List.nil_append] at onward
                    rw [onward]
                    simp
                  exact List.eq_of_mem_replicate member
              | cons other pieces => exact (List.cons.inj onward).1.symm
            rcases fit with short | free
            · rw [part_eq, List.length_append, List.length_cons] at short
              omega
            · exact absurd (by simp [part_eq, slash]) free

/-- A path that was put together from parts is cut into these parts again, if they fit. -/
theorem segments_eq_of_fits
    {rest : List Char}
    (trimmed : trimEnd ('/' :: rest) = joined parts)
    (fits : List.Forall₂ Fits parts (segments ('/' :: rest))) :
    parts = segments ('/' :: rest) := by
  obtain ⟨before, after, whole⟩ := exists_joined_segments rest
  rw [trimmed, List.append_assoc] at whole
  rw [eq_nil_of_joined_eq fits whole, List.nil_append] at whole
  exact eq_of_joined_eq fits whole

/-! ## Blanks at the end -/

/-- The parts, the last of them without the blanks at its end. -/
def trimLast : List (List Char) → List (List Char)
  | [] => []
  | [last] => [trimEnd last]
  | part :: parts => part :: trimLast parts

theorem trimEnd_append_joined
    (front : List Char)
    (part : List Char)
    (parts : List (List Char)) :
    trimEnd (front ++ joined (part :: parts)) = front ++ joined (trimLast (part :: parts)) := by
  induction parts generalizing front part with
  | nil =>
      rw [joined_cons, joined_nil, List.append_nil, trimEnd, dropEndWhile_append (by decide),
        trimLast, joined_cons, joined_nil, List.append_nil]
      rfl
  | cons next parts inductionHypothesis =>
      have later := inductionHypothesis (front ++ '/' :: part) next
      rw [joined_cons, trimLast, joined_cons]
      · simpa using later
      · simp

/-- What trimming keeps holds of the trimmed parts. -/
theorem forall₂_trimLast
    {ρ : Type}
    {related : List Char → ρ → Prop}
    {values : List ρ}
    (trims : ∀ part value, related part value → related (trimEnd part) value)
    (each : List.Forall₂ related parts values) :
    List.Forall₂ related (trimLast parts) values := by
  induction each with
  | nil => exact .nil
  | @cons part value parts values first rest inductionHypothesis =>
      cases rest with
      | nil => exact .cons (trims part value first) .nil
      | cons next others => exact .cons first inductionHypothesis

end Route
end RequestFlow
