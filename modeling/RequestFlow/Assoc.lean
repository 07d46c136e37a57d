/-!
# Associations in insertion order

An association lists its keys in the order in which they were first put. Putting a key again changes
its value and keeps its place, so a listing shows history and not only content.
-/

namespace RequestFlow

/-- Keys with their values, in the order in which the keys were first put. -/
abbrev Assoc (κ υ : Type) := List (κ × υ)

namespace Assoc

variable {κ υ : Type} [BEq κ]

/-- The value of a key, if the key is there. -/
def get? (key : κ) : Assoc κ υ → Option υ
  | [] => none
  | (present, value) :: rest => if present == key then some value else get? key rest

/-- Whether a key is there. -/
def has (key : κ) (entries : Assoc κ υ) : Bool :=
  entries.any fun entry => entry.1 == key

/-- Give a key a value: in its place if the key is there, and at the end otherwise. -/
def put (key : κ) (value : υ) : Assoc κ υ → Assoc κ υ
  | [] => [(key, value)]
  | (present, old) :: rest =>
    if present == key then (present, value) :: rest else (present, old) :: put key value rest

/-- Put every entry of the second association into the first, in order. -/
def merge (entries further : Assoc κ υ) : Assoc κ υ :=
  further.foldl (fun merged entry => merged.put entry.1 entry.2) entries

/-- An association without the entries of one key. -/
def erase (key : κ) (entries : Assoc κ υ) : Assoc κ υ :=
  entries.filter fun entry => !(entry.1 == key)

/-- The keys, in order. -/
def keys (entries : Assoc κ υ) : List κ :=
  entries.map (·.1)

@[simp] theorem get?_nil (key : κ) : get? key ([] : Assoc κ υ) = none := rfl

@[simp] theorem put_nil
    (key : κ)
    (value : υ) :
    put key value [] = [(key, value)] := rfl

/-- A key that equals itself has, once it has been put, the value it was given. -/
theorem get?_put_of_beq
    {key : κ}
    (itself : (key == key) = true)
    (value : υ)
    (entries : Assoc κ υ) :
    get? key (put key value entries) = some value := by
  induction entries with
  | nil => simp [put, get?, itself]
  | cons entry rest inductionHypothesis =>
      obtain ⟨present, old⟩ := entry
      by_cases same : present == key <;> simp [put, get?, same, inductionHypothesis]

/-- A key that has just been put has the value it was given. -/
theorem get?_put_self
    [LawfulBEq κ]
    (key : κ)
    (value : υ)
    (entries : Assoc κ υ) :
    get? key (put key value entries) = some value :=
  get?_put_of_beq (beq_self_eq_true key) value entries

/-- Putting a key leaves the values of all others as they are. -/
theorem get?_put_of_ne
    [LawfulBEq κ]
    {key other : κ}
    (different : other ≠ key)
    (value : υ)
    (entries : Assoc κ υ) :
    get? other (put key value entries) = get? other entries := by
  induction entries with
  | nil => simp [put, get?, Ne.symm different]
  | cons entry rest inductionHypothesis =>
      obtain ⟨present, old⟩ := entry
      by_cases same : present == key
      · have : (present == other) = false := by
          rw [eq_of_beq same]; simpa using Ne.symm different
        simp [put, get?, same, this]
      · simp [put, get?, same, inductionHypothesis]

/-- After a key has been put, it has the value it was given and every other key the one it had. -/
theorem get?_put
    [LawfulBEq κ]
    (key other : κ)
    (value : υ)
    (entries : Assoc κ υ) :
    get? other (put key value entries) =
      if key == other then some value else get? other entries := by
  by_cases same : other = key
  · subst same
    rw [get?_put_self, if_pos (beq_self_eq_true other)]
  · have passed : (key == other) = false := beq_eq_false_iff_ne.2 (Ne.symm same)
    rw [get?_put_of_ne same, passed, if_neg Bool.false_ne_true]

/-- What is listed first is found first. -/
theorem get?_append
    (key : κ)
    (entries further : Assoc κ υ) :
    get? key (entries ++ further) = (get? key entries).or (get? key further) := by
  induction entries with
  | nil => rfl
  | cons entry rest inductionHypothesis =>
      obtain ⟨present, value⟩ := entry
      by_cases same : present == key
      · simp [get?, same]
      · simpa [get?, same] using inductionHypothesis

/-- After a merge a key has the value it was given last. -/
theorem get?_merge
    [LawfulBEq κ]
    (key : κ)
    (entries further : Assoc κ υ) :
    get? key (merge entries further) = (get? key further.reverse).or (get? key entries) := by
  induction further generalizing entries with
  | nil => rfl
  | cons entry further inductionHypothesis =>
      obtain ⟨present, value⟩ := entry
      have onward :
          merge entries ((present, value) :: further) = merge (put present value entries) further :=
        rfl
      rw [onward, inductionHypothesis, List.reverse_cons, get?_append, Option.or_assoc, get?_put]
      congr 1
      by_cases same : present == key <;> simp [get?, same]

/-- A key is there exactly when it has a value. -/
theorem has_eq_isSome_get?
    (key : κ)
    (entries : Assoc κ υ) :
    has key entries = (get? key entries).isSome := by
  induction entries with
  | nil => rfl
  | cons entry rest inductionHypothesis =>
      obtain ⟨present, old⟩ := entry
      by_cases same : present == key
      · simp [has, get?, same]
      · simpa [has, get?, same] using inductionHypothesis

/-- Putting a key keeps the listing of the keys, and adds the key at the end if it is new. -/
theorem keys_put
    (key : κ)
    (value : υ)
    (entries : Assoc κ υ) :
    keys (put key value entries) =
      if has key entries then keys entries else keys entries ++ [key] := by
  induction entries with
  | nil => rfl
  | cons entry rest inductionHypothesis =>
      obtain ⟨present, old⟩ := entry
      by_cases same : present == key
      · simp [put, keys, has, same]
      · have later : has key ((present, old) :: rest) = has key rest := by simp [has, same]
        have kept :
            put key value ((present, old) :: rest) = (present, old) :: put key value rest := by
          simp [put, same]
        rw [later, kept]
        change present :: keys (put key value rest) = _
        rw [inductionHypothesis]
        cases has key rest <;> rfl

/-- A value is looked up as in any list of pairs. -/
theorem get?_eq_lookup
    [LawfulBEq κ]
    (key : κ)
    (entries : Assoc κ υ) :
    get? key entries = List.lookup key entries := by
  induction entries with
  | nil => rfl
  | cons entry rest inductionHypothesis =>
      obtain ⟨present, value⟩ := entry
      by_cases same : key = present
      · simp [get?, same]
      · have passed : (key == present) = false := by simpa using same
        simp [get?, List.lookup_cons, passed, Ne.symm same, inductionHypothesis]

/-- A key that has been taken out is not there. -/
theorem get?_erase_self
    (key : κ)
    (entries : Assoc κ υ) :
    get? key (erase key entries) = none := by
  induction entries with
  | nil => rfl
  | cons entry rest inductionHypothesis =>
      by_cases same : entry.1 == key <;> simp_all [erase, get?]

/-- Taking a key out leaves the values of all others as they are. -/
theorem get?_erase_of_ne
    [LawfulBEq κ]
    {key other : κ}
    (different : other ≠ key)
    (entries : Assoc κ υ) :
    get? other (erase key entries) = get? other entries := by
  induction entries with
  | nil => rfl
  | cons entry rest inductionHypothesis =>
      by_cases same : entry.1 == key
      · have passed : (entry.1 == other) = false := by
          rw [eq_of_beq same]
          simpa using Ne.symm different
        simpa [erase, get?, same, passed] using inductionHypothesis
      · by_cases found : entry.1 == other
        · simp [erase, get?, same, found]
        · simpa [erase, get?, same, found] using inductionHypothesis

/-- A key that is not there is put at the end. -/
theorem put_of_absent
    {key : κ}
    {entries : Assoc κ υ}
    (absent : ∀ entry ∈ entries, (entry.1 == key) = false)
    (value : υ) :
    put key value entries = entries ++ [(key, value)] := by
  induction entries with
  | nil => rfl
  | cons entry rest inductionHypothesis =>
      have different : (entry.1 == key) = false := absent entry (by simp)
      have later := inductionHypothesis fun other member => absent other (by simp [member])
      simp [put, different, later]

/-- Entries whose keys all differ are merged as they stand. -/
theorem merge_of_distinct
    {entries further : Assoc κ υ}
    (distinct : (entries ++ further).Pairwise fun first second => (first.1 == second.1) = false) :
    merge entries further = entries ++ further := by
  induction further generalizing entries with
  | nil => simp [merge]
  | cons entry further inductionHypothesis =>
      have absent : ∀ present ∈ entries, (present.1 == entry.1) = false := fun present member =>
        (List.pairwise_append.1 distinct).2.2 present member entry (by simp)
      have appended := put_of_absent absent entry.2
      have onward : merge entries (entry :: further) = merge (entries ++ [entry]) further := by
        rw [merge, List.foldl_cons, appended]
        rfl
      rw [onward, inductionHypothesis (by simpa using distinct)]
      simp

end Assoc
end RequestFlow
