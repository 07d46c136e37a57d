import RequestFlow.Assoc

/-!
# What associations list

A value that is found is listed, and what is listed after a value was put is that value or was
listed before. Looking up and putting do not see what the values are.
-/

namespace RequestFlow
namespace Assoc

variable {κ υ ρ : Type} [BEq κ] {key : κ} {value : υ} {entries : Assoc κ υ}

/-- The value of a key is listed, under a key that counts as the same. -/
theorem exists_mem_of_get?
    (found : entries.get? key = some value) :
    ∃ present, (present, value) ∈ entries := by
  induction entries with
  | nil => cases found
  | cons entry rest inductionHypothesis =>
      obtain ⟨present, first⟩ := entry
      by_cases same : present == key
      · rw [get?, if_pos same] at found
        cases found
        exact ⟨present, List.mem_cons_self⟩
      · rw [get?, if_neg same] at found
        obtain ⟨later, member⟩ := inductionHypothesis found
        exact ⟨later, List.mem_cons_of_mem _ member⟩

/-- What holds of all values holds of the one that is found. -/
theorem of_get?
    (holds : υ → Prop)
    (each : ∀ entry ∈ entries, holds entry.2)
    (found : entries.get? key = some value) :
    holds value := by
  obtain ⟨present, member⟩ := exists_mem_of_get? found
  exact each (present, value) member

/-- What holds of all values, and of the one that stands in for a missing one, holds of what a
look-up gives. -/
theorem of_getD
    (holds : υ → Prop)
    (each : ∀ entry ∈ entries, holds entry.2)
    {otherwise : υ}
    (default : holds otherwise)
    (key : κ) :
    holds ((entries.get? key).getD otherwise) := by
  cases found : entries.get? key with
  | none => exact default
  | some value => exact of_get? holds each found

/-- What is listed after a value has been put has that value, under the given key or one that was
listed before, or was listed before. -/
theorem mem_put
    {entry : κ × υ}
    (member : entry ∈ put key value entries) :
    entry.2 = value ∧ (entry.1 = key ∨ entry.1 ∈ entries.keys) ∨ entry ∈ entries := by
  induction entries with
  | nil =>
      rw [put_nil, List.mem_singleton] at member
      subst member
      exact .inl ⟨rfl, .inl rfl⟩
  | cons first rest inductionHypothesis =>
      obtain ⟨present, old⟩ := first
      by_cases same : present == key
      · rw [put, if_pos same, List.mem_cons] at member
        rcases member with rfl | member
        · exact .inl ⟨rfl, .inr List.mem_cons_self⟩
        · exact .inr (List.mem_cons_of_mem _ member)
      · rw [put, if_neg same, List.mem_cons] at member
        rcases member with rfl | member
        · exact .inr List.mem_cons_self
        · rcases inductionHypothesis member with ⟨given, named | listed⟩ | before
          · exact .inl ⟨given, .inl named⟩
          · exact .inl ⟨given, .inr (List.mem_cons_of_mem _ listed)⟩
          · exact .inr (List.mem_cons_of_mem _ before)

/-- What holds of all values and of the one that is put holds of all afterwards. -/
theorem forall_mem_put
    (holds : υ → Prop)
    (each : ∀ entry ∈ entries, holds entry.2)
    (given : holds value)
    (key : κ) :
    ∀ entry ∈ put key value entries, holds entry.2 := by
  intro entry member
  rcases mem_put member with ⟨same, -⟩ | before
  · rwa [same]
  · exact each entry before

/-- What holds of all values of two associations holds of all when one is merged into the other. -/
theorem forall_mem_merge
    (holds : υ → Prop)
    {further : Assoc κ υ}
    (each : ∀ entry ∈ entries, holds entry.2)
    (given : ∀ entry ∈ further, holds entry.2) :
    ∀ entry ∈ merge entries further, holds entry.2 := by
  unfold merge
  induction further generalizing entries with
  | nil => exact each
  | cons entry further inductionHypothesis =>
      rw [List.forall_mem_cons] at given
      exact inductionHypothesis (forall_mem_put holds each given.1 entry.1) given.2

/-- Putting a value adds its key at the end, or adds none. -/
theorem keys_prefix_put
    (key : κ)
    (value : υ)
    (entries : Assoc κ υ) :
    entries.keys <+: (put key value entries).keys := by
  rw [keys_put]
  split
  · exact List.prefix_refl _
  · exact List.prefix_append _ _

/-- A key that is there stays there when another is put. -/
theorem has_put
    {other : κ}
    (key : κ)
    (value : υ)
    (there : entries.has other = true) :
    (put key value entries).has other = true := by
  obtain ⟨entry, member, same⟩ := List.any_eq_true.1 there
  obtain ⟨further, keys_put⟩ := keys_prefix_put key value entries
  have listed : entry.1 ∈ (put key value entries).keys := by
    rw [← keys_put]
    exact List.mem_append_left _ (List.mem_map_of_mem member)
  obtain ⟨kept, member, key_eq⟩ := List.mem_map.1 listed
  refine List.any_eq_true.2 ⟨kept, member, ?_⟩
  rwa [key_eq]

theorem has_put_self
    [LawfulBEq κ]
    (key : κ)
    (value : υ)
    (entries : Assoc κ υ) :
    (put key value entries).has key = true := by
  rw [has_eq_isSome_get?, get?_put_self]
  rfl

/-- Of two values that are put under one key the later one counts. -/
theorem put_put
    [LawfulBEq κ]
    (key : κ)
    (value other : υ)
    (entries : Assoc κ υ) :
    put key value (put key other entries) = put key value entries := by
  induction entries with
  | nil => simp [put]
  | cons entry rest inductionHypothesis =>
      obtain ⟨present, old⟩ := entry
      by_cases same : present == key
      · simp [put, same]
      · simp [put, same, inductionHypothesis]

/-- Putting the value that a key has changes nothing. -/
theorem put_of_get?
    (found : entries.get? key = some value) :
    put key value entries = entries := by
  induction entries with
  | nil => cases found
  | cons entry rest inductionHypothesis =>
      obtain ⟨present, old⟩ := entry
      by_cases same : present == key
      · rw [get?, if_pos same] at found
        cases found
        rw [put, if_pos same]
      · rw [get?, if_neg same] at found
        rw [put, if_neg same, inductionHypothesis found]

/-- A key is there exactly when it is listed. -/
theorem has_iff_mem_keys [LawfulBEq κ] :
    entries.has key = true ↔ key ∈ entries.keys := by
  simp [has, keys]

theorem get?_eq_none_iff [LawfulBEq κ] :
    entries.get? key = none ↔ key ∉ entries.keys := by
  rw [← has_iff_mem_keys, has_eq_isSome_get?]
  simp

/-- A key that is listed once has the value that it is listed with. -/
theorem get?_eq_some_iff
    [LawfulBEq κ]
    (distinct : entries.keys.Nodup) :
    entries.get? key = some value ↔ (key, value) ∈ entries := by
  induction entries with
  | nil => exact ⟨nofun, nofun⟩
  | cons entry rest inductionHypothesis =>
      obtain ⟨present, first⟩ := entry
      obtain ⟨unlisted, others⟩ := List.nodup_cons.1 distinct
      rw [List.mem_cons, ← inductionHypothesis others]
      by_cases same : present = key
      · subst same
        have absent : get? present rest = none := get?_eq_none_iff.2 unlisted
        simp [get?, absent, eq_comm]
      · simp [get?, same, Ne.symm same]

/-- A key that is not listed is put at the end. -/
theorem put_of_not_mem_keys
    [LawfulBEq κ]
    (absent : key ∉ entries.keys)
    (value : υ) :
    put key value entries = entries ++ [(key, value)] := by
  apply put_of_absent
  intro entry member
  apply beq_eq_false_iff_ne.2
  rintro rfl
  exact absent (List.mem_map_of_mem member)

/-- Which keys are listed after one has been put is decided by those that were listed before. -/
theorem keys_put_congr
    [LawfulBEq κ]
    {others : Assoc κ ρ}
    (same : entries.keys = others.keys)
    (key : κ)
    (value : υ)
    (other : ρ) :
    (put key value entries).keys = (put key other others).keys := by
  have there : entries.has key = others.has key := by
    rw [Bool.eq_iff_iff, has_iff_mem_keys, has_iff_mem_keys, same]
  rw [keys_put, keys_put, there, same]

/-- Keys that differ still do when one is put. -/
theorem nodup_keys_put
    [LawfulBEq κ]
    (distinct : entries.keys.Nodup)
    (key : κ)
    (value : υ) :
    (put key value entries).keys.Nodup := by
  rw [keys_put]
  split
  · exact distinct
  next absent =>
    have unlisted : key ∉ entries.keys := by
      rwa [← has_iff_mem_keys]
    rw [List.nodup_append]
    refine ⟨distinct, by simp, ?_⟩
    intro listed member other isKey same
    rw [List.mem_singleton] at isKey
    subst isKey
    subst same
    exact unlisted member

/-- Keys that differ still do when further entries are put. -/
theorem nodup_keys_merge
    [LawfulBEq κ]
    (distinct : entries.keys.Nodup)
    (further : Assoc κ υ) :
    (merge entries further).keys.Nodup := by
  unfold merge
  induction further generalizing entries with
  | nil => exact distinct
  | cons entry further inductionHypothesis =>
      exact inductionHypothesis (nodup_keys_put distinct entry.1 entry.2)

/-- Of two entries for a key the further one counts. -/
theorem get?_merge_of_nodup
    [LawfulBEq κ]
    {further : Assoc κ υ}
    (distinct : further.keys.Nodup)
    (key : κ)
    (entries : Assoc κ υ) :
    get? key (merge entries further) = (get? key further).or (get? key entries) := by
  have distinctToo : (keys further.reverse).Nodup := by
    rw [keys, List.map_reverse]
    exact (List.reverse_perm _).nodup_iff.2 distinct
  have either : get? key further.reverse = get? key further := by
    ext value
    rw [get?_eq_some_iff distinctToo, get?_eq_some_iff distinct, List.mem_reverse]
  rw [get?_merge, either]

/-- Changing every value changes the one that is found. -/
theorem get?_map
    (change : υ → ρ)
    (key : κ)
    (entries : Assoc κ υ) :
    get? key (entries.map fun entry => (entry.1, change entry.2)) =
      (get? key entries).map change := by
  induction entries with
  | nil => rfl
  | cons entry rest inductionHypothesis =>
      obtain ⟨present, value⟩ := entry
      by_cases same : present == key
      · simp [get?, same]
      · simpa [get?, same] using inductionHypothesis

/-- Changing every value commutes with putting one. -/
theorem put_map
    (change : υ → ρ)
    (key : κ)
    (value : υ)
    (entries : Assoc κ υ) :
    put key (change value) (entries.map fun entry => (entry.1, change entry.2)) =
      (put key value entries).map fun entry => (entry.1, change entry.2) := by
  induction entries with
  | nil => rfl
  | cons entry rest inductionHypothesis =>
      obtain ⟨present, old⟩ := entry
      by_cases same : present == key
      · simp [put, same]
      · simpa [put, same] using inductionHypothesis

/-- Changing every value commutes with taking a key out. -/
theorem erase_map
    (change : υ → ρ)
    (key : κ)
    (entries : Assoc κ υ) :
    erase key (entries.map fun entry => (entry.1, change entry.2)) =
      (erase key entries).map fun entry => (entry.1, change entry.2) := by
  rw [erase, erase, List.filter_map]
  rfl

/-- Two keys can be taken out in either order. -/
theorem erase_comm
    (key other : κ)
    (entries : Assoc κ υ) :
    erase key (erase other entries) = erase other (erase key entries) := by
  rw [erase, erase, erase, erase, List.filter_filter, List.filter_filter]
  simp only [Bool.and_comm]

/-! ## Associations made from a list of keys -/

omit [BEq κ] in
/-- The keys that have a value are listed in their order. -/
theorem keys_filterMap
    (value? : κ → Option υ)
    (listed : List κ) :
    keys (listed.filterMap fun key => (value? key).map fun value => (key, value)) =
      listed.filter fun key => (value? key).isSome := by
  unfold keys
  induction listed with
  | nil => rfl
  | cons first rest inductionHypothesis =>
      cases found : value? first with
      | none => simpa [found] using inductionHypothesis
      | some value => simpa [found] using inductionHypothesis

/-- A key of the list has the value that was found for it, and any other key has none. -/
theorem get?_filterMap
    [LawfulBEq κ]
    (value? : κ → Option υ)
    (listed : List κ)
    (key : κ) :
    get? key (listed.filterMap fun key => (value? key).map fun value => (key, value)) =
      if key ∈ listed then value? key else none := by
  induction listed with
  | nil => rfl
  | cons first rest inductionHypothesis =>
      by_cases same : first = key
      · subst same
        cases found : value? first with
        | none => simp [found, inductionHypothesis]
        | some value => simp [found, get?]
      · have other : key ≠ first := Ne.symm same
        cases found : value? first with
        | none => simp [found, inductionHypothesis, other]
        | some value => simp [found, get?, same, inductionHypothesis, other]

/-- Putting a value adds at most that value to those of a sort. -/
theorem countP_put_le
    (counts : υ → Bool)
    (key : κ)
    (value : υ)
    (entries : Assoc κ υ) :
    (put key value entries).countP (fun entry => counts entry.2) ≤
      entries.countP (fun entry => counts entry.2) + if counts value then 1 else 0 := by
  induction entries with
  | nil => simp [List.countP_cons]
  | cons entry rest inductionHypothesis =>
      obtain ⟨present, old⟩ := entry
      by_cases same : present == key
      · rw [put, if_pos same, List.countP_cons, List.countP_cons]
        exact Nat.add_le_add_right (Nat.le_add_right _ _) _
      · rw [put, if_neg same, List.countP_cons, List.countP_cons]
        omega

/-- Taking a key out takes the value out that was found under it. -/
theorem countP_erase_add_le
    (counts : υ → Bool)
    (found : entries.get? key = some value) :
    (erase key entries).countP (fun entry => counts entry.2) + (if counts value then 1 else 0) ≤
      entries.countP fun entry => counts entry.2 := by
  induction entries with
  | nil => cases found
  | cons entry rest inductionHypothesis =>
      obtain ⟨present, first⟩ := entry
      by_cases same : present == key
      · rw [get?, if_pos same] at found
        cases found
        have fewer : (erase key rest).countP (fun entry => counts entry.2) ≤
            rest.countP fun entry => counts entry.2 :=
          List.filter_sublist.countP_le
        rw [erase, List.filter_cons_of_neg (by simp [same]), List.countP_cons]
        exact Nat.add_le_add_right fewer _
      · rw [get?, if_neg same] at found
        have onward := inductionHypothesis found
        rw [erase, List.filter_cons_of_pos (by simp [same]), List.countP_cons, List.countP_cons]
        rw [erase] at onward
        omega

end Assoc
end RequestFlow
