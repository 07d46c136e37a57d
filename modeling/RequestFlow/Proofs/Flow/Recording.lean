import Mathlib.Data.List.Basic
import Mathlib.Data.List.Induction
import RequestFlow.Flow.Memory
import RequestFlow.Proofs.Assoc

/-!
# What a history of recordings leaves

Payloads are recorded one after another, under ids of nodes and keys that are texts. Afterwards each
node and key has the payload that came last, while nodes, and the keys of each node, are listed in
the order in which they came first. So the node that is listed last is the one that was new last,
which need not be the one that recorded last.
-/

namespace RequestFlow

/-! ## First occurrences -/

section FirstOccurrences

variable {α υ : Type} [BEq α] [LawfulBEq α] {history listed : List α} {item : α}

/-- What occurs in a history is listed, once each, in the order in which it occurred first. -/
structure FirstOccurrences (history listed : List α) : Prop where
  /-- What is listed is what occurs. -/
  mem_iff : ∀ item, item ∈ listed ↔ item ∈ history
  /-- What is listed first occurred first. -/
  ordered : listed.Pairwise fun first second => history.idxOf first < history.idxOf second

namespace FirstOccurrences

omit [LawfulBEq α] in
theorem nil : FirstOccurrences ([] : List α) [] :=
  ⟨fun _ => Iff.rfl, .nil⟩

omit [LawfulBEq α] in
theorem nodup
    (firsts : FirstOccurrences history listed) :
    listed.Nodup := by
  refine firsts.ordered.imp ?_
  rintro first _ before rfl
  exact Nat.lt_irrefl _ before

/-- What is listed keeps its order when the history goes on. -/
theorem ordered_append
    (firsts : FirstOccurrences history listed)
    (later : List α) :
    listed.Pairwise fun first second =>
      (history ++ later).idxOf first < (history ++ later).idxOf second := by
  refine firsts.ordered.imp_of_mem ?_
  intro first second firstListed secondListed before
  rwa [List.idxOf_append_of_mem ((firsts.mem_iff first).1 firstListed),
    List.idxOf_append_of_mem ((firsts.mem_iff second).1 secondListed)]

/-- What occurs again is not listed again. -/
theorem again
    (firsts : FirstOccurrences history listed)
    (known : item ∈ listed) :
    FirstOccurrences (history ++ [item]) listed where
  mem_iff other := by
    rw [firsts.mem_iff, List.mem_append, List.mem_singleton]
    refine ⟨.inl, ?_⟩
    rintro (before | rfl)
    · exact before
    · exact (firsts.mem_iff other).1 known
  ordered := firsts.ordered_append [item]

/-- What is new is listed at the end. -/
theorem fresh
    (firsts : FirstOccurrences history listed)
    (unknown : item ∉ listed) :
    FirstOccurrences (history ++ [item]) (listed ++ [item]) where
  mem_iff other := by
    rw [List.mem_append, List.mem_append, firsts.mem_iff]
  ordered := by
    refine List.pairwise_append.2 ⟨firsts.ordered_append [item], List.pairwise_singleton _ _, ?_⟩
    intro first firstListed second isItem
    rw [List.mem_singleton] at isItem
    subst isItem
    have occurs : first ∈ history := (firsts.mem_iff first).1 firstListed
    have absent : second ∉ history := fun before => unknown ((firsts.mem_iff second).2 before)
    rw [List.idxOf_append_of_mem occurs, List.idxOf_append_of_notMem absent]
    exact Nat.lt_add_right _ (List.idxOf_lt_length_of_mem occurs)

omit [LawfulBEq α] in
/-- What is listed last is what was new last. -/
theorem idxOf_le_last
    {last : α}
    (firsts : FirstOccurrences history (listed ++ [last]))
    {other : α}
    (occurs : other ∈ history) :
    history.idxOf other ≤ history.idxOf last := by
  have before := (List.pairwise_append.1 firsts.ordered).2.2
  rcases List.mem_append.1 ((firsts.mem_iff other).2 occurs) with earlier | isLast
  · exact Nat.le_of_lt (before other earlier last (List.mem_singleton_self last))
  · obtain rfl := List.mem_singleton.1 isLast
    exact Nat.le_refl _

/-- Keys that are put one after another are listed by their first occurrences. -/
theorem put
    {entries : Assoc α υ}
    (firsts : FirstOccurrences history entries.keys)
    (key : α)
    (value : υ) :
    FirstOccurrences (history ++ [key]) (entries.put key value).keys := by
  rw [Assoc.keys_put]
  split
  next there => exact firsts.again (Assoc.has_iff_mem_keys.1 there)
  next absent => exact firsts.fresh (mt Assoc.has_iff_mem_keys.2 absent)

end FirstOccurrences

end FirstOccurrences

/-! ## Keys that are texts -/

/-- Only a text is the same key as a text, and it is then that text. -/
theorem Key.beq_text_iff
    {key : Key}
    {content : String} :
    (key == .text content) = true ↔ key = .text content := by
  cases key <;> simp [BEq.beq, same, number?]

namespace Assoc

variable {υ : Type}

/-- A text is there exactly when it is listed. -/
theorem has_text_iff
    {entries : Assoc Key υ}
    {name : String} :
    entries.has (.text name) = true ↔ .text name ∈ entries.keys := by
  simp only [has, keys, List.any_eq_true, List.mem_map, Key.beq_text_iff]

/-- Putting a text leaves the values of all other texts as they are. -/
theorem get?_put_text_of_ne
    {name other : String}
    (different : other ≠ name)
    (value : υ)
    (entries : Assoc Key υ) :
    get? (.text other) (put (.text name) value entries) = get? (.text other) entries := by
  induction entries with
  | nil => simp [get?, Ne.symm different]
  | cons entry entries inductionHypothesis =>
      obtain ⟨present, old⟩ := entry
      by_cases same : present == .text name
      · obtain rfl := Key.beq_text_iff.1 same
        simp [put, get?, Ne.symm different]
      · simp [put, get?, same, inductionHypothesis]

end Assoc

/-! ## Histories -/

/-- A payload to be recorded for a node under a key. -/
structure Recording where
  /-- The node that it is for. -/
  node : String
  /-- The key of the outcome. -/
  key : String
  /-- The payload. -/
  payload : Value

namespace Memory

/-- Record one payload after another. -/
def recordAll
    (history : List Recording)
    (memory : Memory) : Memory :=
  history.foldl (fun memory recording =>
    memory.record recording.node (.text recording.key) recording.payload) memory

/-- The keys under which a node has recorded, one for each recording. -/
def keysOf
    (node : String)
    (history : List Recording) : List String :=
  (history.filter fun recording => recording.node = node).map (·.key)

/-- The payload that was the last to be recorded for a node under a key. -/
def latest?
    (node key : String)
    (history : List Recording) : Option Value :=
  (history.reverse.find? fun recording => recording.node = node ∧ recording.key = key).map
    (·.payload)

/-- The payloads of a node: its keys by their first occurrences, each with its latest payload. -/
structure Recounts
    (history : List Recording)
    (node : String)
    (fields : Fields) : Prop where
  /-- The keys are those of the node, in the order of their first occurrence. -/
  keys : ∃ names : List String,
    fields.keys = names.map .text ∧ FirstOccurrences (keysOf node history) names
  /-- Each key has the payload that was recorded last. -/
  payloads : ∀ key, fields.get? (.text key) = latest? node key history

variable {node key : String} {payload : Value} {memory : Memory} {fields : Fields}
  {history : List Recording}

theorem recordAll_append
    (history : List Recording)
    (recording : Recording)
    (memory : Memory) :
    recordAll (history ++ [recording]) memory =
      (recordAll history memory).record recording.node (.text recording.key) recording.payload := by
  rw [recordAll, List.foldl_append]
  rfl

theorem latest?_append
    (node key : String)
    (history : List Recording)
    (recording : Recording) :
    latest? node key (history ++ [recording]) =
      if recording.node = node ∧ recording.key = key then some recording.payload
      else latest? node key history := by
  unfold latest?
  rw [List.reverse_append, List.reverse_singleton, List.singleton_append, List.find?_cons]
  split <;> simp_all

/-- A payload was recorded last if it was recorded at all. -/
theorem isSome_latest?_iff :
    (latest? node key history).isSome ↔
      ∃ recording ∈ history, recording.node = node ∧ recording.key = key := by
  simp [latest?, List.find?_isSome]

/-- Before anything is recorded, no node has anything to recount. -/
theorem recounts_nil
    (node : String) :
    Recounts [] node [] where
  keys := ⟨[], rfl, .nil⟩
  payloads _ := rfl

/-- What other nodes record is not recounted. -/
theorem Recounts.other
    (recounts : Recounts history node fields)
    {recording : Recording}
    (other : recording.node ≠ node) :
    Recounts (history ++ [recording]) node fields where
  keys := by
    obtain ⟨names, keys_eq, firsts⟩ := recounts.keys
    refine ⟨names, keys_eq, ?_⟩
    simpa [keysOf, other] using firsts
  payloads key := by
    rw [latest?_append, if_neg fun same => other same.1]
    exact recounts.payloads key

/-- What the node itself records is put to the rest. -/
theorem Recounts.put
    (recounts : Recounts history node fields)
    (key : String)
    (payload : Value) :
    Recounts (history ++ [⟨node, key, payload⟩]) node (fields.put (.text key) payload) where
  keys := by
    obtain ⟨names, keys_eq, firsts⟩ := recounts.keys
    have listed : Key.text key ∈ fields.keys ↔ key ∈ names := by
      simp [keys_eq]
    have extended : keysOf node (history ++ [⟨node, key, payload⟩]) =
        keysOf node history ++ [key] := by
      simp [keysOf]
    rw [Assoc.keys_put, extended]
    split
    next there => exact ⟨names, keys_eq, firsts.again (listed.1 (Assoc.has_text_iff.1 there))⟩
    next absent =>
      refine ⟨names ++ [key], ?_, firsts.fresh fun known => ?_⟩
      · rw [keys_eq, List.map_append, List.map_singleton]
      · exact absent (Assoc.has_text_iff.2 (listed.2 known))
  payloads other := by
    rw [latest?_append]
    split
    next same =>
      obtain ⟨-, rfl⟩ := same
      exact Assoc.get?_put_of_beq (by simp) _ _
    next different =>
      have different : other ≠ key := fun same => different ⟨rfl, same.symm⟩
      rw [Assoc.get?_put_text_of_ne different]
      exact recounts.payloads other

/-- The memory lists the nodes of a history by their first recordings, and recounts each of them. -/
structure Recalls
    (history : List Recording)
    (memory : Memory) : Prop where
  /-- The nodes are those of the history, in the order of their first occurrence. -/
  nodes : FirstOccurrences (history.map (·.node)) memory.outputs.keys
  /-- Each node has what the history has of it. -/
  recounts : ∀ node, Recounts history node ((memory.outputsOf? node).getD [])

/-- Recording one more payload. -/
theorem Recalls.record
    (recalls : Recalls history memory)
    (recording : Recording) :
    Recalls (history ++ [recording])
      (memory.record recording.node (.text recording.key) recording.payload) where
  nodes := by
    rw [List.map_append, List.map_singleton]
    exact recalls.nodes.put _ _
  recounts node := by
    by_cases own : node = recording.node
    · subst own
      rw [outputsOf?, Memory.record, Assoc.get?_put_self]
      exact (recalls.recounts recording.node).put recording.key recording.payload
    · rw [outputsOf?, Memory.record, Assoc.get?_put_of_ne own]
      exact (recalls.recounts node).other (Ne.symm own)

theorem recalls_recordAll
    (bindings : Assoc String Value)
    (history : List Recording) :
    Recalls history (recordAll history { bindings }) := by
  induction history using List.reverseRecOn with
  | nil => exact ⟨.nil, recounts_nil⟩
  | append_singleton history recording inductionHypothesis =>
      rw [recordAll_append]
      exact inductionHypothesis.record recording

/-- A node has payloads exactly if it has recorded. -/
theorem Recalls.exists_outputsOf?
    (recalls : Recalls history memory)
    (recorded : node ∈ history.map (·.node)) :
    ∃ fields, memory.outputsOf? node = some fields ∧ Recounts history node fields := by
  have recounts := recalls.recounts node
  cases found : memory.outputsOf? node with
  | none => exact absurd ((recalls.nodes.mem_iff node).2 recorded) (Assoc.get?_eq_none_iff.1 found)
  | some fields =>
      rw [found] at recounts
      exact ⟨fields, rfl, recounts⟩

theorem Recalls.output?_eq
    (recalls : Recalls history memory)
    (node key : String) :
    memory.output? node (.text key) = latest? node key history := by
  rw [← (recalls.recounts node).payloads key]
  unfold output? outputsOf?
  cases memory.outputs.get? node <;> rfl

/-- The payloads that are listed last are those of the node that was new last. -/
theorem Recalls.exists_lastOutputs?
    (recalls : Recalls history memory)
    (some_recording : history ≠ []) :
    ∃ node ∈ history.map (·.node),
      (∀ other ∈ history.map (·.node),
        (history.map (·.node)).idxOf other ≤ (history.map (·.node)).idxOf node) ∧
      memory.lastOutputs? = memory.outputsOf? node := by
  have nodes := recalls.nodes
  unfold lastOutputs? outputsOf?
  rcases List.eq_nil_or_concat memory.outputs with none_listed | ⟨earlier, ⟨node, fields⟩, split⟩
  · obtain ⟨recording, others, rfl⟩ := List.exists_cons_of_ne_nil some_recording
    have listed := (nodes.mem_iff recording.node).2 (by simp)
    simp [none_listed, Assoc.keys] at listed
  · have member : (node, fields) ∈ memory.outputs := by
      simp [split]
    have found := (Assoc.get?_eq_some_iff nodes.nodup).2 member
    have keys_eq : memory.outputs.keys = Assoc.keys earlier ++ [node] := by
      simp [split, Assoc.keys]
    refine ⟨node, (nodes.mem_iff node).1 (List.mem_map_of_mem member), fun other occurs => ?_, ?_⟩
    · rw [keys_eq] at nodes
      exact nodes.idxOf_le_last occurs
    · rw [found, split]
      simp

/-- After any recordings each node and key has the payload that came last, and has one exactly if
one was recorded, whatever it is. Nodes are listed by their first recordings, and so are the keys of
each node, with the latest payloads. The payloads that are listed last are all those of the node
whose first recording came latest; without recordings there are none. -/
theorem outputs_of_history
    (bindings : Assoc String Value)
    (history : List Recording) :
    let memory := recordAll history { bindings }
    let nodes := history.map (·.node)
    (∀ node key, memory.output? node (.text key) = latest? node key history) ∧
    (∀ node key, (memory.output? node (.text key)).isSome ↔
      ∃ recording ∈ history, recording.node = node ∧ recording.key = key) ∧
    FirstOccurrences nodes memory.outputs.keys ∧
    (∀ node ∈ nodes, ∃ fields, memory.outputsOf? node = some fields ∧
      Recounts history node fields) ∧
    (history = [] → memory.lastOutputs? = none) ∧
    (history ≠ [] → ∃ node ∈ nodes,
      (∀ other ∈ nodes, nodes.idxOf other ≤ nodes.idxOf node) ∧
      memory.lastOutputs? = memory.outputsOf? node) := by
  intro memory nodes
  have recalls : Recalls history memory := recalls_recordAll bindings history
  refine ⟨recalls.output?_eq, fun node key => ?_, recalls.nodes,
    fun _ => recalls.exists_outputsOf?, ?_, recalls.exists_lastOutputs?⟩
  · rw [recalls.output?_eq]
    exact isSome_latest?_iff
  · rintro rfl
    rfl

/-- Recording again changes a payload and no place, so the node that was new last stays last. -/
example :
    (recordAll [⟨"a", "out", .int 1⟩, ⟨"b", "out", .null⟩, ⟨"a", "out", .int 2⟩] {}).outputs =
      [("a", [(.text "out", .int 2)]), ("b", [(.text "out", .null)])] := rfl

end Memory
end RequestFlow
