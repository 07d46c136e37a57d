import Mathlib.Data.Set.Insert
import RequestFlow.Flow.Memory
import RequestFlow.Proofs.Assoc

/-!
# Memories that only grow

Setting a variable and recording a payload may change values, but what is listed stays listed in its
place, and what is new comes after it. Nothing is taken out of a memory, and only the node that
records has its payloads changed.
-/

namespace RequestFlow
namespace Memory

/-- What one memory lists, another lists first and in the same order: its variables, its nodes, and
the keys of each node. Of no nodes but the given ones have payloads been added or changed. -/
structure Grows
    (ids : Set String)
    (before after : Memory) : Prop where
  /-- Variables keep their order, and new ones follow. -/
  bindings : before.bindings.keys <+: after.bindings.keys
  /-- Nodes keep their order, and new ones follow. -/
  nodes : before.outputs.keys <+: after.outputs.keys
  /-- The keys of each node keep their order, and new ones follow. -/
  keys : ∀ node recorded, before.outputsOf? node = some recorded →
    ∃ further, after.outputsOf? node = some further ∧ recorded.keys <+: further.keys
  /-- Only nodes of these ids have different payloads. -/
  written : ∀ node, after.outputsOf? node ≠ before.outputsOf? node → node ∈ ids

variable {ids : Set String} {before after final memory : Memory}

/-- A memory grows as long as its listing of variables does, if its payloads are left alone. -/
theorem grows_of_outputs_eq
    (bindings : before.bindings.keys <+: after.bindings.keys)
    (same : after.outputs = before.outputs) :
    before.Grows ids after where
  bindings := bindings
  nodes := by
    have keys_eq : after.outputs.keys = before.outputs.keys := congrArg Assoc.keys same
    exact keys_eq ▸ List.prefix_refl _
  keys node recorded listed := by
    refine ⟨recorded, ?_, List.prefix_refl _⟩
    rwa [outputsOf?, same]
  written node changed := by
    rw [outputsOf?, outputsOf?, same] at changed
    exact absurd rfl changed

theorem Grows.refl (memory : Memory) : memory.Grows ids memory :=
  grows_of_outputs_eq (List.prefix_refl _) rfl

theorem Grows.trans
    (first : before.Grows ids after)
    (second : after.Grows ids final) :
    before.Grows ids final where
  bindings := first.bindings.trans second.bindings
  nodes := first.nodes.trans second.nodes
  keys node recorded listed := by
    obtain ⟨further, listed_after, grown⟩ := first.keys node recorded listed
    obtain ⟨last, listed_last, grown_again⟩ := second.keys node further listed_after
    exact ⟨last, listed_last, grown.trans grown_again⟩
  written node changed := by
    by_cases unchanged : after.outputsOf? node = before.outputsOf? node
    · apply second.written node
      rwa [unchanged]
    · exact first.written node unchanged

theorem grows_setVariable
    (name : String)
    (value : Value)
    (memory : Memory) :
    memory.Grows ids (memory.setVariable name value) :=
  grows_of_outputs_eq (Assoc.keys_prefix_put name value memory.bindings) rfl

theorem grows_record
    {node : String}
    (inside : node ∈ ids)
    (key : Key)
    (payload : Value)
    (memory : Memory) :
    memory.Grows ids (memory.record node key payload) where
  bindings := List.prefix_refl _
  nodes := Assoc.keys_prefix_put _ _ _
  keys other recorded listed := by
    by_cases same : other = node
    · subst same
      refine ⟨recorded.put key payload, ?_, Assoc.keys_prefix_put key payload recorded⟩
      rw [outputsOf?, record, Assoc.get?_put_self]
      rw [outputsOf?] at listed
      rw [listed, Option.getD_some]
    · refine ⟨recorded, ?_, List.prefix_refl _⟩
      rw [outputsOf?, record, Assoc.get?_put_of_ne same]
      exact listed
  written other changed := by
    by_cases same : other = node
    · rwa [same]
    · rw [outputsOf?, outputsOf?, record, Assoc.get?_put_of_ne same] at changed
      exact absurd rfl changed

end Memory
end RequestFlow
