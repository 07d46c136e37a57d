import RequestFlow.Nodes.Loop
import RequestFlow.Nodes.Respond
import RequestFlow.Proofs.Json.RoundTrip
import RequestFlow.Proofs.Template.Reference
import RequestFlow.Template.Resolve

/-!
# Lists and objects through references

A list or an object that is put in place of a reference is written as compact JSON. A node whose
configuration is just this reference gets the text, and reads the same value from it: a response
node as its body, and a loop node as its items.
-/

namespace RequestFlow
namespace Template

/-- A text that is one reference is replaced by the text of what the reference reaches. -/
theorem resolve_source
    {reference : Reference}
    (proper : reference.IsProper)
    {memory : Memory}
    {value : Value}
    (reached : lookup memory reference = .ok (some value))
    {content : String}
    (spliced : value.spliced = .ok content) :
    resolve memory (.text (String.ofList reference.source)) = .ok (.text content) := by
  have piece : resolvePiece memory (.reference reference) = .ok content.toList := by
    simp [resolvePiece, reached, spliced, Except.map]
  rw [resolve, resolveText, String.toList_ofList, pieces_source proper]
  simp [resolvePieces, piece, Except.map]

/-- A list or an object is put into a text as compact JSON. -/
theorem spliced_of_composite
    {value : Value}
    (composite : value.kind = .list ∨ value.kind = .object) :
    value.spliced = Json.write Json.compact value := by
  cases value <;> simp_all [Value.kind, Value.spliced]

end Template

namespace Nodes

/-- A written list or object begins like one. -/
theorem opensComposite_write
    {style : Json.Style}
    {value : Value}
    (composite : value.kind = .list ∨ value.kind = .object)
    {content : String}
    (written : Json.write style value = .ok content) :
    opensComposite content = true := by
  have rendered : content.toList = Json.render style value := by
    unfold Json.write at written
    split at written
    · cases written
    · cases written
      exact String.toList_ofList
  rw [opensComposite, rendered]
  cases value with
  | list items => cases items <;> rfl
  | object fields => cases fields <;> rfl
  | _ => simp [Value.kind] at composite

/-- The JSON of a list or an object is the body that it stands for. -/
theorem decodeBody_of_embedded
    {content : String}
    {value : Value}
    (opens : opensComposite content = true)
    (embedded : Json.embedded? content = .ok (some value)) :
    decodeBody (.text content) = .ok value := by
  rw [decodeBody, if_pos opens, embedded]

/-- The JSON of a value has the items of that value. -/
theorem loopItems_of_embedded
    {content : String}
    {value : Value}
    (embedded : Json.embedded? content = .ok (some value)) :
    loopItems (.text content) = .ok (itemsOf value) := by
  rw [loopItems, embedded]

/-- The items of a list or an object are its own. -/
theorem loopItems_of_composite
    {value : Value}
    (composite : value.kind = .list ∨ value.kind = .object) :
    loopItems value = .ok (itemsOf value) := by
  cases value <;> simp_all [Value.kind, loopItems]

end Nodes

namespace Template

/-- A list or an object that a reference reaches is recovered from the text that the reference
resolves to: whole as the body of a response, and item by item as what a loop goes through. -/
theorem recovered_of_reached
    {reference : Reference}
    (proper : reference.IsProper)
    {memory : Memory}
    {value : Value}
    (data : Json.IsData value)
    (composite : value.kind = .list ∨ value.kind = .object)
    (reached : lookup memory reference = .ok (some value)) :
    ∃ content,
      resolve memory (.text (String.ofList reference.source)) = .ok (.text content) ∧
      Nodes.decodeBody (.text content) = .ok value ∧
      Nodes.loopItems (.text content) = Nodes.loopItems value ∧
      Nodes.loopItems value = .ok (Nodes.itemsOf value) := by
  obtain ⟨content, written, embedded⟩ := Json.write_embedded Json.compact_isBlank data
  have spliced : value.spliced = .ok content := (spliced_of_composite composite).trans written
  have opens := Nodes.opensComposite_write composite written
  have own := Nodes.loopItems_of_composite composite
  refine ⟨content, resolve_source proper reached spliced,
    Nodes.decodeBody_of_embedded opens embedded, ?_, own⟩
  rw [own]
  exact Nodes.loopItems_of_embedded embedded

namespace Sample

/-- An object with a quote, a backslash, a control character and characters beyond ASCII in its
texts, a negative number, and empty parts. -/
def order : Value :=
  .record [("note", .text "\"fresh\"\\ \n\x01 café 😀"),
    ("lines", .list [.int (-120), .null, .bool true, .list [], .record []])]

/-- The object under a key of what the node `cart` recorded for `out`. -/
def basket : Memory :=
  Memory.empty.record "cart" (.text "out") (.record [("order", order)])

/-- `cart.out.order` -/
def toOrder : Reference where
  node := "cart".toList
  key := "out".toList
  path := ["order".toList]

end Sample

/-- An object with every sort of difficulty is recovered. -/
theorem recovered_order :
    ∃ content,
      resolve Sample.basket (.text (String.ofList Sample.toOrder.source)) = .ok (.text content) ∧
      Nodes.decodeBody (.text content) = .ok Sample.order ∧
      Nodes.loopItems (.text content) = Nodes.loopItems Sample.order ∧
      Nodes.loopItems Sample.order = .ok (Nodes.itemsOf Sample.order) := by
  have lines : Json.IsData (.list [.int (-120), .null, .bool true, .list [], .record []]) := by
    refine .list _ ?_
    rintro item member
    simp only [List.mem_cons, List.not_mem_nil, or_false] at member
    rcases member with rfl | rfl | rfl | rfl | rfl
    · exact .int _ (by decide)
    · exact .null
    · exact .bool true
    · exact .list [] (by simp)
    · exact .record [] (by simp) (by simp)
  have data : Json.IsData Sample.order := by
    refine .record _ (by decide) ?_
    rintro field member
    simp only [List.mem_cons, List.not_mem_nil, or_false] at member
    rcases member with rfl | rfl
    · exact .text _
    · exact lines
  have reached : lookup Sample.basket Sample.toOrder = .ok (some Sample.order) := by
    rfl
  exact recovered_of_reached (by decide) data (Or.inr rfl) reached

end Template
end RequestFlow
