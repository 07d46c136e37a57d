import RequestFlow.Graph.Basic
import RequestFlow.Fault

/-!
# Reading a flow document

A document holds a graph under `flows` or at its root. Every part of the wrong sort is reported with
the path that leads to it, in the order of the fields, and a document with such parts is refused, as
is one in which two nodes share an id.
-/

namespace RequestFlow

/-- A part of a document, or everything that is wrong with it. -/
abbrev Checked (α : Type) := Except (List Problem) α

namespace Checked

/-- Two parts side by side; the problems of both are reported. -/
def both {α β : Type} : Checked α → Checked β → Checked (α × β)
  | .ok first, .ok second => .ok (first, second)
  | .ok _, .error problems => .error problems
  | .error problems, .ok _ => .error problems
  | .error first, .error second => .error (first ++ second)

/-- Parts one after another; the problems of all are reported. -/
def all {α β : Type} (check : α → Checked β) : List α → Checked (List β)
  | [] => .ok []
  | item :: rest =>
    match both (check item) (all check rest) with
    | .ok (first, others) => .ok (first :: others)
    | .error problems => .error problems

/-- Parts with their positions. -/
def allAt {α β : Type} (check : Nat → α → Checked β) (items : List α) : Checked (List β) :=
  all (fun entry => check entry.2 entry.1) items.zipIdx

/-- A part that is refused for one reason. -/
def refuse {α : Type} (path : List PathStep) (cause : ProblemCause) : Checked α :=
  .error [⟨path, cause⟩]

end Checked

namespace Document

open Checked

/-- The step to the value of a key. -/
def keyStep : Key → PathStep
  | .text name => .field name
  | .int number => .index number
  | .bool flag => .index (if flag then 1 else 0)
  | key => .field (String.ofList key.written)

/-- A value that has to be a text. -/
def checkText (path : List PathStep) : Value → Checked String
  | .text content => .ok content
  | _ => refuse path .notText

/-- A value that has to be a text or null. -/
def checkOptionalText (path : List PathStep) : Value → Checked (Option String)
  | .null => .ok none
  | value => (checkText path value).map some

/-- Fields whose keys have to be texts. -/
def checkNamed {α : Type} (path : List PathStep) (check : List PathStep → Value → Checked α)
    (fields : Fields) : Checked (Assoc String α) :=
  all (fun field =>
    let here := path ++ [keyStep field.1]
    let name := match field.1 with
      | .text name => Except.ok name
      | _ => refuse (here ++ [.field "[key]"]) .notText
    both name (check here field.2)) fields

/-- A value that has to be an object with texts for keys. -/
def checkObject {α : Type} (path : List PathStep) (check : List PathStep → Value → Checked α) :
    Value → Checked (Assoc String α)
  | .object fields => checkNamed path check fields
  | _ => refuse path .notObject

/-- The fields of an object that are not among the given ones, all of which need texts for keys. -/
def checkExtras (path : List PathStep) (declared : List String) (fields : Fields) :
    Checked (Assoc String Value) :=
  all (fun field =>
    match field.1 with
    | .text name => .ok (name, field.2)
    | key => refuse (path ++ [keyStep key]) .keyNotText)
    (fields.filter fun field => match field.1 with
      | .text name => !declared.contains name
      | _ => true)

/-- Null and the empty list stand for an object without fields. -/
def emptyAsObject : Value → Value
  | .null => .object []
  | .list [] => .object []
  | value => value

/-- An outgoing edge. Its target may be given under either of two names. -/
def checkEdge (path : List PathStep) : Value → Checked Edge
  | .object fields =>
    let name := if Assoc.has (.text "toNodeId") fields then "toNodeId" else "to_node_id"
    (both (checkOptionalText (path ++ [.field name]) (Fields.get name fields))
      (checkExtras path [name] fields)).map fun (target, extras) => ⟨target, extras⟩
  | _ => refuse path (.notRecord "OutputSpec")

/-- An outgoing edge, or null for an output without one. -/
def checkOutput (path : List PathStep) : Value → Checked (Option Edge)
  | .null => .ok none
  | value => (checkEdge path value).map some

/-- A field that has to be there. -/
def checkRequired {α : Type} (path : List PathStep) (name : String)
    (check : List PathStep → Value → Checked α) (fields : Fields) : Checked α :=
  match fields.get? (.text name) with
  | none => refuse (path ++ [.field name]) .missing
  | some value => check (path ++ [.field name]) value

/-- A field with a default. -/
def checkDefault {α : Type} (path : List PathStep) (name : String) (default : α)
    (check : List PathStep → Value → Checked α) (fields : Fields) : Checked α :=
  match fields.get? (.text name) with
  | none => .ok default
  | some value => check (path ++ [.field name]) value

/-- A node. -/
def checkNode (path : List PathStep) : Value → Checked Node
  | .object fields =>
    let id := checkRequired path "id" checkText fields
    let declaredType := checkDefault path "type" none checkOptionalText fields
    let data := checkDefault path "data" [] (fun here value =>
      checkObject here (fun _ part => .ok part) (emptyAsObject value)) fields
    let outputs := checkDefault path "outputs" [] (fun here value =>
      checkObject here checkOutput (emptyAsObject value)) fields
    let extras := checkExtras path ["id", "type", "data", "outputs"] fields
    (both id (both declaredType (both data (both outputs extras)))).map
      fun (id, declaredType, data, outputs, _) => ⟨id, declaredType, Fields.named data, outputs⟩
  | _ => refuse path (.notRecord "NodeSpec")

/-- The fields of an endpoint, with the path taken from `url` if none is given. -/
def pathFromUrl (fields : Fields) : Fields :=
  if (fields.get "path").isNull && (fields.get "url").isTruthy then
    fields.put (.text "path") (fields.get "url")
  else fields

/-- An endpoint. -/
def checkEndpoint (path : List PathStep) : Value → Checked Endpoint
  | .object given =>
    let fields := pathFromUrl given
    let id := checkDefault path "id" none checkOptionalText fields
    let method := checkDefault path "method" "GET" checkText fields
    let declaredPath := checkDefault path "path" none checkOptionalText fields
    let extras := checkExtras path ["id", "method", "path"] fields
    (both id (both method (both declaredPath extras))).map
      fun (id, method, declaredPath, extras) => ⟨id, method, declaredPath, extras⟩
  | _ => refuse path (.notRecord "EndpointSpec")

/-- A value that has to be a list. -/
def checkList {α : Type} (path : List PathStep) (check : List PathStep → Value → Checked α) :
    Value → Checked (List α)
  | .list items | .tuple items =>
    allAt (fun position item => check (path ++ [.index position]) item) items
  | _ => refuse path .notList

/-- The part of a document that holds the graph. -/
def section? (document : Fields) : Fields :=
  match document.get "flows" with
  | .object flows => flows
  | _ => document

/-- The endpoints of a document: those of the part with the graph, else those at the root. -/
def declaredEndpoints (document : Fields) : Value :=
  match ((section? document).get "endpoints").nonNull? with
  | some endpoints => endpoints
  | none => document.get "endpoints"

/-- The parts of a graph, each checked by itself. -/
def checkGraph (controller : String) (document : Fields) : Checked Graph :=
  let endpoints := checkList [.field "endpoints"] checkEndpoint
    ((declaredEndpoints document).orElse (.list []))
  let nodes := checkList [.field "nodes"] checkNode
    (((section? document).get "nodes").orElse (.list []))
  let environments := checkObject [.field "environment_variables"]
    (fun here value => (checkObject here (fun _ part => .ok part) value).map Fields.named)
    ((document.get "environmentVariables").orElse (.object []))
  let selected := checkText [.field "selected_environment"]
    ((document.get "selectedEnvironment").orElse (.text "development"))
  (both endpoints (both nodes (both environments selected))).map
    fun (endpoints, nodes, environments, selected) =>
      { controller, endpoints, nodes, environments, selectedEnvironment := selected }

/-- Refuse a graph in which nodes share an id. -/
def checkDistinct (graph : Graph) : Checked Graph :=
  match Graph.repeatedIds [] graph.nodes with
  | [] => .ok graph
  | ids => refuse [] (.duplicateNodes graph.controller ids)

end Document

/-- The problems of a document as one fault. -/
def Checked.toFault {α : Type} : Checked α → Except Fault α
  | .ok part => .ok part
  | .error problems => .error (.invalidDocument problems)

/-- Read a node on its own. -/
def Node.ofValue (value : Value) : Except Fault Node :=
  (Document.checkNode [] value).toFault

/-- Read an endpoint on its own. -/
def Endpoint.ofValue (value : Value) : Except Fault Endpoint :=
  (Document.checkEndpoint [] value).toFault

/-- Read the graph of a document. -/
def Graph.ofDocument (document : Value) (controller : String) : Except Fault Graph :=
  match document with
  | .object fields =>
    (match Document.checkGraph controller fields with
      | .ok graph => Document.checkDistinct graph
      | .error problems => .error problems : Checked Graph).toFault
  | _ => .error .documentNotObject

end RequestFlow
