import Questionnaire.Graph.Basic
import Questionnaire.Json.Text
/-!
Compiled graphs as stored documents. An entry may leave out its id, which is then its key, its data
and its routes; its type must be known and its routes must suit the type.
-/

namespace Questionnaire.Graph

/-- Why a document is not a compiled graph. -/
inductive FormatError where
  | notObject (kind : String)
  | entryNotObject (key : String)
  | unknownType (key type : String)
  | invalidData (key : String) (faults : List Fault)
  | malformedNext (key : String)
  | unsuitedNext (key type : String) (given : Json)
deriving DecidableEq

namespace FormatError

/-- The faults of data are told by `describe`. -/
def message (describe : List Fault → String) : FormatError → String
  | .notObject kind => s!"Runtime graph must be an object, got {kind}"
  | .entryNotObject key => s!"Runtime node '{key}' must be an object"
  | .unknownType key type => s!"Runtime node '{key}' has unknown type '{type}'"
  | .invalidData key fs => s!"Runtime node '{key}' has invalid data: {describe fs}"
  | .malformedNext key => s!"Runtime node '{key}' has malformed 'next'"
  | .unsuitedNext key type given =>
    s!"Runtime node '{key}' of type '{type}' cannot have next.kind '{given.text}'"

def context : FormatError → Option Entries
  | .notObject _ => none
  | .unsuitedNext key _ given => some [("node_id", .str key), ("kind", given)]
  | .entryNotObject key | .unknownType key _ | .invalidData key _ | .malformedNext key =>
    some [("node_id", .str key)]

def faults : FormatError → List Fault
  | .invalidData _ fs => fs
  | _ => []

end FormatError

/-- The entry, where it counts as given. -/
def given? (es : Entries) (key : String) : Option Json := (es.lookup key).filter Json.isGiven

def textOf (es : Entries) (key default : String) : String :=
  ((given? es key).map Json.text).getD default

def nextOfJson (key : String) (kind : NodeKind) : Json → Except FormatError Next
  | .null => .ok (Next.unset kind)
  | .obj es =>
    let given := (Json.obj es).getD "kind"
    let slot (name : String) := (Json.obj es).getD name
    if kind = .branch then
      if given = .str "branch" then .ok (.branch (slot "trueId") (slot "falseId"))
      else .error (.unsuitedNext key kind.tag given)
    else if given = .str "linear" then .ok (.linear (slot "nextId"))
    else .error (.unsuitedNext key kind.tag given)
  | _ => .error (.malformedNext key)

def nodeOfJson (key : String) : Json → Except FormatError CompiledNode
  | .obj es =>
    let type := textOf es "type" ""
    match NodeKind.ofTag? type with
    | none => .error (.unknownType key type)
    | some kind =>
      match NodeData.ofJson kind.family ((given? es "data").getD (.obj [])) with
      | .error fs => .error (.invalidData key fs)
      | .ok data => do
        let next ← nextOfJson key kind ((Json.obj es).getD "next")
        return ⟨textOf es "id" key, kind, data, next⟩
  | _ => .error (.entryNotObject key)

def ofEntries : Entries → Except FormatError Graph
  | [] => .ok []
  | (key, j) :: es => do
    let n ← nodeOfJson key j
    let g ← ofEntries es
    return (key, n) :: g

def ofJson : Json → Except FormatError Graph
  | .obj es => ofEntries es
  | j => .error (.notObject j.kindName)

end Questionnaire.Graph
