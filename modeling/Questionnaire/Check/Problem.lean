import Questionnaire.Design
import Questionnaire.Json.Text
import Questionnaire.Text.Upper
/-!
What can be wrong with a design. Errors stand in the way of publishing, warnings do not.
-/

namespace Questionnaire

inductive Severity where
  | error
  | warning
deriving DecidableEq, Repr

def Severity.word : Severity → String
  | .error => "error"
  | .warning => "warning"

/-- Who a problem is about: a node by id and label. -/
structure Subject where
  id : String
  label : String
deriving DecidableEq, Repr

inductive Problem where
  | nodeWithoutId
  | malformedNode (s : Subject) (faults : List Fault)
  | malformedEdge (id : Option String) (faults : List Fault)
  | duplicateNode (id : String)
  | noStart
  | manyStarts (labels : List String)
  | noEnd
  | unknownSource (e : Edge)
  | unknownTarget (e : Edge)
  | cycle
  | unreachable (s : Subject)
  | deadEnd (s : Subject)
  | endWithoutRedirect (s : Subject)
  | endWithOutgoing (s : Subject)
  | branchWithoutCondition (s : Subject)
  | emptyGroup (s : Subject)
  | unknownHandle (s : Subject) (e : Edge)
  | repeatedHandle (s : Subject) (handle : String) (count : Nat)
  | missingRoutes (s : Subject)
  | lateField (s : Subject) (field : String)
  | manyOutgoing (s : Subject) (count : Nat)
  | lateSkipField (s : Subject) (field : String)
  | unknownOperator (s : Subject) (operator : String)
deriving DecidableEq, Repr

namespace Problem

def severity : Problem → Severity
  | .endWithOutgoing _ | .lateSkipField .. | .unknownOperator .. => .warning
  | _ => .error

def isError (p : Problem) : Bool := p.severity == .error

def code : Problem → String
  | .nodeWithoutId | .malformedNode .. => "INVALID_NODE"
  | .malformedEdge .. => "INVALID_EDGE"
  | .duplicateNode _ => "DUPLICATE_NODE_ID"
  | .noStart => "NO_START_NODE"
  | .manyStarts _ => "MULTIPLE_START_NODES"
  | .noEnd => "NO_END_NODE"
  | .unknownSource _ => "INVALID_EDGE_SOURCE"
  | .unknownTarget _ => "INVALID_EDGE_TARGET"
  | .cycle => "CYCLE_DETECTED"
  | .unreachable _ => "UNREACHABLE_NODE"
  | .deadEnd _ => "DEAD_END_NODE"
  | .endWithoutRedirect _ => "END_MISSING_REDIRECT"
  | .endWithOutgoing _ => "END_HAS_OUTGOING"
  | .branchWithoutCondition _ => "BRANCH_MISSING_CONDITION"
  | .emptyGroup _ => "EMPTY_CONDITION_GROUP"
  | .unknownHandle .. => "INVALID_BRANCH_HANDLE"
  | .repeatedHandle .. => "DUPLICATE_BRANCH_HANDLE"
  | .missingRoutes _ => "BRANCH_MISSING_PATHS"
  | .lateField .. => "CAUSAL_ORDER_VIOLATION"
  | .manyOutgoing .. => "TOO_MANY_OUTGOING"
  | .lateSkipField .. => "SKIP_LOGIC_ORDER"
  | .unknownOperator .. => "UNKNOWN_OPERATOR"

def message : Problem → String
  | .nodeWithoutId => "Node is missing an id."
  | .malformedNode s fs => s!"Node '{s.label}' is invalid: {Fault.first fs}"
  | .malformedEdge _ fs => s!"Edge is invalid: {Fault.first fs}"
  | .duplicateNode id => s!"Duplicate node ID: {id}"
  | .noStart => "The flow must have exactly one Start node."
  | .manyStarts labels =>
    s!"The flow has {labels.length} Start nodes but only one is allowed. Found: "
      ++ ", ".intercalate labels
  | .noEnd => "The flow must have at least one End node."
  | .unknownSource e => s!"Edge references non-existent source node: {e.source}"
  | .unknownTarget e => s!"Edge references non-existent target node: {e.target}"
  | .cycle => "The flow contains a cycle (loop). Remove loops to publish."
  | .unreachable s => s!"Node '{s.label}' is not reachable from the Start node."
  | .deadEnd s => s!"Path starting at '{s.label}' never reaches an End node."
  | .endWithoutRedirect s => s!"End node '{s.label}' must have a Redirect URL."
  | .endWithOutgoing s =>
    s!"End node '{s.label}' has outgoing connections; they are never followed."
  | .branchWithoutCondition s =>
    s!"Branch node '{s.label}' must have at least one valid condition rule."
  | .emptyGroup s =>
    s!"Branch node '{s.label}' has an empty condition group; add a rule or remove it."
  | .unknownHandle s e =>
    let handle := (Json.ofOption .str e.sourceHandle).shown
    s!"Branch node '{s.label}' has a connection without a TRUE/FALSE handle "
      ++ s!"(got {handle}); it would be ignored at runtime."
  | .repeatedHandle s handle count =>
    s!"Branch node '{s.label}' has {count} {Text.upper handle} connections; only one is allowed."
  | .missingRoutes s => s!"Branch node '{s.label}' must have both TRUE and FALSE connections."
  | .lateField _ field =>
    s!"Branch depends on question '{field}' which is not guaranteed "
      ++ "to be answered before this branch."
  | .manyOutgoing s count =>
    s!"Node '{s.label}' can only have one outgoing connection, found {count}."
  | .lateSkipField s field =>
    s!"Skip logic on '{s.label}' depends on question '{field}' which is not "
      ++ "answered before it; the node will always be shown."
  | .unknownOperator s op =>
    s!"Condition on '{s.label}' uses unknown operator '{op}'; it never matches."

def nodeId? : Problem → Option String
  | .malformedNode s _ | .unreachable s | .deadEnd s | .endWithoutRedirect s | .endWithOutgoing s
  | .branchWithoutCondition s | .emptyGroup s | .unknownHandle s _ | .repeatedHandle s ..
  | .missingRoutes s | .lateField s _ | .manyOutgoing s _ | .lateSkipField s _
  | .unknownOperator s _ => some s.id
  | .duplicateNode id => some id
  | .unknownTarget e => some e.source
  | _ => none

def edgeId? : Problem → Option String
  | .malformedEdge id _ => id
  | .unknownSource e | .unknownTarget e | .unknownHandle _ e => some e.id
  | _ => none

def toJson (p : Problem) : Json :=
  .obj ([("severity", .str p.severity.word), ("code", .str p.code), ("message", .str p.message)]
    ++ p.nodeId?.toList.map (fun id => ("nodeId", .str id))
    ++ p.edgeId?.toList.map (fun id => ("edgeId", .str id)))

/-- The node or, failing that, the edge, where its id is not empty. -/
def place (p : Problem) : String :=
  match p.nodeId?.filter (!·.isEmpty), p.edgeId?.filter (!·.isEmpty) with
  | some id, _ => s!" (node: {id})"
  | none, some id => s!" (edge: {id})"
  | none, none => ""

def line (p : Problem) : String :=
  "  • " ++ (if p.severity = .warning then "warning: " else "") ++ p.message ++ p.place

/-- A report of problems for people; nothing when there are none. -/
def report (ps : List Problem) : String :=
  if ps.isEmpty then "" else "\n".intercalate ("Workflow validation failed:" :: ps.map line)

end Problem
end Questionnaire
