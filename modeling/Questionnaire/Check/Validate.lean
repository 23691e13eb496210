import Questionnaire.Check.Flow
import Questionnaire.Check.Problem
import Questionnaire.Log
/-!
Checking a design before it is published. Every problem is found, also in a design in which some
nodes or edges cannot be read: what can be known about such a node still takes part in the checks.
-/

namespace Questionnaire

/-- What is known of a node: it may be unreadable, and its type unknown. -/
structure View where
  id : String
  type : String
  label : String
  node : Option Node

namespace View

def ofNode (n : Node) : View := ⟨n.id, n.kind.tag, n.label, some n⟩

def subject (v : View) : Subject := ⟨v.id, v.label⟩

def isKind (k : NodeKind) (v : View) : Bool := v.type == k.tag

def condition? (v : View) : Option Group := v.node.bind (·.data.condition)

end View

/-- The views and edges that the checks are about, and what was found wrong in reading them. -/
structure Draft where
  views : List View
  edges : List Edge
  problems : List Problem

namespace Draft

/-- Whatever stands for an id is no id unless it is a text that is not empty. -/
def idOf? : Json → Option String
  | .obj es =>
    match es.lookup "id" with
    | some (.str s) => if s.isEmpty then none else some s
    | _ => none
  | _ => none

/-- The label that an unread node gives, or else its id. -/
def labelOf (id : String) (j : Json) : String :=
  match (j.getD "data").get? "label" with
  | some (.str s) => if s.isEmpty then id else s
  | _ => id

def typeOf (j : Json) : String := (((j.get? "type").filter Json.isGiven).map Json.text).getD ""

def viewNode (j : Json) : Option View × List Problem :=
  match idOf? j with
  | none => (none, [.nodeWithoutId])
  | some id =>
    match Node.ofJson id j with
    | .ok n => (some (View.ofNode n), [])
    | .error fs =>
      let label := labelOf id j
      (some ⟨id, typeOf j, label, none⟩, [.malformedNode ⟨id, label⟩ fs])

def readEdge (j : Json) (read : Checked Edge) : Option Edge × List Problem :=
  match read with
  | .ok e => (some e, [])
  | .error fs =>
    let id := match j.get? "id" with
      | some (.str s) => some s
      | _ => none
    (none, [.malformedEdge id fs])

/-- Reads what can be read. Nodes without an id are left out, so only edges take new ids. -/
def ofRaw (ids : IdSupply) (nodes edges : List Json) : Draft :=
  let ns := nodes.map viewNode
  let es := List.zipWith readEdge edges (Edge.reader.attempts ids edges).1
  ⟨ns.filterMap Prod.fst, es.filterMap Prod.fst,
    ns.flatMap Prod.snd ++ es.flatMap Prod.snd⟩

def ofRead (nodes : List Node) (edges : List Edge) : Draft := ⟨nodes.map View.ofNode, edges, []⟩

end Draft

/-- The first view of each id that was not seen before. -/
def firstViews : (seen : List String) → List View → List View
  | _, [] => []
  | seen, v :: vs =>
    if seen.contains v.id then firstViews seen vs else v :: firstViews (v.id :: seen) vs

/-- The ids of the other views. -/
def repeatedIds : (seen : List String) → List View → List String
  | _, [] => []
  | seen, v :: vs =>
    if seen.contains v.id then v.id :: repeatedIds seen vs else repeatedIds (v.id :: seen) vs

/-- What the checks of one node look at. -/
structure Survey where
  views : List View
  edges : List Edge

namespace Survey

def has (s : Survey) (id : String) : Bool := s.views.any (·.id == id)

def ofKind (s : Survey) (k : NodeKind) : List View := s.views.filter (View.isKind k)

/-- The edges that join two nodes. -/
def links (s : Survey) : List (String × String) :=
  (s.edges.filter fun e => s.has e.source && s.has e.target).map fun e => (e.source, e.target)

def flow (s : Survey) : Flow := ⟨s.views.map View.id, s.links⟩

def outgoing (s : Survey) (id : String) : List Edge := s.edges.filter (·.source == id)

def kindProblems (s : Survey) : List Problem :=
  (match s.ofKind .start with
    | [] => [.noStart]
    | [_] => []
    | vs => [.manyStarts (vs.map View.label)])
  ++ if (s.ofKind .ending).isEmpty then [.noEnd] else []

def edgeProblems (s : Survey) : List Problem :=
  s.edges.filterMap fun e =>
    if !s.has e.source then some (.unknownSource e)
    else if !s.has e.target then some (.unknownTarget e)
    else none

def cycleProblems (s : Survey) : List Problem :=
  if s.flow.order.length < s.views.length then [.cycle] else []

/-- Nothing is asked of reachability unless there is one start. -/
def reachProblems (s : Survey) : List Problem :=
  match s.ofKind .start with
  | [start] =>
    let reached := s.flow.reached [start.id]
    (s.views.filter fun v => !reached.contains v.id).map fun v => .unreachable v.subject
  | _ => []

def deadEndProblems (s : Survey) : List Problem :=
  let reached := s.flow.reversed.reached ((s.ofKind .ending).map View.id)
  (s.views.filter fun v => !reached.contains v.id).map fun v => .deadEnd v.subject

/-- The fields of a condition that do not come before a node in the order; a node that is not in the
order comes before all others. -/
def lateFields (order : List String) (id : String) (condition : Option Group) : List String :=
  let position := order.idxOf? id
  ((condition.map Group.fields).getD []).filter fun field =>
    match order.idxOf? field, position with
    | some i, some p => p ≤ i
    | _, _ => true

def redirect (n : Node) : String :=
  match n.data.payload with
  | .ending _ url _ => url.getD ""
  | _ => ""

def endProblems (v : View) (edges : List Edge) : List Problem :=
  (match v.node with
    | some n => if Text.allBlank (redirect n) then [.endWithoutRedirect v.subject] else []
    | none => [])
  ++ if edges.isEmpty then [] else [.endWithOutgoing v.subject]

def conditionProblems (v : View) : List Problem :=
  match v.node with
  | none => []
  | some n =>
    match n.data.condition.filter (!·.isEmpty) with
    | none => [.branchWithoutCondition v.subject]
    | some c => (c.groups.filter Group.isEmpty).map fun _ => .emptyGroup v.subject

def handles : List String := ["false", "true"]

def countHandle (edges : List Edge) (handle : String) : Nat :=
  edges.countP fun e => e.sourceHandle == some handle

def handleProblems (v : View) (edges : List Edge) : List Problem :=
  (edges.filter fun e => !handles.any fun h => e.sourceHandle == some h).map
    (.unknownHandle v.subject)
  ++ ((handles.filter fun h => 1 < countHandle edges h).map fun h =>
    .repeatedHandle v.subject h (countHandle edges h))
  ++ if handles.all fun h => 0 < countHandle edges h then [] else [.missingRoutes v.subject]

def branchProblems (order : List String) (v : View) (edges : List Edge) : List Problem :=
  conditionProblems v ++ handleProblems v edges
    ++ (lateFields order v.id v.condition?).map (.lateField v.subject)

def skipProblems (order : List String) (v : View) (n : Node) : List Problem :=
  if order.contains v.id then
    (lateFields order v.id n.data.skipCondition).map (.lateSkipField v.subject)
  else []

def operatorProblems (v : View) (n : Node) : List Problem :=
  (((n.data.condition.map Group.rules).getD []).filter fun r => !r.known).map fun r =>
    .unknownOperator v.subject r.operator

def nodeProblems (s : Survey) (order : List String) (v : View) : List Problem :=
  let edges := s.outgoing v.id
  (if v.isKind .ending then endProblems v edges
    else if v.isKind .branch then branchProblems order v edges
    else if 1 < edges.length then [.manyOutgoing v.subject edges.length]
    else [])
  ++ match v.node with
    | some n => skipProblems order v n ++ operatorProblems v n
    | none => []

def problems (s : Survey) : List Problem :=
  let order := s.flow.order
  s.kindProblems ++ s.edgeProblems ++ s.cycleProblems ++ s.reachProblems ++ s.deadEndProblems
    ++ s.views.flatMap (s.nodeProblems order)

end Survey

namespace Draft

def survey (d : Draft) : Survey := ⟨firstViews [] d.views, d.edges⟩

/-- Every problem of a draft, in the order of the checks. -/
def validate (d : Draft) : List Problem :=
  d.problems ++ (repeatedIds [] d.views).map .duplicateNode ++ d.survey.problems

def record (d : Draft) : Record :=
  let problems := d.validate
  let nodes := d.survey.views.length
  let valid := truth (!problems.any Problem.isError)
  .debug .checking
    s!"Validated {nodes} nodes / {d.edges.length} edges: {problems.length} problems (valid={valid})"

end Draft

def Problem.isValid (ps : List Problem) : Bool := !ps.any Problem.isError

/-- A result as a document. -/
def Problem.resultJson (ps : List Problem) : Json :=
  .obj [("isValid", .bool (isValid ps)), ("errors", .arr (ps.map toJson))]

/-- Lets a design pass if it has no errors; else gives its errors. -/
def publish (ps : List Problem) : Except (List Problem) (List Problem) :=
  if Problem.isValid ps then .ok ps else .error (ps.filter Problem.isError)

end Questionnaire
