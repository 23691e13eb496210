import Questionnaire.Condition.Evaluate
import Questionnaire.Graph.Basic
/-!
From one node to the next. A branch evaluates its condition and follows one of its two routes; every
other node has one route. A node whose own condition is false is passed over, and the walk goes on
from it; if its condition has no value, the node is shown.
-/

namespace Questionnaire

structure Engine where
  graph : Graph
  evaluator : Evaluator

inductive WalkError where
  | missingStart
  | manyStarts (ids : List String)
  /-- Passing over nodes leads back to one passed over before. -/
  | skipCycle (node : String) (skipped : List String)
  | revisit (node : String) (path : List String)
  | condition (e : ConditionError)
  /-- A route that is a list or an object names no node and cannot be looked up. -/
  | unusableRoute
deriving DecidableEq

/-- What happens on a walk, in order. -/
inductive Event where
  | enter (node : String)
  | branch (node : String) (result : Bool)
  | skip (node : String)
  | shownOnError (node : String) (detail : String)
  | told (r : Record)
deriving DecidableEq

def strings (xs : List String) : Json := .arr (xs.map .str)

namespace WalkError

/-- The faults of a condition are told by `describe`. -/
def message (describe : List Fault → String) : WalkError → String
  | .missingStart => "Start node missing in workflow."
  | .manyStarts _ => "Multiple start nodes found. Workflow invalid."
  | .skipCycle node _ => s!"Cycle detected while skipping past node {node}"
  | .revisit node _ => s!"Cycle detected at node {node} during runtime traversal."
  | .condition e => e.message describe
  | .unusableRoute => "unhashable type"

def context : WalkError → Option Entries
  | .manyStarts ids => some [("start_nodes", strings ids)]
  | .skipCycle node skipped => some [("node_id", .str node), ("skipped", strings skipped)]
  | .revisit node path => some [("node_id", .str node), ("path", strings path)]
  | .condition e => some e.context
  | .missingStart | .unusableRoute => none

end WalkError

namespace Event

/-- The event as a step of a trace; what was told is none. -/
def toJson? : Event → Option Json
  | .enter node => some (.obj [("nodeId", .str node), ("action", .str "enter")])
  | .branch node result =>
    some (.obj [("nodeId", .str node), ("action", .str "branch"), ("result", .bool result)])
  | .skip node =>
    some (.obj [("nodeId", .str node), ("action", .str "skip"), ("result", .bool false)])
  | .shownOnError node detail =>
    some (.obj [("nodeId", .str node), ("action", .str "show_on_error"), ("detail", .str detail)])
  | .told _ => none

def record? : Event → Option Record
  | .enter _ => none
  | .branch node result => some (.debug .routing s!"Branch {node} evaluated {truth result}")
  | .skip node => some (.debug .routing s!"Skipping node {node}")
  | .shownOnError node detail =>
    let text := s!"Error evaluating skip logic for node {node}, showing it: {detail}"
    some ⟨.warning, .routing, text, false⟩
  | .told r => some r

end Event

/-- What happened, and how it ended. -/
structure Walk (α : Type) where
  events : List Event
  result : Except WalkError α

namespace Engine

/-- An engine that knows the nodes of its own graph. -/
def ofGraph (g : Graph) (otherValue defaultOtherLabel : String) : Engine :=
  ⟨g, g.map fun (key, n) => (key, n.data), otherValue, defaultOtherLabel⟩

/-- The records of a graph whose nodes do not all have their key as id. -/
def identityRecords (g : Graph) : List Record :=
  (g.filter fun (key, n) => n.id != key).map fun (key, n) =>
    ⟨.warning, .routing, s!"Node identity mismatch: key {key} vs node.id {n.id}", false⟩

def startNode (e : Engine) : Except WalkError CompiledNode :=
  match e.graph.starts with
  | [] => .error .missingStart
  | [n] => .ok n
  | ns => .error (.manyStarts (ns.map CompiledNode.id))

def evaluate (e : Engine) (responses : Json) (g : Group) :
    List Event × Except ConditionError Bool :=
  ((e.evaluator.records responses g).map .told, e.evaluator.evaluate responses g)

/-- The route that leads on from a node. -/
def route (e : Engine) (responses : Json) (n : CompiledNode) : Walk Json :=
  match n.next with
  | .linear next => ⟨[], .ok next⟩
  | .branch onTrue onFalse =>
    match n.data.condition.filter (!·.isEmpty) with
    | none => ⟨[], .error (.condition (.unroutable n.id))⟩
    | some c =>
      match e.evaluate responses c with
      | (told, .error x) => ⟨told, .error (.condition x)⟩
      | (told, .ok b) => ⟨told ++ [.branch n.id b], .ok (if b then onTrue else onFalse)⟩

/-- The node at the end of a route. -/
def follow (e : Engine) (route : Json) : Except WalkError (Option (String × CompiledNode)) :=
  match route with
  | .str id => .ok (if id.isEmpty then none else (e.graph.node? id).map fun n => (id, n))
  | .arr (_ :: _) | .obj (_ :: _) => .error .unusableRoute
  | _ => .ok none

/-- One move of a walk. -/
inductive Hop where
  | nowhere
  | present (n : CompiledNode)
  /-- The node under this key is not to be shown. -/
  | over (key : String)

/-- Decides whether the node under a key is shown. -/
def arrive (e : Engine) (responses : Json) (key : String) (n : CompiledNode) : List Event × Hop :=
  match n.data.skipCondition with
  | none => ([], .present n)
  | some c =>
    match e.evaluate responses c with
    | (told, .error x) =>
      (told ++ [.shownOnError key x.text], .present n)
    | (told, .ok true) => (told, .present n)
    | (told, .ok false) => (told, .over key)

def hop (e : Engine) (responses : Json) (key : String) : Walk Hop :=
  match e.graph.node? key with
  | none => ⟨[], .ok .nowhere⟩
  | some n =>
    match e.route responses n with
    | ⟨events, .error x⟩ => ⟨events, .error x⟩
    | ⟨events, .ok r⟩ =>
      match e.follow r with
      | .error x => ⟨events, .error x⟩
      | .ok none => ⟨events, .ok .nowhere⟩
      | .ok (some (key, n)) =>
        let (more, hop) := e.arrive responses key n
        ⟨events ++ more, .ok hop⟩

/-- Moves on until a node is shown. Each node is passed over once, so the fuel, one more than there
are nodes, does not run out. -/
def nextFrom (e : Engine) (responses : Json) :
    Nat → List String → String → Walk (Option CompiledNode)
  | 0, skipped, key => ⟨[], .error (.skipCycle key skipped)⟩
  | fuel + 1, skipped, key =>
    match e.hop responses key with
    | ⟨events, .error x⟩ => ⟨events, .error x⟩
    | ⟨events, .ok .nowhere⟩ => ⟨events, .ok none⟩
    | ⟨events, .ok (.present n)⟩ => ⟨events, .ok (some n)⟩
    | ⟨events, .ok (.over key)⟩ =>
      if skipped.contains key then ⟨events, .error (.skipCycle key skipped)⟩
      else
        let rest := nextFrom e responses fuel (skipped ++ [key]) key
        ⟨events ++ .skip key :: rest.events, rest.result⟩

/-- The next node to show after the one under this key. -/
def next (e : Engine) (responses : Json) (key : String) : Walk (Option CompiledNode) :=
  e.nextFrom responses (e.graph.length + 1) [] key

end Engine
end Questionnaire
