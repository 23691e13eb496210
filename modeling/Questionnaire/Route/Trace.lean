import Questionnaire.Route.Engine
/-!
Whole walks: from the start to an end, or to where no node follows, with an account of every
decision on the way.
-/

namespace Questionnaire

structure Trace where
  path : List CompiledNode
  events : List Event

namespace Trace

def ids (t : Trace) : List String := t.path.map CompiledNode.id

def endNode? (t : Trace) : Option CompiledNode := t.path.getLast?.filter CompiledNode.isEnd

def completed (t : Trace) : Bool := t.endNode?.isSome

/-- How the session is closed at the end reached, and where the respondent is sent. -/
def ending? (t : Trace) : Option (Outcome × Option String) :=
  t.endNode?.bind fun n =>
    match n.data.payload with
    | .ending _ url outcome => some (outcome, url)
    | _ => none

def outcome? (t : Trace) : Option Outcome := t.ending?.map Prod.fst

def outcomeJson (t : Trace) : Json := Json.ofOption (fun o => .str o.word) t.outcome?

def toJson (t : Trace) : Json :=
  .obj [("path", strings t.ids), ("steps", .arr (t.events.filterMap Event.toJson?)),
    ("completed", .bool t.completed), ("outcome", t.outcomeJson),
    ("redirectUrl", Json.ofOption .str (t.ending?.bind Prod.snd))]

def record (t : Trace) : Record :=
  let outcome := t.outcomeJson.text
  .debug .routing
    s!"Traced {t.path.length} nodes (completed={truth t.completed}, outcome={outcome})"

end Trace

namespace Engine

/-- Walks on from a node that is to be entered; `path` holds the nodes before it. No node is entered
twice, so the fuel, one more than there are nodes, does not run out. -/
def traceFrom (e : Engine) (responses : Json) :
    Nat → (path : List CompiledNode) → CompiledNode → Walk (List CompiledNode)
  | 0, path, n => ⟨[], .error (.revisit n.id (path.map CompiledNode.id))⟩
  | fuel + 1, path, n =>
    if path.any (·.id == n.id) then ⟨[], .error (.revisit n.id (path.map CompiledNode.id))⟩
    else if n.isEnd then ⟨[.enter n.id], .ok (path ++ [n])⟩
    else
      match e.next responses n.id with
      | ⟨events, .error x⟩ => ⟨.enter n.id :: events, .error x⟩
      | ⟨events, .ok none⟩ => ⟨.enter n.id :: events, .ok (path ++ [n])⟩
      | ⟨events, .ok (some m)⟩ =>
        let rest := traceFrom e responses fuel (path ++ [n]) m
        ⟨.enter n.id :: events ++ rest.events, rest.result⟩

/-- The whole walk that these answers lead to. -/
def walk (e : Engine) (responses : Json) : Walk (List CompiledNode) :=
  match e.startNode with
  | .error x => ⟨[], .error x⟩
  | .ok n => e.traceFrom responses (e.graph.length + 1) [] n

def trace (e : Engine) (responses : Json) : Except WalkError Trace :=
  let w := e.walk responses
  w.result.map fun path => ⟨path, w.events⟩

/-- What is told of a whole walk. -/
def traceRecords (e : Engine) (responses : Json) : List Record :=
  let w := e.walk responses
  w.events.filterMap Event.record? ++
    match w.result with
    | .ok path => [Trace.record ⟨path, w.events⟩]
    | .error _ => []

end Engine
end Questionnaire
