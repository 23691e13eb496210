import Questionnaire.Route.Engine
import Questionnaire.Json.Ordered
import Questionnaire.Json.Text
/-!
Sessions: one respondent's answers and place in a survey. Advancing looks at the answers given so
far, and never enters a node twice.
-/

namespace Questionnaire

structure Session where
  responses : Entries
  current : Option String
  history : List String
  finished : Bool
deriving DecidableEq, Repr

namespace Session

def new : Session := ⟨[], none, [], false⟩

def answer (s : Session) (node : String) (value : Json) : Session :=
  { s with responses := Ordered.put node value s.responses }

def movedTo (s : Session) (node : String) : Session :=
  { s with current := some node, history := s.history ++ [node] }

def finish (s : Session) : Session := { s with finished := true }

/-- Why a document gives no answers. -/
inductive AnswersError where
  /-- Something that holds no others stands where a list or a pair was expected, or something that
  is no single value stands for a node. -/
  | wrongKind
  /-- Not two things stand where a pair was expected. -/
  | wrongLength
deriving DecidableEq, Repr

/-- What a document holds one by one: the items of a list, the keys of an object, the characters of
a text. -/
def members : Json → Except AnswersError (List Json)
  | .arr xs => .ok xs
  | .obj es => .ok (es.map fun e => .str e.1)
  | .str s => .ok (s.toList.map fun c => .str (String.ofList [c]))
  | _ => .error .wrongKind

/-- A node and its answer; a node that is not named by a text is named by the text of what stands
for it. -/
def pair (j : Json) : Except AnswersError (String × Json) := do
  match ← members j with
  | [.arr _, _] | [.obj _, _] => .error .wrongKind
  | [node, value] => return (node.text, value)
  | _ => .error .wrongLength

/-- The answers that a document gives: those of an object, or pairs of a node and its answer. -/
def answers : Json → Except AnswersError Entries
  | .obj es => .ok es
  | j => do return Ordered.ofList (← (← members j).mapM pair)

def toJson (s : Session) : Json :=
  .obj [("responses", .obj s.responses), ("currentNodeId", Json.ofOption .str s.current),
    ("history", strings s.history), ("finished", .bool s.finished)]

end Session

namespace Engine

def currentNode? (e : Engine) (s : Session) : Option CompiledNode :=
  (s.current.filter (!·.isEmpty)).bind e.graph.node?

/-- A session at the start node. -/
def begin (e : Engine) (responses : Entries) : Except WalkError Session :=
  e.startNode.map fun n => ⟨responses, some n.id, [n.id], false⟩

/-- Moves a session on; at an end, or where no node follows, the session is finished. -/
def advance (e : Engine) (s : Session) : Walk Session :=
  if s.finished then ⟨[], .ok s⟩
  else
    match e.currentNode? s with
    | none => ⟨[], .ok s.finish⟩
    | some n =>
      if n.isEnd then ⟨[], .ok s.finish⟩
      else
        match e.next (.obj s.responses) n.id with
        | ⟨events, .error x⟩ => ⟨events, .error x⟩
        | ⟨events, .ok none⟩ => ⟨events, .ok s.finish⟩
        | ⟨events, .ok (some m)⟩ =>
          if s.history.contains m.id then ⟨events, .error (.revisit m.id s.history)⟩
          else ⟨events, .ok (s.movedTo m.id)⟩

def isFinished (e : Engine) (s : Session) : Bool :=
  s.finished || (e.currentNode? s).any CompiledNode.isEnd

end Engine
end Questionnaire
