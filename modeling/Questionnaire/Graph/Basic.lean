import Questionnaire.Design
import Questionnaire.Json.Ordered
/-!
Compiled graphs: nodes by id, each with the routes that lead on from it.
-/

namespace Questionnaire

/-- The routes out of a node. What is not the id of a node leads nowhere. -/
inductive Next where
  | linear (next : Json)
  | branch (onTrue onFalse : Json)
deriving DecidableEq, Repr

namespace Next

def isBranch : Next → Bool
  | .branch .. => true
  | .linear _ => false

def word : Next → String
  | .linear _ => "linear"
  | .branch .. => "branch"

/-- The routes of a new node. -/
def unset (kind : NodeKind) : Next := if kind = .branch then .branch .null .null else .linear .null

def toJson : Next → Json
  | .linear n => .obj [("kind", .str "linear"), ("nextId", n)]
  | .branch t f => .obj [("kind", .str "branch"), ("trueId", t), ("falseId", f)]

end Next

structure CompiledNode where
  id : String
  kind : NodeKind
  data : NodeData
  next : Next
deriving DecidableEq, Repr

namespace CompiledNode

def label (n : CompiledNode) : String := if n.data.label.isEmpty then n.id else n.data.label

def isEnd (n : CompiledNode) : Bool := n.kind == .ending

def toJson (n : CompiledNode) : Json :=
  .obj [("id", .str n.id), ("type", .str n.kind.tag), ("data", n.data.toJson),
    ("next", n.next.toJson)]

end CompiledNode

/-- Nodes by key, in the order in which the keys first came. -/
abbrev Graph := List (String × CompiledNode)

namespace Graph

def node? (g : Graph) (key : String) : Option CompiledNode := g.lookup key

def starts (g : Graph) : List CompiledNode := (g.map Prod.snd).filter (·.kind == .start)

def toJson (g : Graph) : Json := .obj (g.map fun (key, n) => (key, n.toJson))

end Graph
end Questionnaire
