import Questionnaire.Graph.Basic
import Questionnaire.Log
/-!
Compiling a design. No design is refused for its structure: an edge from an unknown node is ignored,
an edge to an unknown node leads nowhere, an edge from a branch counts only with the handle "true"
or "false", and of several edges for one route the last counts.
-/

namespace Questionnaire.Graph

def ofNode (n : Node) : CompiledNode := ⟨n.id, n.kind, n.data, Next.unset n.kind⟩

/-- The node under its id; one that was there keeps its place and nothing else. -/
def addNode (g : Graph) (n : Node) : Graph := Ordered.put n.id (ofNode n) g

def setRoute (handle : Option String) (target : Json) : Next → Next
  | .linear _ => .linear target
  | .branch t f =>
    if handle = some "true" then .branch target f
    else if handle = some "false" then .branch t target
    else .branch t f

def target (g : Graph) (e : Edge) : Json :=
  if Ordered.hasKey g e.target then .str e.target else .null

def addEdge (g : Graph) (e : Edge) : Graph :=
  Ordered.modify e.source
    (fun n => { n with next := setRoute e.sourceHandle (g.target e) n.next }) g

def ofNodes (nodes : List Node) : Graph := nodes.foldl addNode []

def compile (nodes : List Node) (edges : List Edge) : Graph := edges.foldl addEdge (ofNodes nodes)

/-- What is told about an edge that sets no route. -/
def edgeRecord? (g : Graph) (e : Edge) : Option Record :=
  match g.node? e.source with
  | none => some (.debug .compiling s!"Ignoring edge {e.id} from unknown source {e.source}")
  | some n =>
    if n.next.isBranch && e.sourceHandle != some "true" && e.sourceHandle != some "false" then
      let handle := (Json.ofOption .str e.sourceHandle).shown
      some (.debug .compiling s!"Dropping edge {e.id}: branch {n.id} has no handle {handle}")
    else none

def countRecord (g : Graph) (edges : List Edge) : Record :=
  .debug .compiling s!"Compiled {g.length} nodes and {edges.length} edges"

/-- The result of compiling documents, with what was told on the way. -/
structure Compilation where
  result : Checked Graph
  records : List Record
  ids : IdSupply

/-- Compiles what was read already. -/
def compileRead (ids : IdSupply) (nodes : List Node) (edges : List Edge) : Compilation :=
  let g := ofNodes nodes
  ⟨.ok (compile nodes edges), edges.filterMap (edgeRecord? g) ++ [countRecord g edges], ids⟩

/-- Reads and compiles; the first document with faults ends the work. -/
def compileRaw (ids : IdSupply) (nodes edges : List Json) : Compilation :=
  let ns := Node.reader.batch ids nodes
  match ns.faults with
  | some fs => ⟨.error fs, [], ns.ids⟩
  | none =>
    let es := Edge.reader.batch ns.ids edges
    match es.faults with
    | some fs => ⟨.error fs, es.items.filterMap (edgeRecord? (ofNodes ns.items)), es.ids⟩
    | none => compileRead es.ids ns.items es.items

end Questionnaire.Graph
