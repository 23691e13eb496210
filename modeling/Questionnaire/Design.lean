import Questionnaire.Node.Data
/-!
Designs: the nodes and edges that a survey is drawn with. A node or edge that gives no id gets the
next one from a supply of ids.
-/

namespace Questionnaire

/-- Ids not used before: the n-th one taken is `name n`, counted from one. -/
structure IdSupply where
  name : Nat → String
  taken : Nat

namespace IdSupply

def fresh (s : IdSupply) : String := s.name (s.taken + 1)

def take (s : IdSupply) : IdSupply := { s with taken := s.taken + 1 }

end IdSupply

structure Position where
  x : Binary64
  y : Binary64
deriving DecidableEq, Repr

namespace Position

def part : Part Position :=
  .as (β := Position)
    (.both (.field (.plain "x") .number .zero) (.field (.plain "y") .number .zero))
    (fun (x, y) => ⟨x, y⟩) (fun p => (p.x, p.y))

def shape : Shape Position where
  read
    | .obj es => part.read es
    | _ => Checked.fault (.notRecord "Position")
  write p := .obj (part.write p)

end Position

structure Node where
  id : String
  position : Position
  kind : NodeKind
  data : NodeData
deriving DecidableEq, Repr

namespace Node

/-- What is shown for the node: its label, or its id when it has none. -/
def label (n : Node) : String := if n.data.label.isEmpty then n.id else n.data.label

/-- The kind that a document names. -/
def kindOf (es : Entries) : Except Defect NodeKind :=
  match es.lookup "type" with
  | none => .error .noTag
  | some v =>
    let unknown := Defect.unknownTag v.text (NodeKind.all.map NodeKind.tag)
    match v with
    | .str t => (NodeKind.ofTag? t).elim (.error unknown) .ok
    | _ => .error unknown

def ofEntries (fresh : String) (kind : NodeKind) (es : Entries) : Checked Node :=
  let id := (Part.field (.plain "id") .string fresh).read es
  let position := (Part.field (.plain "position") Position.shape ⟨.zero, .zero⟩).read es
  let data :=
    (Part.fieldOr (.plain "data") (NodeData.shape kind.family)
      (NodeData.default kind.family)).read es
  .both (fun (id, position) data => ⟨id, position, kind, data⟩) (.both Prod.mk id position) data

/-- Reads a node; `fresh` is the id of a node that gives none. -/
def ofJson (fresh : String) : Json → Checked Node
  | .obj es =>
    match kindOf es with
    | .ok kind => (ofEntries fresh kind es).within (.key kind.tag)
    | .error d => Checked.fault d
  | _ => Checked.fault .untaggable

/-- Does reading this node take an id, whether or not it succeeds? -/
def takesId : Json → Bool
  | .obj es => (kindOf es).isOk && (es.lookup "id").isNone
  | _ => false

end Node

structure Edge where
  id : String
  source : String
  target : String
  sourceHandle : Option String
  targetHandle : Option String
  type : Option String
deriving DecidableEq, Repr

namespace Edge

def part (fresh : String) : Part Edge :=
  .as (β := Edge)
    (.both (.field (.plain "id") .string fresh) <|
     .both (.required (.plain "source") .string) <|
     .both (.required (.plain "target") .string) <|
     .both (.field ⟨"sourceHandle", "source_handle"⟩ (.optional .string) none) <|
     .both (.field ⟨"targetHandle", "target_handle"⟩ (.optional .string) none)
      (.field (.plain "type") (.optional .string) none))
    (fun (id, source, target, sourceHandle, targetHandle, type) =>
      ⟨id, source, target, sourceHandle, targetHandle, type⟩)
    (fun e => (e.id, e.source, e.target, e.sourceHandle, e.targetHandle, e.type))

def ofJson (fresh : String) : Json → Checked Edge
  | .obj es => (part fresh).read es
  | _ => Checked.fault (.notRecord "Edge")

def takesId : Json → Bool
  | .obj es => (es.lookup "id").isNone
  | _ => false

end Edge

/-- How something with an id is read from a document. -/
structure Reader (α : Type) where
  ofJson : String → Json → Checked α
  takesId : Json → Bool

def Node.reader : Reader Node := ⟨Node.ofJson, Node.takesId⟩
def Edge.reader : Reader Edge := ⟨Edge.ofJson, Edge.takesId⟩

namespace Reader

variable {α : Type}

def after (r : Reader α) (ids : IdSupply) (j : Json) : IdSupply :=
  if r.takesId j then ids.take else ids

def read (r : Reader α) (ids : IdSupply) (j : Json) : Checked α := r.ofJson ids.fresh j

/-- Reads each document by itself. -/
def attempts (r : Reader α) : IdSupply → List Json → List (Checked α) × IdSupply
  | ids, [] => ([], ids)
  | ids, j :: js =>
    let (rest, ids') := attempts r (r.after ids j) js
    (r.read ids j :: rest, ids')

/-- What was read before the first document with faults, and those faults. -/
structure Batch (α : Type) where
  items : List α
  faults : Option (List Fault)
  ids : IdSupply

def batch (r : Reader α) : IdSupply → List Json → Batch α
  | ids, [] => ⟨[], none, ids⟩
  | ids, j :: js =>
    match r.read ids j with
    | .ok a =>
      let rest := batch r (r.after ids j) js
      { rest with items := a :: rest.items }
    | .error fs => ⟨[], some fs, r.after ids j⟩

/-- Reads a list as a field of a larger document, with the faults of all its items. -/
def list (r : Reader α) (ids : IdSupply) : Json → Checked (List α) × IdSupply
  | .arr js =>
    let (results, ids) := r.attempts ids js
    (go 0 results, ids)
  | _ => (Checked.fault .notList, ids)
where
  go : Nat → List (Checked α) → Checked (List α)
    | _, [] => .ok []
    | i, x :: xs => .both List.cons (x.within (.index i)) (go (i + 1) xs)

end Reader

structure Viewport where
  x : Binary64
  y : Binary64
  zoom : Binary64
deriving DecidableEq, Repr

namespace Viewport

def part : Part Viewport :=
  .as (β := Viewport)
    (.both (.field (.plain "x") .number .zero) <|
     .both (.field (.plain "y") .number .zero)
      (.field (.plain "zoom") .number (.ofRatio false 1 1)))
    (fun (x, y, zoom) => ⟨x, y, zoom⟩) (fun v => (v.x, v.y, v.zoom))

def shape : Shape Viewport where
  read
    | .obj es => part.read es
    | _ => Checked.fault (.notRecord "Viewport")
  write v := .obj (part.write v)

end Viewport

structure Design where
  nodes : List Node
  edges : List Edge
  viewport : Option Viewport

namespace Design

/-- A list under a name, empty when the name is missing. -/
def listAt (r : Reader α) (name : String) (ids : IdSupply) (es : Entries) :
    Checked (List α) × IdSupply :=
  match es.lookup name with
  | none => (.ok [], ids)
  | some v =>
    let (items, ids) := r.list ids v
    (items.within (.key name), ids)

/-- Reads a whole design with all its faults. -/
def ofJson (ids : IdSupply) : Json → Checked Design × IdSupply
  | .obj es =>
    let (nodes, ids) := listAt Node.reader "nodes" ids es
    let (edges, ids) := listAt Edge.reader "edges" ids es
    let viewport := (Part.field (.plain "viewport") (.optional Viewport.shape) none).read es
    (.both (fun (nodes, edges) viewport => ⟨nodes, edges, viewport⟩)
      (.both Prod.mk nodes edges) viewport, ids)
  | _ => (Checked.fault (.notRecord "DesignGraph"), ids)

def node? (d : Design) (id : String) : Option Node := d.nodes.find? (·.id == id)

def edgesFrom (d : Design) (id : String) : List Edge := d.edges.filter (·.source == id)

/-- Why a document cannot be taken apart into nodes and edges. -/
inductive Unusable where
  | notObject
  | notList
deriving DecidableEq, Repr

/-- The members of a list; a text has its characters and an object its names as members. -/
def members? : Json → Option (List Json)
  | .arr xs => some xs
  | .str s => some (s.toList.map fun c => .str (String.singleton c))
  | .obj es => some (es.map fun e => .str e.1)
  | _ => none

def listed (j : Json) : Except Unusable (List Json) :=
  if j.isGiven then (members? j).elim (.error .notList) .ok else .ok []

/-- The nodes and edges of a document, not yet read. -/
def split (j : Json) : Except Unusable (List Json × List Json) :=
  match j with
  | .obj _ => do return (← listed (j.getD "nodes"), ← listed (j.getD "edges"))
  | _ => .error .notObject

end Design
end Questionnaire
