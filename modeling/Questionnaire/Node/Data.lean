import Questionnaire.Node.Payload
import Questionnaire.Condition.Document
/-!
The data of a node: what every node carries, the payload of its family, and whatever else was in the
document, which is kept.
-/

namespace Questionnaire

structure NodeData where
  label : String
  description : String
  condition : Option Group
  payload : Payload
  extras : Entries
deriving DecidableEq, Repr

namespace NodeData

abbrev Common := String × String × Option Group

def commonPart : Part Common :=
  .both (.field (.plain "label") .string "") <|
  .both (.field (.plain "description") .string "")
    (.field (.plain "condition") (.optional .condition) none)

/-- The keys that are not extras. -/
def used (f : Family) (es : Entries) : List String := commonPart.used es ++ Payload.used f es

def ofEntries (f : Family) (es : Entries) : Checked NodeData :=
  .both (fun (label, description, condition) payload =>
      ⟨label, description, condition, payload, es.filter fun e => !(used f es).contains e.1⟩)
    (commonPart.read es) (Payload.ofEntries f es)

def ofJson (f : Family) : Json → Checked NodeData
  | .obj es => ofEntries f es
  | _ => Checked.fault (.notRecord (f.name ++ "Data"))

def toJson (d : NodeData) : Json :=
  .obj (commonPart.write (d.label, d.description, d.condition) ++ d.payload.toEntries
    ++ Entries.written d.extras)

def shape (f : Family) : Shape NodeData := { read := ofJson f, write := toJson }

/-- The data of a node that gives none. -/
def default (f : Family) : Checked NodeData := ofEntries f []

/-- The condition under which the node is shown; `none` when it always is. A branch uses its
condition to choose a route and is never skipped. -/
def skipCondition (d : NodeData) : Option Group :=
  match d.payload with
  | .branch => none
  | _ => d.condition.filter (!·.isEmpty)

/-- The choices by which a shown label stands for a stored value. -/
def choices (d : NodeData) : List Choice :=
  match d.payload with
  | .choice c => c.options
  | .matrix m => m.columns
  | _ => []

/-- The label of the open choice, empty for the usual one; `none` when there is no open choice. -/
def otherLabel? (d : NodeData) : Option String :=
  match d.payload with
  | .choice c => if c.allowOther then some (c.otherLabel.getD "") else none
  | _ => none

end NodeData
end Questionnaire
