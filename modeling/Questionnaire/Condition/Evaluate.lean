import Questionnaire.Answer.Range
import Questionnaire.Node.Data
import Questionnaire.Condition.Document
import Questionnaire.Log
/-!
Evaluating conditions against answers. A rule on a field without an answer holds only if it asks for
emptiness. Shown labels are replaced by stored values, on both sides of a rule, before they are
compared. A group without items has no value, even where the result is decided already.
-/

namespace Questionnaire

/-- What is known besides the answers: the nodes' data, and how the open choice is stored and
shown. -/
structure Evaluator where
  definitions : List (String × NodeData)
  otherValue : String
  defaultOtherLabel : String

inductive RuleFailure where
  | tooLarge
  /-- The answers are of a kind that holds no members. -/
  | noMembers (kind : String)
  /-- The answers are a list or a text that holds the field's id. -/
  | listByName
  | textByName
deriving DecidableEq, Repr

def RuleFailure.message : RuleFailure → String
  | .tooLarge => "int too large to convert to float"
  | .noMembers kind => s!"argument of type '{kind}' is not iterable"
  | .listByName => "list indices must be integers or slices, not str"
  | .textByName => "string indices must be integers, not 'str'"

inductive ConditionError where
  | malformed (condition : Json) (faults : List Fault)
  | emptyGroup (id : Option String)
  | failed (id : Option String) (failure : RuleFailure)
  | unroutable (node : String)
deriving DecidableEq

/-- A message with what it is about. -/
def withContext (message : String) (context : Entries) : String :=
  if context.isEmpty then message else message ++ " | context=" ++ (Json.obj context).shown

namespace ConditionError

/-- Is it for want of a rule? -/
def isEmptiness : ConditionError → Bool
  | .emptyGroup _ | .unroutable _ => true
  | _ => false

/-- The faults of a condition are told by `describe`. -/
def message (describe : List Fault → String) : ConditionError → String
  | .malformed _ fs => "Invalid condition: " ++ describe fs
  | .emptyGroup _ => "Cannot evaluate an empty condition group."
  | .failed _ f => "Error evaluating condition: " ++ f.message
  | .unroutable node => s!"Branch node {node} has no condition defined."

def context : ConditionError → Entries
  | .malformed c _ => [("condition", c)]
  | .emptyGroup id | .failed id _ => [("group_id", Json.ofOption .str id)]
  | .unroutable node => [("node_id", .str node)]

def text (e : ConditionError) : String := withContext (e.message Fault.report) e.context

end ConditionError

namespace Evaluator

def definition? (ev : Evaluator) (field : String) : Option NodeData := ev.definitions.lookup field

/-- The value that a shown label stands for; the text itself if it is no label. -/
def resolveLabel (ev : Evaluator) (d : NodeData) (text : String) : Json :=
  let key := Answer.normal text
  if key.isEmpty then .str text
  else match d.choices.find? fun c => !c.label.isEmpty && Answer.normal c.label == key with
    | some c => c.value
    | none =>
      match d.otherLabel? with
      | some label =>
        let shown := if label.isEmpty then ev.defaultOtherLabel else label
        if key != Answer.normal ev.otherValue && Answer.normal shown == key then .str ev.otherValue
        else .str text
      | none => .str text

def resolveText (ev : Evaluator) (d : NodeData) : Json → Json
  | .str s => ev.resolveLabel d s
  | v => v

/-- Replaces the label that a value is, or those that are in a list. -/
def resolve (ev : Evaluator) (field : String) (v : Json) : Json :=
  match ev.definition? field with
  | none => v
  | some d =>
    match v with
    | .arr xs => .arr (xs.map (ev.resolveText d))
    | v => ev.resolveText d v

/-- The answer to a field, if there is one. -/
def answer? (responses : Json) (field : String) : Except RuleFailure (Option Json) :=
  match responses with
  | .obj es => .ok (es.lookup field)
  | .arr xs => if xs.contains (.str field) then .error .listByName else .ok none
  | .str s => if Answer.isWithin field.toList s.toList then .error .textByName else .ok none
  | v => .error (.noMembers v.kindName)

/-- What a rule compares. -/
inductive Operands where
  | unanswered
  /-- The rule's value names no answer. -/
  | unresolved
  | pair (value target : Json)

/-- The named part of an answer that has parts. -/
def part (subField : Option String) (v : Json) : Json :=
  match subField, v with
  | some name, .obj es => if name.isEmpty then v else (es.lookup name).getD .null
  | _, _ => v

def target? (responses : Json) (r : Rule) : Option Json :=
  match r.source with
  | .static => some r.value
  | .variable =>
    match r.value with
    | .str s => (responses.get? s).map Answer.unwrap
    | _ => none

def operands (ev : Evaluator) (responses : Json) (r : Rule) : Except RuleFailure Operands := do
  match ← answer? responses r.field with
  | none => return .unanswered
  | some a =>
    let value := part r.subField (Answer.unwrap a)
    match target? responses r with
    | none => return .unresolved
    | some t => return .pair (ev.resolve r.field value) (ev.resolve r.field t)

/-- Compares two numbers, where both are numbers. -/
def compare (holds : Binary64 → Binary64 → Bool) (value target : Json) :
    Except Answer.TooLarge Bool := do
  let x ← Answer.number value
  let y ← Answer.number target
  return match x, y with
    | some x, some y => holds x y
    | _, _ => false

def isBetween (value : Json) : Json → Except Answer.TooLarge Bool
  | .obj es => do
    let x ← Answer.number value
    let low ← Answer.number ((Json.obj es).getD "min")
    let high ← Answer.number ((Json.obj es).getD "max")
    return match x, low, high with
      | some x, some low, some high => low.le x && x.le high
      | _, _, _ => false
  | _ => .ok false

def apply (op : Operator) (value target : Json) : Except Answer.TooLarge Bool :=
  match op with
  | .equals => .ok (Answer.isMatch value target)
  | .notEquals => .ok (!Answer.isMatch value target)
  | .contains => .ok (Answer.contains value target)
  | .notContains => .ok (!Answer.contains value target)
  | .greater => compare (fun x y => y.lt x) value target
  | .less => compare Binary64.lt value target
  | .isSet => .ok (!Answer.isBlank value)
  | .isEmpty => .ok (Answer.isBlank value)
  | .isBetween => isBetween value target
  | .inRange => Answer.inRange value target

/-- A rule with an operator that is not known never holds. -/
def rule (ev : Evaluator) (responses : Json) (r : Rule) : Except RuleFailure Bool := do
  match ← ev.operands responses r with
  | .unanswered => return Operator.ofWord? r.operator == some .isEmpty
  | .unresolved => return false
  | .pair value target =>
    match Operator.ofWord? r.operator with
    | none => return false
    | some op => (apply op value target).mapError fun _ => .tooLarge

/-- Why an item has no value. -/
inductive Offence where
  | empty (id : Option String)
  | rule (failure : RuleFailure)
deriving DecidableEq, Repr

def join : Connective → List Bool → Bool
  | .and, bs => bs.all id
  | .or, bs => bs.any id

mutual
def item (ev : Evaluator) (responses : Json) : Item → Except Offence Bool
  | .rule r => (ev.rule responses r).mapError .rule
  | .group id _ [] => .error (.empty id)
  | .group _ c (x :: xs) => (items ev responses (x :: xs)).map (join c)
/-- Every item is evaluated, in order, up to the first that has no value. -/
def items (ev : Evaluator) (responses : Json) : List Item → Except Offence (List Bool)
  | [] => .ok []
  | x :: xs => do
    let b ← item ev responses x
    let bs ← items ev responses xs
    return b :: bs
end

def Offence.error (root : Option String) : Offence → ConditionError
  | .empty id => .emptyGroup id
  | .rule f => .failed root f

def evaluate (ev : Evaluator) (responses : Json) (g : Group) : Except ConditionError Bool :=
  (ev.item responses g.toItem).mapError (Offence.error g.id)

/-- Evaluates a condition that was not yet read. -/
def evaluateRaw (ev : Evaluator) (responses : Json) : Json → Except ConditionError Bool
  | .null => .error (.emptyGroup none)
  | j =>
    match Group.ofJson j with
    | .error fs => .error (.malformed j fs)
    | .ok g => ev.evaluate responses g

/-- What is told of a rule that compares with an operator that is not known. -/
def ruleRecords (ev : Evaluator) (responses : Json) (r : Rule) : List Record :=
  match ev.operands responses r with
  | .ok (.pair ..) =>
    if r.known then []
    else [.debug .conditions s!"Unknown operator {Text.quoted r.operator} evaluates to False"]
  | _ => []

mutual
def itemRecords (ev : Evaluator) (responses : Json) : Item → List Record
  | .rule r => ev.ruleRecords responses r
  | .group _ _ xs => itemsRecords ev responses xs
/-- What is told of the items up to the first that has no value. -/
def itemsRecords (ev : Evaluator) (responses : Json) : List Item → List Record
  | [] => []
  | x :: xs =>
    itemRecords ev responses x ++
      if (ev.item responses x).isOk then itemsRecords ev responses xs else []
end

def records (ev : Evaluator) (responses : Json) (g : Group) : List Record :=
  ev.itemRecords responses g.toItem

end Evaluator
end Questionnaire
