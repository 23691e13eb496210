import Questionnaire.Condition.Basic
import Questionnaire.Json.Text
import Questionnaire.Schema.Part
/-!
Conditions as documents. Older documents name the items of a group "rules" and leave out the type of
an item; an item with items of its own is then a group. What is written has one form only.
-/

namespace Questionnaire

namespace Rule

abbrev Fields := Option String × String × Option String × String × Json × Source

/-- The fields of a rule besides its type. -/
def part : Part Rule :=
  .as (β := Rule)
    (.both (.field (.plain "id") (.optional .string) none) <|
     .both (.required (.plain "field") .string) <|
     .both (.field ⟨"subField", "sub_field"⟩ (.optional .string) none) <|
     .both (.required (.plain "operator") .string) <|
     .both (.field (.plain "value") .any .null)
      (.field ⟨"valueType", "value_type"⟩
        (.oneOf ["static", "variable"] Source.ofWord? Source.word) .static))
    (fun (id, field, subField, operator, value, source) =>
      ⟨id, field, subField, operator, value, source⟩)
    (fun r => (r.id, r.field, r.subField, r.operator, r.value, r.source))

end Rule

namespace Group

/-- The items are read apart. -/
def headPart : Part (Option String × Connective) :=
  .both (.field (.plain "id") (.optional .string) none)
    (.field ⟨"logicType", "logic_type"⟩
      (.oneOf ["AND", "OR"] Connective.ofWord? Connective.word) .and)

end Group

/-- The type, where it is given, must be the expected word. -/
def checkWord (word : String) (es : Entries) : Checked Unit :=
  match es.lookup "type" with
  | none => .ok ()
  | some v => if v = .str word then .ok () else (Checked.fault (.notWord word)).within (.key "type")

namespace Rule

def ofEntries (es : Entries) : Checked Rule :=
  .both (fun _ r => r) (checkWord "rule" es) (part.read es)

def ofJson : Json → Checked Rule
  | .obj es => ofEntries es
  | _ => Checked.fault (.notRecord "LogicRule")

end Rule

namespace Item

/-- The name under which a group's entries hold its items. -/
def itemsKey (es : Entries) : String :=
  if (es.lookup "children").isNone && (es.lookup "rules").isSome then "rules" else "children"

inductive Tag where
  | rule
  | group
  | other (text : String)

/-- An item that gives no type is a group when it names items. -/
def tag (es : Entries) : Tag :=
  match es.lookup "type" with
  | some (.str "group") => .group
  | some (.str "rule") => .rule
  | some v => .other v.text
  | none => if (es.lookup "children").isSome || (es.lookup "rules").isSome then .group else .rule

end Item

namespace Group

/-- A group from its entries and its items, which were read already. -/
def assemble (es : Entries) (items : Checked (List Item)) : Checked Group :=
  .both (fun (id, connective) items => ⟨id, connective, items⟩)
    (.both (fun _ head => head) (checkWord "group" es) (headPart.read es)) items

end Group

namespace Item

mutual
/-- The items among these entries, under the given name. -/
def itemsAt (name : String) : List (String × Json) → Checked (List Item)
  | [] => .ok []
  | (k, v) :: es => if k = name then (ofList v).within (.key "children") else itemsAt name es
def ofList : Json → Checked (List Item)
  | .arr xs => ofAll 0 xs
  | _ => Checked.fault .notList
def ofAll (i : Nat) : List Json → Checked (List Item)
  | [] => .ok []
  | x :: xs => .both List.cons ((ofJson x).within (.index i)) (ofAll (i + 1) xs)
def ofJson : Json → Checked Item
  | .obj es =>
    match tag es with
    | .rule => Checked.within (.key "rule") ((Rule.ofEntries es).map .rule)
    | .group =>
      Checked.within (.key "group")
        ((Group.assemble es (itemsAt (itemsKey es) es)).map Group.toItem)
    | .other t => Checked.fault (.unknownTag t ["group", "rule"])
  | _ => Checked.fault .untaggable
end

end Item

namespace Group

def ofJson : Json → Checked Group
  | .obj es => assemble es (Item.itemsAt (Item.itemsKey es) es)
  | _ => Checked.fault (.notRecord "LogicGroup")

end Group

namespace Item

mutual
def toJson : Item → Json
  | .rule r => .obj (("type", .str "rule") :: Rule.part.write r)
  | .group id connective xs =>
    .obj (("type", .str "group") :: Group.headPart.write (id, connective)
      ++ [("children", .arr (toJsonAll xs))])
def toJsonAll : List Item → List Json
  | [] => []
  | x :: xs => toJson x :: toJsonAll xs
end

end Item

def Group.toJson (g : Group) : Json := g.toItem.toJson

/-- A condition as a field of a larger document. -/
def Shape.condition : Shape Group := { read := Group.ofJson, write := Group.toJson }

end Questionnaire
