import Questionnaire.Json.Value
/-!
Conditions: trees of groups and rules. A group joins its items with "and" or "or"; a rule compares
one answer with a fixed value or with another answer.
-/

namespace Questionnaire

inductive Operator where
  | equals
  | notEquals
  | contains
  | notContains
  | greater
  | less
  | isSet
  | isEmpty
  | isBetween
  | inRange
deriving DecidableEq, Repr

def Operator.all : List Operator :=
  [.equals, .notEquals, .contains, .notContains, .greater, .less, .isSet, .isEmpty, .isBetween,
    .inRange]

def Operator.word : Operator → String
  | .equals => "equals"
  | .notEquals => "not_equals"
  | .contains => "contains"
  | .notContains => "not_contains"
  | .greater => "gt"
  | .less => "lt"
  | .isSet => "is_set"
  | .isEmpty => "is_empty"
  | .isBetween => "is_between"
  | .inRange => "in_range"

def Operator.ofWord? (w : String) : Option Operator := Operator.all.find? (·.word == w)

/-- What a rule's value is: itself, or the id of a node whose answer is meant. -/
inductive Source where
  | static
  | «variable»
deriving DecidableEq, Repr

def Source.word : Source → String
  | .static => "static"
  | .variable => "variable"

def Source.ofWord? (w : String) : Option Source := [Source.static, .variable].find? (·.word == w)

/-- The operator is any word, so that conditions with operators not known here can be kept. -/
structure Rule where
  id : Option String
  field : String
  subField : Option String
  operator : String
  value : Json
  source : Source
deriving DecidableEq, Repr

inductive Connective where
  | and
  | or
deriving DecidableEq, Repr

def Connective.word : Connective → String
  | .and => "AND"
  | .or => "OR"

def Connective.ofWord? (w : String) : Option Connective :=
  [Connective.and, .or].find? (·.word == w)

inductive Item where
  | rule (r : Rule)
  | group (id : Option String) (connective : Connective) (items : List Item)
deriving Repr

structure Group where
  id : Option String
  connective : Connective
  items : List Item
deriving Repr

namespace Item

mutual
def decEq : (a b : Item) → Decidable (a = b)
  | .rule a, .rule b => if h : a = b then isTrue (by rw [h]) else isFalse (by simp [h])
  | .group i c xs, .group j d ys =>
    if h : i = j ∧ c = d then
      match decEqAll xs ys with
      | isTrue h' => isTrue (by rw [h.1, h.2, h'])
      | isFalse h' => isFalse (by simp [h'])
    else isFalse (by simp only [Item.group.injEq]; exact fun e => h ⟨e.1, e.2.1⟩)
  | .rule _, .group .. | .group .., .rule _ => isFalse (by simp)
def decEqAll : (a b : List Item) → Decidable (a = b)
  | [], [] => isTrue rfl
  | [], _ :: _ | _ :: _, [] => isFalse (by simp)
  | x :: xs, y :: ys => match decEq x y, decEqAll xs ys with
    | isTrue h, isTrue h' => isTrue (by rw [h, h'])
    | isFalse h, _ => isFalse (by simp [h])
    | _, isFalse h => isFalse (by simp [h])
end

instance : DecidableEq Item := decEq

mutual
/-- The rules, depth first. -/
def rules : Item → List Rule
  | .rule r => [r]
  | .group _ _ xs => rulesAll xs
def rulesAll : List Item → List Rule
  | [] => []
  | x :: xs => rules x ++ rulesAll xs
end

mutual
/-- The groups, each before those inside it. -/
def groups : Item → List Group
  | .rule _ => []
  | .group i c xs => ⟨i, c, xs⟩ :: groupsAll xs
def groupsAll : List Item → List Group
  | [] => []
  | x :: xs => groups x ++ groupsAll xs
end

end Item

deriving instance DecidableEq for Group

namespace Rule

def known (r : Rule) : Bool := (Operator.ofWord? r.operator).isSome

/-- The node ids whose answers the rule reads. -/
def fields (r : Rule) : List String :=
  match r.source, r.value with
  | .variable, .str s => if s.isEmpty then [r.field] else [r.field, s]
  | _, _ => [r.field]

end Rule

namespace Group

def toItem (g : Group) : Item := .group g.id g.connective g.items

def isEmpty (g : Group) : Bool := g.items.isEmpty

def rules (g : Group) : List Rule := Item.rulesAll g.items

/-- The group itself and every group inside it, depth first. -/
def groups (g : Group) : List Group := g :: Item.groupsAll g.items

/-- Every value once, where it first comes, without those seen before. -/
def unseen : (seen : List String) → List String → List String
  | _, [] => []
  | seen, x :: xs => if seen.contains x then unseen seen xs else x :: unseen (x :: seen) xs

theorem mem_unseen {x : String} {seen xs : List String} :
    x ∈ unseen seen xs ↔ x ∈ xs ∧ x ∉ seen := by
  induction xs generalizing seen with
  | nil => simp [unseen]
  | cons y ys ih =>
    by_cases hs : y ∈ seen
    · rw [unseen, if_pos (List.contains_iff_mem.2 hs), ih, List.mem_cons]
      constructor
      · exact fun h => ⟨.inr h.1, h.2⟩
      · rintro ⟨rfl | h, hn⟩
        · exact absurd hs hn
        · exact ⟨h, hn⟩
    · rw [unseen, if_neg (fun h => hs (List.contains_iff_mem.1 h)), List.mem_cons, ih,
        List.mem_cons]
      by_cases hx : x = y
      · subst hx
        simp [hs]
      · simp [hx]

theorem nodup_unseen (seen xs : List String) : (unseen seen xs).Nodup := by
  induction xs generalizing seen with
  | nil => exact List.nodup_nil
  | cons y ys ih =>
    rw [unseen]
    split
    · exact ih seen
    · exact List.nodup_cons.2 ⟨fun h => (mem_unseen.1 h).2 List.mem_cons_self, ih _⟩

/-- The node ids that the group depends on, in the order in which they are first named. -/
def fields (g : Group) : List String := unseen [] (g.rules.flatMap Rule.fields)

end Group
end Questionnaire
