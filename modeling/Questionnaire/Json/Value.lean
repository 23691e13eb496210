import Questionnaire.Number.Binary64
/-!
Documents: what design files, answers and stored graphs are made of. Whole numbers are kept apart
from the others, and an object keeps its entries in the order in which they were written.
-/

namespace Questionnaire

inductive Json where
  | null
  | bool (b : Bool)
  | int (n : Int)
  | num (x : Binary64)
  | str (s : String)
  | arr (items : List Json)
  | obj (entries : List (String × Json))
deriving Repr, Inhabited

/-- The entries of an object. -/
abbrev Entries := List (String × Json)

namespace Json

mutual
def decEq : (a b : Json) → Decidable (a = b)
  | .null, .null => isTrue rfl
  | .bool a, .bool b => if h : a = b then isTrue (by rw [h]) else isFalse (by simp [h])
  | .int a, .int b => if h : a = b then isTrue (by rw [h]) else isFalse (by simp [h])
  | .num a, .num b => if h : a = b then isTrue (by rw [h]) else isFalse (by simp [h])
  | .str a, .str b => if h : a = b then isTrue (by rw [h]) else isFalse (by simp [h])
  | .arr a, .arr b => match decEqItems a b with
    | isTrue h => isTrue (by rw [h])
    | isFalse h => isFalse (by simp [h])
  | .obj a, .obj b => match decEqEntries a b with
    | isTrue h => isTrue (by rw [h])
    | isFalse h => isFalse (by simp [h])
  | .null, .bool _ | .null, .int _ | .null, .num _ | .null, .str _ | .null, .arr _ | .null, .obj _
  | .bool _, .null | .bool _, .int _ | .bool _, .num _ | .bool _, .str _ | .bool _, .arr _
  | .bool _, .obj _
  | .int _, .null | .int _, .bool _ | .int _, .num _ | .int _, .str _ | .int _, .arr _
  | .int _, .obj _
  | .num _, .null | .num _, .bool _ | .num _, .int _ | .num _, .str _ | .num _, .arr _
  | .num _, .obj _
  | .str _, .null | .str _, .bool _ | .str _, .int _ | .str _, .num _ | .str _, .arr _
  | .str _, .obj _
  | .arr _, .null | .arr _, .bool _ | .arr _, .int _ | .arr _, .num _ | .arr _, .str _
  | .arr _, .obj _
  | .obj _, .null | .obj _, .bool _ | .obj _, .int _ | .obj _, .num _ | .obj _, .str _
  | .obj _, .arr _ => isFalse (by simp)
def decEqItems : (a b : List Json) → Decidable (a = b)
  | [], [] => isTrue rfl
  | [], _ :: _ | _ :: _, [] => isFalse (by simp)
  | x :: xs, y :: ys => match decEq x y, decEqItems xs ys with
    | isTrue h, isTrue h' => isTrue (by rw [h, h'])
    | isFalse h, _ => isFalse (by simp [h])
    | _, isFalse h => isFalse (by simp [h])
def decEqEntries : (a b : List (String × Json)) → Decidable (a = b)
  | [], [] => isTrue rfl
  | [], _ :: _ | _ :: _, [] => isFalse (by simp)
  | (k, x) :: xs, (l, y) :: ys =>
    if hk : k = l then
      match decEq x y, decEqEntries xs ys with
      | isTrue h, isTrue h' => isTrue (by rw [hk, h, h'])
      | isFalse h, _ => isFalse (by simp [h])
      | _, isFalse h => isFalse (by simp [h])
    else isFalse (by simp [hk])
end

instance : DecidableEq Json := decEq

/-- Null, false, zero and whatever is empty do not count as given. -/
def isGiven : Json → Bool
  | .null => false
  | .bool b => b
  | .int n => n != 0
  | .num (.finite _ u) => u != 0
  | .num _ => true
  | .str s => !s.isEmpty
  | .arr xs => !xs.isEmpty
  | .obj es => !es.isEmpty

/-- The entry of an object; `none` where there is none. -/
def get? (j : Json) (key : String) : Option Json :=
  match j with
  | .obj es => es.lookup key
  | _ => none

/-- The entry of an object, null where there is none. -/
def getD (j : Json) (key : String) : Json := (j.get? key).getD .null

def isNull : Json → Bool
  | .null => true
  | _ => false

mutual
/-- The document with null for every number in it that is not finite. -/
def finite : Json → Json
  | .num x => if x.isFinite then .num x else .null
  | .arr xs => .arr (finiteItems xs)
  | .obj es => .obj (finiteEntries es)
  | j => j
def finiteItems : List Json → List Json
  | [] => []
  | x :: xs => finite x :: finiteItems xs
def finiteEntries : List (String × Json) → List (String × Json)
  | [] => []
  | (k, v) :: es => (k, finite v) :: finiteEntries es
end

def ofOption (f : α → Json) : Option α → Json
  | none => .null
  | some a => f a

/-- The names of the kinds of value. -/
def kindName : Json → String
  | .null => "NoneType"
  | .bool _ => "bool"
  | .int _ => "int"
  | .num _ => "float"
  | .str _ => "str"
  | .arr _ => "list"
  | .obj _ => "dict"

end Json
end Questionnaire
