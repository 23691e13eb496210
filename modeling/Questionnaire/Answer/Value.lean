import Questionnaire.Json.Text
import Questionnaire.Number.Literal
import Questionnaire.Text.Lower
/-!
How answers are compared: as text without regard to case, kind of quotation mark or white space, and
as numbers where they are numbers.
-/

namespace Questionnaire.Answer

/-- Curly quotation marks become straight ones. -/
def straighten (c : Char) : Char :=
  if c = '‘' ∨ c = '’' then '\'' else if c = '“' ∨ c = '”' then '"' else c

def normalChars (cs : List Char) : List Char := Text.lower (Text.squeeze (cs.map straighten))

def normal (s : String) : String := String.ofList (normalChars s.toList)

/-- The text of a value: nothing for null, and no point for a number without fraction. -/
def plainText : Json → String
  | .null => ""
  | .bool b => if b then "true" else "false"
  | .num x =>
    match x.toInt? with
    | some n => toString n
    | none => x.text
  | v => v.text

/-- The text by which a value is compared. -/
def normalText (v : Json) : String := normal (plainText v)

/-- The answer inside a richer one. -/
def unwrap : Json → Json
  | .obj es => (es.lookup "answer").getD (.obj es)
  | v => v

/-- A whole number beyond all finite numbers. -/
structure TooLarge where
deriving DecidableEq, Repr

/-- The number that an answer is, if it is one. -/
def number : Json → Except TooLarge (Option Binary64)
  | .bool b => .ok (some (Literal.ofDecimal false (if b then 1 else 0) 0))
  | .int n => (Binary64.ofInt? n).elim (.error ⟨⟩) fun x => .ok (some x)
  | .num x => .ok (if x.isNaN then none else some x)
  | .str s => .ok ((Literal.number? s).filter (!·.isNaN))
  | _ => .ok none

def isBlank : Json → Bool
  | .null => true
  | .str s => Text.allBlank s
  | .arr xs => xs.isEmpty
  | .obj es => es.isEmpty
  | _ => false

/-- Does one text stand somewhere in another? -/
def isWithin (part : List Char) : List Char → Bool
  | [] => part.isEmpty
  | c :: cs => part.isPrefixOf (c :: cs) || isWithin part cs

/-- Equal as text; a list of answers matches when one of them does. -/
def isMatch (value target : Json) : Bool :=
  match value with
  | .arr xs => xs.any fun x => normalText x == normalText target
  | v => normalText v == normalText target

def contains (value target : Json) : Bool :=
  match value with
  | .arr xs => isMatch (.arr xs) target
  | v => isWithin (normalText target).toList (normalText v).toList

end Questionnaire.Answer
