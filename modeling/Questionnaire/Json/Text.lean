import Questionnaire.Json.Value
import Questionnaire.Number.Shortest
import Questionnaire.Text.Quoted
/-!
Documents as they are quoted in messages and compared as text: lists in square brackets, objects in
braces, strings in quotes.
-/

namespace Questionnaire.Json

mutual
def shown : Json → String
  | .null => "None"
  | .bool b => if b then "True" else "False"
  | .int n => toString n
  | .num x => x.text
  | .str s => Text.quoted s
  | .arr xs => "[" ++ ", ".intercalate (shownItems xs) ++ "]"
  | .obj es => "\x7b" ++ ", ".intercalate (shownEntries es) ++ "\x7d"
def shownItems : List Json → List String
  | [] => []
  | x :: xs => shown x :: shownItems xs
def shownEntries : List (String × Json) → List String
  | [] => []
  | (k, v) :: es => (Text.quoted k ++ ": " ++ shown v) :: shownEntries es
end

/-- A string stands for itself; all else is shown. -/
def text : Json → String
  | .str s => s
  | v => v.shown

end Questionnaire.Json
