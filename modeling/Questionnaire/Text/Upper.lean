import Questionnaire.Text.UpperTable
/-!
Upper case of a text, character by character.
-/

namespace Questionnaire.Text

def upperChar (c : Char) : List Char :=
  match upperExpansions.lookup c.toNat with
  | some ns => ns.map Char.ofNat
  | none => match moved? upperRuns c.toNat with
    | some n => [Char.ofNat n]
    | none => [c]

def upper (s : String) : String := String.ofList (s.toList.flatMap upperChar)

end Questionnaire.Text
