import Questionnaire.Text.LowerTable
/-!
Lower case of a text. Each character is mapped on its own, except that a capital sigma at the end of
a word becomes the final form, and that the dotted capital I becomes two characters.
-/

namespace Questionnaire.Text

def lowerChar (c : Char) : List Char :=
  if c.toNat = 0x130 then ['i', Char.ofNat 0x307]
  else match moved? lowerRuns c.toNat with
    | some n => [Char.ofNat n]
    | none => [c]

/-- Is the first character that is not passed over a letter with case? -/
def metCased (cs : List Char) : Bool :=
  match cs.dropWhile (fun c => inRanges passedOverRanges c.toNat) with
  | [] => false
  | c :: _ => inRanges casedRanges c.toNat

/-- `before` holds what precedes, nearest first. -/
def lowerFrom (before : List Char) : List Char → List Char
  | [] => []
  | c :: cs =>
    (if c = 'Σ' then [if metCased before && !metCased cs then 'ς' else 'σ'] else lowerChar c)
      ++ lowerFrom (c :: before) cs

def lower (s : List Char) : List Char := lowerFrom [] s

end Questionnaire.Text
