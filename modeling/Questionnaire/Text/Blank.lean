/-!
White space of every script, and text without it at its ends or with each stretch of it folded to
one plain space.
-/

namespace Questionnaire.Text

def isBlank (c : Char) : Bool :=
  let n := c.toNat
  9 ≤ n && n ≤ 13 || 0x1C ≤ n && n ≤ 0x20 || n == 0x85 || n == 0xA0 || n == 0x1680 ||
    0x2000 ≤ n && n ≤ 0x200A || n == 0x2028 || n == 0x2029 || n == 0x202F || n == 0x205F ||
    n == 0x3000

/-- Without the leading and trailing characters of a class. -/
def trimBy (p : Char → Bool) (cs : List Char) : List Char :=
  ((cs.dropWhile p).reverse.dropWhile p).reverse

def trim (s : String) : String := String.ofList (trimBy isBlank s.toList)

def allBlank (s : String) : Bool := s.toList.all isBlank

/-- Folds the gaps between words to one space; `gap` says that white space was just read. -/
def foldGaps : Bool → List Char → List Char
  | _, [] => []
  | gap, c :: cs =>
    if isBlank c then foldGaps true cs
    else if gap then ' ' :: c :: foldGaps false cs
    else c :: foldGaps false cs

/-- The words joined by one space, with none at the ends. -/
def squeeze (cs : List Char) : List Char := foldGaps false (cs.dropWhile isBlank)

end Questionnaire.Text
