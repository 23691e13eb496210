/-!
Sets of characters and maps between characters, as ordered ranges of code points. A search stops at
the first range that starts beyond the character.
-/

namespace Questionnaire.Text

/-- Is `n` in one of the ranges, given in rising order? -/
def inRanges : List (Nat × Nat) → Nat → Bool
  | [], _ => false
  | (first, last) :: rest, n => if n < first then false else n ≤ last || inRanges rest n

/-- The code points `first, first + step, …, last`, each moved by `shift`. -/
structure Run where
  first : Nat
  last : Nat
  step : Nat
  shift : Int

def Run.covers (r : Run) (n : Nat) : Bool :=
  r.first ≤ n && n ≤ r.last && (n - r.first) % r.step == 0

/-- Where the runs, given in rising order, move `n`. -/
def moved? : List Run → Nat → Option Nat
  | [], _ => none
  | r :: rest, n =>
    if n < r.first then none
    else if r.covers n then some (n + r.shift).toNat
    else moved? rest n

end Questionnaire.Text
