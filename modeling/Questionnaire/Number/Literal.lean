import Questionnaire.Number.Binary64
import Questionnaire.Text.Blank
import Questionnaire.Text.Digit
/-!
Numbers written as text. A numeral has an optional sign, digits with an optional point, and an
optional power of ten; single underscores may stand between digits. The words for infinity and for
no number are read in any case.
-/

namespace Questionnaire.Literal

def natOfDigits (ds : List Char) : Nat := ds.foldl (fun n c => 10 * n + (c.toNat - 48)) 0

/-- The number nearest to `mant * 10 ^ e`. Beyond the bounds every number is infinite or zero. -/
def ofDecimal (negative : Bool) (mant : Nat) (e : Int) : Binary64 :=
  let top : Int := (Nat.toDigits 10 mant).length + e
  if mant = 0 ∨ top < -330 then .finite negative 0
  else if 310 < top then .infinite negative
  else if 0 ≤ e then Binary64.ofRatio negative (mant * Nat.pow 10 e.toNat) 1
  else Binary64.ofRatio negative mant (Nat.pow 10 e.natAbs)

/-- Drops underscores between digits; `none` if one stands elsewhere. -/
def joinDigits : Bool → List Char → Option (List Char)
  | _, [] => some []
  | _, ['_'] => none
  | afterDigit, '_' :: c :: cs =>
    if afterDigit && c.isDigit then (joinDigits true cs).map (c :: ·) else none
  | _, c :: cs => (joinDigits c.isDigit cs).map (c :: ·)

/-- The whole number of these digits, with its sign. -/
def signed (negative : Bool) (ds : List Char) : Int :=
  if negative then -natOfDigits ds else natOfDigits ds

def splitSign : List Char → Bool × List Char
  | '-' :: cs => (true, cs)
  | '+' :: cs => (false, cs)
  | cs => (false, cs)

/-- The power of ten after a mantissa; nothing may follow it. -/
def exponent? : List Char → Option Int
  | [] => some 0
  | c :: cs =>
    let (negative, ds) := splitSign cs
    if (c == 'e' || c == 'E') && !ds.isEmpty && ds.all Char.isDigit then
      some (signed negative ds)
    else none

/-- The digits after the point, if there is one, and what follows them. -/
def fraction : List Char → List Char × List Char
  | '.' :: cs => cs.span Char.isDigit
  | cs => ([], cs)

def unsigned? (negative : Bool) (cs : List Char) : Option Binary64 :=
  let word := String.ofList (cs.map Char.toLower)
  if word = "nan" then some .nan
  else if word = "inf" ∨ word = "infinity" then some (.infinite negative)
  else
    let (whole, rest) := cs.span Char.isDigit
    let (part, rest) := fraction rest
    if whole.isEmpty && part.isEmpty then none
    else (exponent? rest).map fun e =>
      ofDecimal negative (natOfDigits (whole ++ part)) (e - part.length)

/-- A numeral in plain digits, without underscores. -/
def plain? (cs : List Char) : Option Binary64 :=
  let (negative, rest) := splitSign cs
  unsigned? negative rest

/-- Digits of every script as plain ones. -/
def plainDigits (cs : List Char) : Option (List Char) :=
  cs.mapM fun c => match Text.digitValue? c with
    | some d => some (Char.ofNat (48 + d))
    | none => if c.toNat < 128 then some c else none

/-- A numeral in digits of any script, with white space around it. -/
def number? (s : String) : Option Binary64 :=
  ((plainDigits (Text.trimBy Text.isBlank s.toList)).bind (joinDigits false)).bind plain?

end Questionnaire.Literal
