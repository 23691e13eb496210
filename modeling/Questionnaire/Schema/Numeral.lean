import Questionnaire.Number.Literal
/-!
Numerals in documents: numbers given as text where a number was expected. White space may be around
them, and underscores among their digits; a whole number may have zeros in front and a fraction of
zeros behind.
-/

namespace Questionnaire.Numeral

/-- White space around a numeral; fewer characters than elsewhere count. -/
def isMargin (c : Char) : Bool := Text.isBlank c && !(0x1C ≤ c.toNat && c.toNat ≤ 0x1F)

def trim (s : String) : List Char := Text.trimBy isMargin s.toList

/-- Do two underscores stand side by side? -/
def hasDouble : List Char → Bool
  | '_' :: '_' :: _ => true
  | _ :: cs => hasDouble cs
  | [] => false

/-- Without underscores; `none` if one stands at an end or beside another. -/
def joined? (cs : List Char) : Option (List Char) :=
  if cs.head? = some '_' ∨ cs.getLast? = some '_' ∨ hasDouble cs then none
  else some (cs.filter (· != '_'))

/-- The number of a text. There may be white space around it or underscores in it, not both. -/
def number? (s : String) : Option Binary64 :=
  (Literal.plain? (trim s)).or ((joined? s.toList).bind Literal.plain?)

/-- Drops zeros from the front, and underscores between them; the last character stays, and so does
a zero before a point. `none` where something else than a digit or a sign comes first. -/
def dropZeros? : List Char → Option (List Char)
  | '0' :: cs => behindZero cs
  | c :: cs => if c.isDigit || c == '-' then some (c :: cs) else none
  | [] => none
where
  /-- What is left of the characters behind a zero. -/
  behindZero : List Char → Option (List Char)
    | [] => some ['0']
    | ['_'] => some ['_']
    | '.' :: cs => some ('0' :: '.' :: cs)
    | '_' :: '.' :: cs => some ('_' :: '.' :: cs)
    | c :: cs =>
      if c == '0' || c == '_' then behindZero cs
      else if c.isDigit || c == '-' then some (c :: cs)
      else none

/-- Cuts a point off that has zeros behind it, at least one and nothing else. -/
def cutFraction (cs : List Char) : List Char :=
  let (whole, rest) := cs.span (· != '.')
  match rest with
  | _ :: zeros => if !zeros.isEmpty && zeros.all (· == '0') then whole else cs
  | [] => cs

/-- A whole number in digits alone, with a minus in front or nothing. -/
def signed? (cs : List Char) : Option Int :=
  let (negative, ds) := match cs with
    | '-' :: ds => (true, ds)
    | ds => (false, ds)
  if !ds.isEmpty && ds.all Char.isDigit then some (Literal.signed negative ds) else none

/-- The most characters that a whole number can have. -/
def sizeLimit : Nat := 4300

inductive WholeError where
  | unread
  | tooLong
deriving DecidableEq, Repr

/-- The whole number of a text. A plus in front counts for nothing. -/
def whole (s : String) : Except WholeError Int :=
  let unsigned? := match trim s with
    | '+' :: '-' :: _ => none
    | '+' :: cs => some cs
    | cs => some cs
  match (unsigned?.bind dropZeros?).map cutFraction with
  | none => .error .unread
  | some cs =>
    let ds := (joined? cs).getD cs
    if sizeLimit < ds.length then .error .tooLong
    else (signed? ds).elim (.error .unread) .ok

end Questionnaire.Numeral
