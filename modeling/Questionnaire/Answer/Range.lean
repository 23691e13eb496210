import Questionnaire.Answer.Value
/-!
Lists of ranges such as "1-5, 10, other": items between commas, each a range of two numerals, a
number, or another text. The first dash after a numeral stands between the two of a range, so a
second one is a sign.
-/

namespace Questionnaire.Answer

/-- The texts between commas. -/
def commaParts : List Char → List (List Char)
  | [] => [[]]
  | c :: cs =>
    if c = ',' then [] :: commaParts cs
    else match commaParts cs with
      | [] => [[c]]
      | w :: ws => (c :: w) :: ws

/-- A point and digits behind it, where both are there. -/
def takeFraction (cs : List Char) : List Char × List Char :=
  match cs with
  | '.' :: d :: rest =>
    if Text.isDigit d then
      let (ds, after) := rest.span Text.isDigit
      ('.' :: d :: ds, after)
    else ([], cs)
  | _ => ([], cs)

/-- A numeral of an optional minus, digits and an optional fraction, and what follows it. -/
def takeNumeral? (cs : List Char) : Option (List Char × List Char) :=
  let (sign, body) := match cs with
    | '-' :: rest => (['-'], rest)
    | _ => ([], cs)
  let (ds, rest) := body.span Text.isDigit
  if ds.isEmpty then none
  else
    let (fraction, rest) := takeFraction rest
    some (sign ++ ds ++ fraction, rest)

/-- The two numerals of a range. -/
def rangeParts? (cs : List Char) : Option (List Char × List Char) :=
  (takeNumeral? cs).bind fun (low, rest) =>
    match rest.dropWhile Text.isBlank with
    | '-' :: rest =>
      (takeNumeral? (rest.dropWhile Text.isBlank)).bind fun (high, rest) =>
        if rest.isEmpty then some (low, high) else none
    | _ => none

inductive RangeItem where
  | range (low high : Option Binary64)
  | number (x : Binary64) (text : String)
  | word (text : String)
deriving DecidableEq, Repr

namespace RangeItem

/-- The item that a text without white space around it is. -/
def ofToken (cs : List Char) : RangeItem :=
  let s := String.ofList cs
  match rangeParts? cs with
  | some (low, high) =>
    .range (Literal.number? (String.ofList low)) (Literal.number? (String.ofList high))
  | none =>
    match (Literal.number? s).filter (!·.isNaN) with
    | some x => .number x (normal s)
    | none => .word (normal s)

/-- Does the item accept an answer with this number and this text? -/
def accepts (number? : Option Binary64) (text : String) : RangeItem → Bool
  | .range (some low) (some high) => number?.any fun x => low.le x && x.le high
  | .range _ _ => false
  | .number y t => number?.elim (text == t) fun x => x.eq y
  | .word t => text == t

end RangeItem

/-- The items of a list; those of white space only are none. -/
def rangeItems (s : String) : List RangeItem :=
  (((commaParts s.toList).map (Text.trimBy Text.isBlank)).filter (!·.isEmpty)).map RangeItem.ofToken

def inRange (value : Json) : Json → Except TooLarge Bool
  | .str s => do
    let x ← number value
    return (rangeItems s).any (RangeItem.accepts x (normalText value))
  | _ => .ok false

end Questionnaire.Answer
