import Questionnaire.Number.Binary64
/-!
The fewest decimal digits that read back as a given number. For each count of digits the two
neighbours of the number on that decimal grid are tried; the first count with a hit wins, and of two
hits the nearer one.
-/

namespace Questionnaire
namespace Shortest

/-- The value is `digits * 10 ^ exponent`. -/
structure Decimal where
  digits : Nat
  exponent : Int
deriving DecidableEq, Repr, Inhabited

/-- The numbers that round to a given one, in quarters of a unit. -/
structure Interval where
  low : Nat
  mid : Nat
  high : Nat
  closed : Bool

/-- Below a power of two the neighbours are twice as close. -/
def Interval.around (units : Nat) : Interval :=
  let step := Nat.pow 2 (Binary64.excess units)
  let below := if units = Nat.pow 2 52 * step ∧ 1 < step then step else 2 * step
  ⟨4 * units - below, 4 * units, 4 * units + 2 * step, units / step % 2 = 0⟩

/-- Is `n * size`, over the given scale, inside? -/
def Interval.holds (i : Interval) (scale point : Nat) : Bool :=
  if i.closed then i.low * scale ≤ point && point ≤ i.high * scale
  else i.low * scale < point && point < i.high * scale

/-- The grid of step `10 ^ e` as a step and a scale, both in quarters of a unit. -/
def grid (e : Int) : Nat × Nat :=
  if 0 ≤ e then (4 * Binary64.one * Nat.pow 10 e.toNat, 1)
  else (4 * Binary64.one, Nat.pow 10 e.natAbs)

/-- The better of the two neighbours on the grid of step `10 ^ e`, if one reads back. -/
def onGrid (i : Interval) (e : Int) : Option Decimal :=
  let (step, scale) := grid e
  let down := i.mid * scale / step
  let rest := i.mid * scale % step
  let low := i.holds scale (down * step)
  let high := i.holds scale ((down + 1) * step)
  let nearUp := 2 * rest > step || (2 * rest == step && down % 2 == 1)
  if low && high then some ⟨if nearUp then down + 1 else down, e⟩
  else if low then some ⟨down, e⟩
  else if high then some ⟨down + 1, e⟩
  else none

/-- The exponent `e` with `10 ^ (e - 1) ≤ x < 10 ^ e`, found from the size in bits. -/
def magnitude (units : Nat) : Int :=
  let guess : Int := ((units.log2 : Int) - 1074) * 30103 / 100000
  let above (e : Int) : Bool :=
    if 0 ≤ e then units < Nat.pow 10 e.toNat * Binary64.one
    else units * Nat.pow 10 e.natAbs < Binary64.one
  if above (guess - 1) then guess - 1
  else if above guess then guess
  else if above (guess + 1) then guess + 1
  else guess + 2

/-- Drops zeros at the end of the digits. -/
def Decimal.trim : Nat → Decimal → Decimal
  | 0, d => d
  | n + 1, d =>
    if d.digits % 10 = 0 ∧ d.digits ≠ 0 then trim n ⟨d.digits / 10, d.exponent + 1⟩ else d

/-- The shortest decimal that reads back as this many units; seventeen digits always do. -/
def ofUnits (units : Nat) : Decimal :=
  let i := Interval.around units
  let top := magnitude units
  let found := (List.range 17).findSome? fun (n : Nat) => onGrid i (top - (n + 1))
  (found.getD ⟨0, 0⟩).trim 20

/-- How a decimal is written: positionally for exponents from `least` up to `most`, else with an
exponent of at least two digits. -/
structure Layout where
  least : Int
  most : Int

/-- The layout of every number text. -/
def layout : Layout := ⟨-4, 16⟩

def zeros (n : Int) : String := String.ofList (List.replicate n.toNat '0')

def write (d : Decimal) : String :=
  let digits := Nat.toDigits 10 d.digits
  let point : Int := digits.length + d.exponent
  if layout.least ≤ point - 1 ∧ point - 1 < layout.most then
    if point ≤ 0 then "0." ++ zeros (-point) ++ String.ofList digits
    else if (digits.length : Int) ≤ point then String.ofList digits ++ zeros d.exponent ++ ".0"
    else String.ofList (digits.take point.toNat) ++ "." ++ String.ofList (digits.drop point.toNat)
  else
    let head := String.ofList (digits.take 1)
    let tail := if digits.length ≤ 1 then "" else "." ++ String.ofList (digits.drop 1)
    let e := (point - 1).natAbs
    let sign := if point - 1 < 0 then "-" else "+"
    head ++ tail ++ "e" ++ sign ++ (if e < 10 then "0" else "") ++ toString e

end Shortest

/-- The text of a number: the fewest digits that read back, always with a point or an exponent. -/
def Binary64.text : Binary64 → String
  | .nan => "nan"
  | .infinite s => if s then "-inf" else "inf"
  | .finite s u =>
    (if s then "-" else "") ++ if u = 0 then "0.0" else Shortest.write (Shortest.ofUnits u)

end Questionnaire
