/-!
Double-precision numbers as exact values. A finite number is a whole multiple of the least positive
one, 2^-1074, so order and integrality are questions about integers and no operation rounds except
`ofRatio`, which rounds to nearest with ties to even.
-/

namespace Questionnaire

inductive Binary64 where
  | nan
  | infinite (negative : Bool)
  | finite (negative : Bool) (units : Nat)
deriving DecidableEq, Repr, Inhabited

namespace Binary64

/-- How many units make one. -/
def one : Nat := Nat.pow 2 1074

/-- The first number of units that is too large to be finite. -/
def limit : Nat := Nat.pow 2 2098

def zero : Binary64 := .finite false 0

/-- The bits of `q` that a 53-bit significand cannot hold. -/
def excess (q : Nat) : Nat := q.log2 - 52

/-- The representable number of units nearest to `num / den`; a tie goes to the even significand. -/
def nearest (num den : Nat) : Nat :=
  let q := num / den
  let step := Nat.pow 2 (excess q)
  let kept := q / step
  let rest := 2 * (q % step * den + num % den)
  let up := rest > step * den || (rest == step * den && kept % 2 == 1)
  (if up then kept + 1 else kept) * step

def ofUnits (negative : Bool) (units : Nat) : Binary64 :=
  if units < limit then .finite negative units else .infinite negative

/-- The number nearest to `num / den`. -/
def ofRatio (negative : Bool) (num den : Nat) : Binary64 :=
  ofUnits negative (nearest (num * one) den)

def finite? : Binary64 → Option Binary64
  | .finite s u => some (.finite s u)
  | _ => none

/-- `none` when the nearest number is not finite. -/
def ofInt? (n : Int) : Option Binary64 := (ofRatio (n < 0) n.natAbs 1).finite?

/-- The signed number of units; zero where there is none. -/
def value : Binary64 → Int
  | .finite false u => u
  | .finite true u => -u
  | _ => 0

def isNaN (x : Binary64) : Bool := x matches .nan

def isFinite (x : Binary64) : Bool := x matches .finite ..

/-- Order of the extended line; nothing compares with `nan`, and the two zeros are equal. -/
def le : Binary64 → Binary64 → Bool
  | .nan, _ | _, .nan => false
  | .infinite true, _ | _, .infinite false => true
  | .infinite false, _ | _, .infinite true => false
  | x@(.finite ..), y@(.finite ..) => x.value ≤ y.value

def lt (x y : Binary64) : Bool := le x y && !le y x

def eq (x y : Binary64) : Bool := le x y && le y x

/-- The integer that a finite number without fraction is. -/
def toInt? : Binary64 → Option Int
  | .finite s u =>
    if u % one = 0 then some (if s then -(u / one : Nat) else (u / one : Nat)) else none
  | _ => none

end Binary64
end Questionnaire
