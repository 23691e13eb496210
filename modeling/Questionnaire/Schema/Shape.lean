import Questionnaire.Schema.Checked
import Questionnaire.Schema.Numeral
/-!
Shapes of single values: how a value of a type is read from a document and written into one. Reading
is lenient: a number may be given as text, and a truth value as a word or as zero or one.
-/

namespace Questionnaire

structure Shape (α : Type) where
  read : Json → Checked α
  write : α → Json
  /-- Values for which a field is not written. -/
  isAbsent : α → Bool := fun _ => false

namespace Shape

variable {α : Type}

def string : Shape String where
  read
    | .str s => .ok s
    | _ => Checked.fault .notString
  write := .str

def falseWords : List String := ["0", "off", "f", "false", "n", "no"]
def trueWords : List String := ["1", "on", "t", "true", "y", "yes"]

/-- Whole numbers from here on are too large to stand for something else. -/
def wordLimit : Int := 0x8000000000000000

/-- The whole number that a number without fraction is. -/
def wholeOf (x : Binary64) : Checked Int :=
  match x with
  | .finite .. =>
    match x.toInt? with
    | some n => if -wordLimit < n ∧ n < wordLimit then .ok n else Checked.fault .intTooLarge
    | none => Checked.fault .intFraction
  | _ => Checked.fault .notFinite

def boolOfInt (n : Int) : Checked Bool :=
  if n = 0 then .ok false
  else if n = 1 then .ok true
  else if -wordLimit ≤ n ∧ n < wordLimit then Checked.fault .boolUnread
  else Checked.fault .notBool

def readBool : Json → Checked Bool
  | .bool b => .ok b
  | .int n => boolOfInt n
  | .num x =>
    match wholeOf x with
    | .ok n => boolOfInt n
    | .error _ => Checked.fault .notBool
  | .str s =>
    let w := String.ofList (s.toList.map Char.toLower)
    if falseWords.contains w then .ok false
    else if trueWords.contains w then .ok true
    else Checked.fault .boolUnread
  | _ => Checked.fault .notBool

def bool : Shape Bool := { read := readBool, write := .bool }

def readInt : Json → Checked Int
  | .int n => .ok n
  | .bool b => .ok (if b then 1 else 0)
  | .num x => wholeOf x
  | .str s =>
    match Numeral.whole s with
    | .ok n => .ok n
    | .error .unread => Checked.fault .intUnread
    | .error .tooLong => Checked.fault .intTooLarge
  | _ => Checked.fault .notInt

def int : Shape Int := { read := readInt, write := .int }

def readNumber : Json → Checked Binary64
  | .num x => .ok x
  | .bool b => .ok (Literal.ofDecimal false (if b then 1 else 0) 0)
  | .int n =>
    match Binary64.ofInt? n with
    | some x => .ok x
    | none => Checked.fault .notNumber
  | .str s =>
    match Numeral.number? s with
    | some x => .ok x
    | none => Checked.fault .numberUnread
  | _ => Checked.fault .notNumber

def number : Shape Binary64 := { read := readNumber, write := .num }

/-- Null stands for no value. -/
def optional (s : Shape α) : Shape (Option α) where
  read
    | .null => .ok none
    | j => (s.read j).map some
  write := Json.ofOption s.write
  isAbsent := Option.isNone

def list (s : Shape α) : Shape (List α) where
  read
    | .arr xs => Checked.each s.read 0 xs
    | _ => Checked.fault .notList
  write xs := .arr (xs.map s.write)

/-- An object of whatever content. -/
def object : Shape Entries where
  read
    | .obj es => .ok es
    | _ => Checked.fault .notObject
  write es := .obj (Json.finiteEntries es)

/-- Any document at all. A number in it that is not finite is written as null; the field is absent
only where the document itself is null. -/
def any : Shape Json where
  read := .ok
  write := Json.finite
  isAbsent := Json.isNull

/-- One of the words of an enumeration. -/
def oneOf (words : List String) (ofWord? : String → Option α) (word : α → String) : Shape α where
  read
    | .str s =>
      match ofWord? s with
      | some a => .ok a
      | none => Checked.fault (.notListed words)
    | _ => Checked.fault (.notListed words)
  write a := .str (word a)

end Shape
end Questionnaire
