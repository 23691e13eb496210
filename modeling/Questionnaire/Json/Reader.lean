import Questionnaire.Json.Value
import Questionnaire.Json.Ordered
import Questionnaire.Number.Literal
/-!
Reading a document from text. A text that is no document is refused with what is wrong and where.
The words for infinity and for no number are read as numbers; of two entries with one key the later
value counts, at the place of the earlier. Two more kinds of text are refused, of which it is left
open what they are good for: those that hold half of a character, and those that are nested deep.
-/

namespace Questionnaire.Json

inductive Flaw where
  | value
  | name
  | colon
  | comma
  | unterminated
  | control
  | escape
  | codePoint
  | extra
  | byteOrderMark
deriving DecidableEq, Repr

def Flaw.message : Flaw → String
  | .value => "Expecting value"
  | .name => "Expecting property name enclosed in double quotes"
  | .colon => "Expecting ':' delimiter"
  | .comma => "Expecting ',' delimiter"
  | .unterminated => "Unterminated string starting at"
  | .control => "Invalid control character at"
  | .escape => "Invalid \\escape"
  | .codePoint => "Invalid \\uXXXX escape"
  | .extra => "Extra data"
  | .byteOrderMark => "Unexpected UTF-8 BOM (decode using utf-8-sig)"

/-- What goes beyond the texts that are read. -/
inductive Excess where
  /-- An escape for one half of a pair without the other, which is no character. -/
  | halfPair
  /-- More than `deepest` lists and objects within each other. -/
  | nesting
deriving DecidableEq, Repr

inductive Refusal where
  /-- The text breaks the grammar at this many characters from its start. -/
  | malformed (flaw : Flaw) (place : Nat)
  /-- A whole number of more than `longestNumeral` digits. -/
  | numeralTooLong
  /-- The text may be that of a document, but it goes beyond those that are read. -/
  | beyond (excess : Excess)
deriving DecidableEq, Repr

def longestNumeral : Nat := 4300

/-- How many lists and objects can stand within each other. -/
def deepest : Nat := 200

/-- What is left to read, how much was read, and whether all that was escaped is characters. -/
structure Cursor where
  place : Nat
  rest : List Char
  whole : Bool

def isSpace (c : Char) : Bool := c == ' ' || c == '\t' || c == '\n' || c == '\r'

namespace Cursor

def fail (c : Cursor) (flaw : Flaw) : Except Refusal α := .error (.malformed flaw c.place)

/-- So many characters on. -/
def on (c : Cursor) (width : Nat) (rest : List Char) : Cursor := ⟨c.place + width, rest, c.whole⟩

def skip (c : Cursor) : Cursor :=
  c.on (c.rest.takeWhile isSpace).length (c.rest.dropWhile isSpace)

end Cursor

abbrev Reading (α : Type) := Except Refusal (α × Cursor)

def hexValue? (c : Char) : Option Nat :=
  if c.isDigit then some (c.toNat - 48)
  else if 'a' ≤ c ∧ c ≤ 'f' then some (c.toNat - 87)
  else if 'A' ≤ c ∧ c ≤ 'F' then some (c.toNat - 55)
  else none

def hexFour? (a b c d : Char) : Option Nat := do
  return 4096 * (← hexValue? a) + 256 * (← hexValue? b) + 16 * (← hexValue? c) + (← hexValue? d)

def plainEscape? : Char → Option Char
  | '"' => some '"'
  | '\\' => some '\\'
  | '/' => some '/'
  | 'b' => some '\x08'
  | 'f' => some '\x0c'
  | 'n' => some '\n'
  | 'r' => some '\r'
  | 't' => some '\t'
  | _ => none

def isHigh (n : Nat) : Bool := 0xD800 ≤ n && n < 0xDC00
def isLow (n : Nat) : Bool := 0xDC00 ≤ n && n < 0xE000

/-- One half of a pair, which alone is no character. -/
def isHalf (n : Nat) : Bool := isHigh n || isLow n

def joinPair (hi lo : Nat) : Char := Char.ofNat (0x10000 + (hi - 0xD800) * 1024 + (lo - 0xDC00))

/-- Reads a string from behind its opening quote, which is at `start`; `done` is reversed. Half of a
pair on its own is left out, so that what is wrong further on is still found. -/
def readString (start : Nat) :
    (whole : Bool) → (place : Nat) → (done : List Char) → List Char → Reading String
  | _, _, _, [] => .error (.malformed .unterminated start)
  | w, n, done, '"' :: cs => .ok (String.ofList done.reverse, ⟨n + 1, cs, w⟩)
  | _, _, _, ['\\'] => .error (.malformed .unterminated start)
  | w, n, done, '\\' :: 'u' :: a :: b :: c :: d :: '\\' :: 'u' :: e :: f :: g :: h :: x :: cs =>
    match hexFour? a b c d with
    | none => .error (.malformed .codePoint (n + 1))
    | some hi =>
      if isHigh hi then
        match hexFour? e f g h with
        | none => .error (.malformed .codePoint (n + 7))
        | some lo =>
          if isLow lo then readString start w (n + 12) (joinPair hi lo :: done) (x :: cs)
          else readString start false (n + 6) done ('\\' :: 'u' :: e :: f :: g :: h :: x :: cs)
      else if isLow hi then
        readString start false (n + 6) done ('\\' :: 'u' :: e :: f :: g :: h :: x :: cs)
      else
        readString start w (n + 6) (Char.ofNat hi :: done)
          ('\\' :: 'u' :: e :: f :: g :: h :: x :: cs)
  | w, n, done, '\\' :: 'u' :: a :: b :: c :: d :: x :: cs =>
    match hexFour? a b c d with
    | none => .error (.malformed .codePoint (n + 1))
    | some u =>
      if isHalf u then readString start false (n + 6) done (x :: cs)
      else readString start w (n + 6) (Char.ofNat u :: done) (x :: cs)
  | _, n, _, '\\' :: 'u' :: _ => .error (.malformed .codePoint (n + 1))
  | w, n, done, '\\' :: c :: cs =>
    match plainEscape? c with
    | none => .error (.malformed .escape n)
    | some e => readString start w (n + 2) (e :: done) cs
  | w, n, done, c :: cs =>
    if c.toNat < 0x20 then .error (.malformed .control n)
    else readString start w (n + 1) (c :: done) cs

/-- The digits of a whole part: a zero alone, or digits that do not start with zero. -/
def wholePart (cs : List Char) : List Char × List Char :=
  match cs with
  | '0' :: rest => (['0'], rest)
  | _ => cs.span Char.isDigit

/-- The digits after a point that has some. -/
def fractionPart (cs : List Char) : List Char × List Char :=
  match cs with
  | '.' :: c :: rest => if c.isDigit then (c :: rest).span Char.isDigit else ([], cs)
  | _ => ([], cs)

/-- A power of ten and how many characters it takes; an `e` without digits is not part of it. -/
def powerPart (cs : List Char) : Option (Int × Nat × List Char) :=
  match cs with
  | e :: rest =>
    if e == 'e' || e == 'E' then
      let (negative, tail) := Literal.splitSign rest
      let (ds, after) := tail.span Char.isDigit
      let n : Int := Literal.natOfDigits ds
      if ds.isEmpty then none
      else some (if negative then -n else n, 1 + (rest.length - tail.length) + ds.length, after)
    else none
  | [] => none

/-- A number with a point or a power of ten. -/
def pointed (negative : Bool) (whole part : List Char) (power : Int) : Json :=
  .num (Literal.ofDecimal negative (Literal.natOfDigits (whole ++ part)) (power - part.length))

def readNumber (c : Cursor) : Reading Json :=
  let (negative, body) := match c.rest with
    | '-' :: rest => (true, rest)
    | rest => (false, rest)
  let signWidth := if negative then 1 else 0
  let (whole, rest) := wholePart body
  if whole.isEmpty then c.fail .value
  else
    let (part, rest) := fractionPart rest
    let width := signWidth + whole.length + (if part.isEmpty then 0 else part.length + 1)
    match powerPart rest with
    | some (e, w, rest) => .ok (pointed negative whole part e, c.on (width + w) rest)
    | none =>
      if part.isEmpty then
        if longestNumeral < whole.length then .error .numeralTooLong
        else
          let n : Int := Literal.natOfDigits whole
          .ok (.int (if negative then -n else n), c.on width rest)
      else .ok (pointed negative whole part 0, c.on width rest)

/-- The words that stand for values. -/
def words : List (List Char × Json) :=
  [("null".toList, .null), ("true".toList, .bool true), ("false".toList, .bool false),
    ("NaN".toList, .num .nan), ("Infinity".toList, .num (.infinite false)),
    ("-Infinity".toList, .num (.infinite true))]

def readWord? (c : Cursor) : Option (Json × Cursor) :=
  (words.find? fun w => w.1.isPrefixOf c.rest).map fun w =>
    (w.2, c.on w.1.length (c.rest.drop w.1.length))

/-- The room that is left within one more list or object. -/
def inner : Nat → Except Refusal Nat
  | 0 => .error (.beyond .nesting)
  | room + 1 => .ok room

mutual
/-- A value that starts here. The first argument bounds the number of values and items, the second
how many lists and objects may still be opened within each other. -/
def readValue : Nat → Nat → Cursor → Reading Json
  | 0, _, c => c.fail .value
  | fuel + 1, room, c =>
    match c.rest, room with
    | '"' :: cs, _ =>
      (readString c.place c.whole (c.place + 1) [] cs).map fun (s, c) => (.str s, c)
    | '[' :: _, 0 | '{' :: _, 0 => .error (.beyond .nesting)
    | '[' :: cs, room + 1 =>
      let c := (c.on 1 cs).skip
      match c.rest with
      | ']' :: rest => .ok (.arr [], c.on 1 rest)
      | _ => (readItems fuel room c).map fun (xs, c) => (.arr xs, c)
    | '{' :: cs, room + 1 =>
      let c := (c.on 1 cs).skip
      match c.rest with
      | '}' :: rest => .ok (.obj [], c.on 1 rest)
      | _ => (readEntries fuel room c).map fun (es, c) => (.obj (Ordered.ofList es), c)
    | _, _ =>
      match readWord? c with
      | some found => .ok found
      | none => readNumber c
def readItems : Nat → Nat → Cursor → Except Refusal (List Json × Cursor)
  | 0, _, c => c.fail .value
  | fuel + 1, room, c => do
    let (x, c) ← readValue fuel room c
    let c := c.skip
    match c.rest with
    | ']' :: rest => return ([x], c.on 1 rest)
    | ',' :: rest =>
      let (xs, c) ← readItems fuel room (c.on 1 rest).skip
      return (x :: xs, c)
    | _ => c.fail .comma
def readEntries : Nat → Nat → Cursor → Except Refusal (Entries × Cursor)
  | 0, _, c => c.fail .name
  | fuel + 1, room, c =>
    match c.rest with
    | '"' :: cs => do
      let (key, c) ← readString c.place c.whole (c.place + 1) [] cs
      let c := c.skip
      match c.rest with
      | ':' :: rest =>
        let (v, c) ← readValue fuel room (c.on 1 rest).skip
        let c := c.skip
        match c.rest with
        | '}' :: rest => return ([(key, v)], c.on 1 rest)
        | ',' :: rest =>
          let (es, c) ← readEntries fuel room (c.on 1 rest).skip
          return ((key, v) :: es, c)
        | _ => c.fail .comma
      | _ => c.fail .colon
    | _ => c.fail .name
end

/-- The document that a text is. A value or an item is started at most twice for
each character, which bounds the reading. -/
def read (s : String) : Except Refusal Json :=
  let cs := s.toList
  match cs with
  | '\ufeff' :: _ => .error (.malformed .byteOrderMark 0)
  | _ => do
    let (v, c) ← readValue (2 * cs.length + 2) deepest (Cursor.mk 0 cs true).skip
    let c := c.skip
    if !c.rest.isEmpty then c.fail .extra
    else if c.whole then return v
    else .error (.beyond .halfPair)

/-- Line and column, counted from one, of the character at a place. -/
def lineColumn (s : String) (place : Nat) : Nat × Nat :=
  let before := s.toList.take place
  (before.count '\n' + 1, (before.reverse.takeWhile (· != '\n')).length + 1)

/-- The wording for a malformed text. -/
def Flaw.located (flaw : Flaw) (s : String) (place : Nat) : String :=
  let (line, column) := lineColumn s place
  s!"{flaw.message}: line {line} column {column} (char {place})"

end Questionnaire.Json
