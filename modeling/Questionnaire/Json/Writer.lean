import Questionnaire.Json.Value
import Questionnaire.Number.Shortest
/-!
Documents written as text, on one line or with each entry on a line of its own.
-/

namespace Questionnaire.Json

def escaped (c : Char) : List Char :=
  match c with
  | '"' => ['\\', '"']
  | '\\' => ['\\', '\\']
  | '\n' => ['\\', 'n']
  | '\r' => ['\\', 'r']
  | '\t' => ['\\', 't']
  | '\x08' => ['\\', 'b']
  | '\x0c' => ['\\', 'f']
  | c =>
    if c.toNat < 0x20 then
      '\\' :: 'u' :: '0' :: '0' :: (if c.toNat < 0x10 then ['0'] else []) ++ Nat.toDigits 16 c.toNat
    else [c]

def writeString (s : String) : String :=
  String.ofList ('"' :: s.toList.flatMap escaped ++ ['"'])

/-- Numbers are written as elsewhere, but for the words of infinity and of no number. -/
def writeNumber : Binary64 → String
  | .nan => "NaN"
  | .infinite s => if s then "-Infinity" else "Infinity"
  | x => x.text

/-- A line break and the margin at this depth. -/
def newline (depth : Nat) : String := "\n" ++ String.ofList (List.replicate (2 * depth) ' ')

mutual
/-- One entry to a line, two spaces deeper at each level. -/
def pretty (depth : Nat) : Json → String
  | .null => "null"
  | .bool b => if b then "true" else "false"
  | .int n => toString n
  | .num x => writeNumber x
  | .str s => writeString s
  | .arr [] => "[]"
  | .arr (x :: xs) =>
    "[" ++ ",".intercalate (prettyItems (depth + 1) (x :: xs)) ++ newline depth ++ "]"
  | .obj [] => "\x7b\x7d"
  | .obj (e :: es) =>
    "\x7b" ++ ",".intercalate (prettyEntries (depth + 1) (e :: es)) ++ newline depth ++ "\x7d"
def prettyItems (depth : Nat) : List Json → List String
  | [] => []
  | x :: xs => (newline depth ++ pretty depth x) :: prettyItems depth xs
def prettyEntries (depth : Nat) : List (String × Json) → List String
  | [] => []
  | (k, v) :: es =>
    (newline depth ++ writeString k ++ ": " ++ pretty depth v) :: prettyEntries depth es
end

mutual
/-- All on one line. -/
def compact : Json → String
  | .null => "null"
  | .bool b => if b then "true" else "false"
  | .int n => toString n
  | .num x => writeNumber x
  | .str s => writeString s
  | .arr xs => "[" ++ ", ".intercalate (compactItems xs) ++ "]"
  | .obj es => "\x7b" ++ ", ".intercalate (compactEntries es) ++ "\x7d"
def compactItems : List Json → List String
  | [] => []
  | x :: xs => compact x :: compactItems xs
def compactEntries : List (String × Json) → List String
  | [] => []
  | (k, v) :: es => (writeString k ++ ": " ++ compact v) :: compactEntries es
end

end Questionnaire.Json
