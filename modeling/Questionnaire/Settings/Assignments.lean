import Questionnaire.Json.Ordered
import Questionnaire.Text.Blank
/-!
Files of assignments: a name, an equals sign and a value on each line, with an optional "export" in
front. A value may stand in quotes, in which some characters can be escaped and lines can end;
without quotes it ends at a comment. A name may stand alone, and has no value then. A line of
another form is passed over. A value may refer to earlier ones. Lines end with a line feed.
-/

namespace Questionnaire.Assignments

def isBreak (c : Char) : Bool := c == '\n'

/-- White space within a line. -/
def isGap (c : Char) : Bool := Text.isBlank c && !isBreak c

/-- What the quotes around a value allow. -/
structure Quotes where
  mark : Char
  unescape? : Char → Option Char

def singleQuotes : Quotes where
  mark := '\''
  unescape? c := if c = '\\' ∨ c = '\'' then some c else none

def doubleQuotes : Quotes where
  mark := '"'
  unescape?
    | '\\' => some '\\'
    | '\'' => some '\''
    | '"' => some '"'
    | 'a' => some '\x07'
    | 'b' => some '\x08'
    | 'f' => some '\x0c'
    | 'n' => some '\n'
    | 'r' => some '\r'
    | 't' => some '\t'
    | 'v' => some '\x0b'
    | _ => none

/-- The characters up to the closing quote, and what follows it. A backslash takes the character
behind it along, so that a quote there does not close. -/
def quotedSpan? (mark : Char) : List Char → Option (List Char × List Char)
  | [] | ['\\'] => none
  | '\\' :: c :: cs =>
    (quotedSpan? mark cs).map fun (inside, rest) => ('\\' :: c :: inside, rest)
  | c :: cs =>
    if c = mark then some ([], cs)
    else (quotedSpan? mark cs).map fun (inside, rest) => (c :: inside, rest)

def unescape (q : Quotes) : List Char → List Char
  | [] => []
  | ['\\'] => ['\\']
  | '\\' :: c :: cs =>
    match q.unescape? c with
    | some e => e :: unescape q cs
    | none => '\\' :: unescape q (c :: cs)
  | c :: cs => c :: unescape q cs

/-- Cuts off a comment, which starts with a number sign behind white space. -/
def cutComment : (afterGap : Bool) → List Char → List Char
  | _, [] => []
  | afterGap, c :: cs => if afterGap && c == '#' then [] else c :: cutComment (Text.isBlank c) cs

def dropEnd (p : Char → Bool) (cs : List Char) : List Char := (cs.reverse.dropWhile p).reverse

/-- The value behind an equals sign, and what follows it; what breaks the form is given back from
where the value begins. The white space in front counts for a comment. -/
def value (cs : List Char) : Except (List Char) (List Char × List Char) :=
  let start := cs.dropWhile isGap
  let quoted (q : Quotes) (cs : List Char) :=
    match quotedSpan? q.mark cs with
    | some (inside, rest) => .ok (unescape q inside, rest)
    | none => .error start
  match start with
  | '\'' :: cs => quoted singleQuotes cs
  | '"' :: cs => quoted doubleQuotes cs
  | _ =>
    let (line, rest) := start.span (!isBreak ·)
    let afterGap := start.length < cs.length
    .ok (dropEnd Text.isBlank (cutComment afterGap line), rest)

/-- What follows the end of a line, if nothing but a comment comes before it. -/
def lineEnd? (cs : List Char) : Option (List Char) :=
  let afterGap := cs.dropWhile isGap
  let rest := match afterGap with
    | '#' :: _ => afterGap.dropWhile (!isBreak ·)
    | _ => afterGap
  match rest with
  | [] => some []
  | c :: rest => if isBreak c then some rest else none

def dropExport (cs : List Char) : List Char :=
  if "export".toList.isPrefixOf cs then
    match cs.drop 6 with
    | c :: rest => if isGap c then rest.dropWhile isGap else cs
    | [] => cs
  else cs

/-- The name in front of an equals sign, empty for a line that is a comment. -/
def name? (cs : List Char) : Option (List Char × List Char) :=
  match cs with
  | '#' :: _ => some ([], cs)
  | '\'' :: cs =>
    let (name, rest) := cs.span (· != '\'')
    match rest with
    | _ :: rest => if name.isEmpty then none else some (name, rest)
    | [] => none
  | _ =>
    let (name, rest) := cs.span fun c => c != '=' && c != '#' && !Text.isBlank c
    if name.isEmpty then none else some (name, rest)

/-- A name, and its value if it has one. -/
abbrev Assignment := String × Option String

/-- One assignment, if the line holds one, and what follows the line. What breaks the form is given
back from the place where it does. -/
def assignment (cs : List Char) : Except (List Char) (Option Assignment × List Char) := do
  let cs := dropExport cs
  match name? cs with
  | none => .error cs
  | some (name, rest) =>
    let (value, rest) ← match rest.dropWhile isGap with
      | '=' :: rest => (value rest).map fun (value, rest) => (some (String.ofList value), rest)
      | rest => .ok (none, rest)
    match lineEnd? rest with
    | some next => .ok (if name.isEmpty then none else some (String.ofList name, value), next)
    | none => .error rest

/-- What is behind this line, whatever it holds. -/
def skipLine (cs : List Char) : List Char := (cs.dropWhile (!isBreak ·)).drop 1

/-- What a file of assignments holds. -/
structure Contents where
  assignments : List Assignment := []
  /-- Where statements begin that break the form: the number of the line behind the statement
  before. -/
  unread : List Nat := []
deriving DecidableEq, Repr

/-- Reads statement after statement; the first begins on the given line. -/
def readAll : Nat → (line : Nat) → List Char → Contents
  | 0, _, _ => {}
  | fuel + 1, line, cs =>
    let more (next : List Char) : Contents :=
      let taken := cs.take (cs.length - next.length)
      readAll fuel (line + taken.countP isBreak) next
    match cs.dropWhile Text.isBlank with
    | [] => {}
    | start =>
      match assignment start with
      | .ok (found, next) =>
        let rest := more next
        { rest with assignments := found.toList ++ rest.assignments }
      | .error place =>
        let rest := more (skipLine place)
        { rest with unread := line :: rest.unread }

/-- Replaces references such as a dollar sign and a name in braces by values. -/
def resolve (lookup : String → Option String) : Nat → List Char → List Char
  | 0, cs => cs
  | _, [] => []
  | fuel + 1, '$' :: '{' :: cs =>
    let (name, rest) := cs.span fun c => c != '}' && c != ':'
    let plain := '$' :: resolve lookup fuel ('{' :: cs)
    let valueOr (default : List Char) :=
      ((lookup (String.ofList name)).map String.toList).getD default
    match rest with
    | '}' :: rest => valueOr [] ++ resolve lookup fuel rest
    | ':' :: '-' :: rest =>
      let (default, rest) := rest.span (· != '}')
      match rest with
      | '}' :: rest => valueOr default ++ resolve lookup fuel rest
      | _ => plain
    | _ => plain
  | fuel + 1, c :: cs => c :: resolve lookup fuel cs

/-- The value of a name among those of the file so far, else in the environment; a name of the file
that has no value stands for nothing. -/
def known? (environment : List (String × String)) (done : List Assignment) (name : String) :
    Option String :=
  match done.lookup name with
  | some value => some (value.getD "")
  | none => environment.lookup name

/-- What a text holds: each name once, where it first comes, with its last value. A reference looks
at the assignments before it, then at the environment. A mark of the byte order in front of the text
is no part of it. -/
def read (environment : List (String × String)) (text : String) : Contents :=
  let cs := match text.toList with
    | '\uFEFF' :: cs => cs
    | cs => cs
  let raw := readAll (cs.length + 1) 1 cs
  let assignments := raw.assignments.foldl (fun done (name, value) =>
    let resolved := value.map fun v =>
      String.ofList (resolve (known? environment done) (v.length + 1) v.toList)
    Ordered.put name resolved done) []
  { raw with assignments }

/-- What is told about a statement that breaks the form. -/
def complaint (line : Nat) : String :=
  s!"python-dotenv could not parse statement starting at line {line}"

end Questionnaire.Assignments
