import Questionnaire.Text.Digit
import Questionnaire.Text.Quoted
import Questionnaire.Text.Upper
import Questionnaire.Log
/-!
Arguments of a command: options, which may be abbreviated and may carry a value behind an equals
sign, and positional arguments, between which options may stand. Behind two dashes nothing is an
option. Two dashes in the place of a value are no value.
-/

namespace Questionnaire.Arguments

structure OptionSpec where
  names : List String
  takesValue : Bool
  /-- The values that are possible, in upper case; any value is if there are none. -/
  choices : List String := []
deriving DecidableEq

def OptionSpec.display (o : OptionSpec) : String := "/".intercalate o.names

/-- What a command takes. -/
structure Spec where
  program : String
  options : List OptionSpec
  positionals : List String
  /-- Does the last positional argument take all that follows with it? -/
  takesRest : Bool

def helpOption : OptionSpec := ⟨["-h", "--help"], false, []⟩

inductive UsageError where
  | complaint (program text : String)
  | help (program : String)
deriving DecidableEq

namespace UsageError

def line? : UsageError → Option String
  | .complaint program text => some s!"{program}: error: {text}"
  | .help _ => none

/-- How a run ends that goes no further. -/
def exit : UsageError → Nat
  | .complaint .. => 2
  | .help _ => 0

end UsageError

/-- What an argument is taken for. -/
inductive Token where
  | plain (s : String)
  | dashes
  | option (written : String) (o : OptionSpec) (name : String) (value : Option String)
  | unknown (s : String)

def Token.source : Token → String
  | .plain s | .unknown s | .option s .. => s
  | .dashes => "--"

namespace Spec

def optionNamed? (spec : Spec) (name : String) : Option OptionSpec :=
  spec.options.find? fun o => o.names.contains name

/-- The text before and after the first equals sign. -/
def splitValue (s : String) : String × Option String :=
  let (name, rest) := s.toList.span (· != '=')
  match rest with
  | [] => (s, none)
  | _ :: value => (String.ofList name, some (String.ofList value))

def startsWith (s start : String) : Bool := start.toList.isPrefixOf s.toList

/-- The options that an argument may abbreviate. -/
def candidates (spec : Spec) (s : String) : List (OptionSpec × String × Option String) :=
  let named := spec.options.flatMap fun o => o.names.map fun n => (o, n)
  if startsWith s "--" then
    let (start, value) := splitValue s
    (named.filter fun (_, n) => startsWith n start).map fun (o, n) => (o, n, value)
  else
    let short := String.ofList (s.toList.take 2)
    named.filterMap fun (o, n) =>
      if n = short then some (o, n, some (String.ofList (s.toList.drop 2)))
      else if startsWith n s then some (o, n, none)
      else none

/-- A minus before digits that may have a point among them; the end of a line may follow. -/
def isNegativeNumber (s : String) : Bool :=
  match s.toList with
  | '-' :: cs =>
    let (whole, rest) := (if cs.getLast? = some '\n' then cs.dropLast else cs).span Text.isDigit
    match rest with
    | [] => !whole.isEmpty
    | '.' :: ds => !ds.isEmpty && ds.all Text.isDigit
    | _ => false
  | _ => false

def complain (spec : Spec) (text : String) : UsageError := .complaint spec.program text

def classify (spec : Spec) (s : String) : Except UsageError Token :=
  if !startsWith s "-" then .ok (.plain s)
  else
    match spec.optionNamed? s with
    | some o => .ok (.option s o s none)
    | none =>
      if s.length = 1 then .ok (.plain s)
      else
        let (name, value) := splitValue s
        match value.bind fun v => (spec.optionNamed? name).map fun o => (o, v) with
        | some (o, v) => .ok (.option s o name (some v))
        | none =>
          match spec.candidates s with
          | [(o, n, v)] => .ok (.option s o n v)
          | [] =>
            if isNegativeNumber s || s.toList.contains ' ' then .ok (.plain s) else .ok (.unknown s)
          | cs =>
            let names := ", ".intercalate (cs.map fun c => c.2.1)
            .error (spec.complain s!"ambiguous option: {s} could match {names}")

def classifyAll (spec : Spec) : List String → Except UsageError (List Token)
  | [] => .ok []
  | s :: ss =>
    if s = "--" then .ok (.dashes :: ss.map .plain)
    else do
      let t ← spec.classify s
      return t :: (← classifyAll spec ss)

end Spec

/-- What was found so far. -/
structure Found where
  options : List (String × Option String) := []
  /-- The positional arguments; there is none where two dashes stand in the place of one. -/
  positionals : List (Option String) := []
  /-- The last positional argument with all that follows, where it takes that too. -/
  rest : List String := []
  extras : List String := []

namespace Found

def value? (f : Found) (name : String) : Option String := (f.options.reverse.lookup name).join

def has (f : Found) (name : String) : Bool := f.options.any (·.1 == name)

end Found

/-- Plain arguments up to the next option. -/
def plainRun : List Token → List Token × List Token
  | t :: ts =>
    match t with
    | .plain _ | .dashes =>
      let (run, rest) := plainRun ts
      (t :: run, rest)
    | _ => ([], t :: ts)
  | [] => ([], [])

def dropDashes : List Token → List Token
  | .dashes :: ts => ts
  | ts => ts

/-- Is the first token the mark behind which nothing is an option? -/
def startsWithDashes : List Token → Bool
  | .dashes :: _ => true
  | _ => false

/-- An argument as a value. Two dashes are a value only directly behind the mark for them. -/
def valueOf (marked : Bool) (s : String) : Option String :=
  if s = "--" && !marked then none else some s

/-- Gives plain arguments to the positional ones that are missing; the rest is left over. -/
def assign (missing : List String) (run : List Token) (f : Found) : List String × Found :=
  match missing, dropDashes run with
  | _ :: missing, .plain s :: rest =>
    let value := valueOf (startsWithDashes run) s
    assign missing (dropDashes rest) { f with positionals := f.positionals ++ [value] }
  | _, _ => (missing, { f with extras := f.extras ++ run.map Token.source })
termination_by missing.length

/-- Options without a value written together, such as `-ab`, taken one by one. -/
def expandFlags (spec : Spec) : Nat → OptionSpec → String → Option String →
    Except UsageError (List (OptionSpec × Option String))
  | 0, o, _, value => .ok [(o, value)]
  | fuel + 1, o, name, value =>
    match value with
    | none => .ok [(o, none)]
    | some v =>
      if o.takesValue then .ok [(o, some v)]
      else
        let ignored : UsageError :=
          spec.complain s!"argument {o.display}: ignored explicit argument {Text.quoted v}"
        match v.toList with
        | c :: cs =>
          if Spec.startsWith name "--" then .error ignored
          else
            let name' := String.ofList ['-', c]
            match spec.optionNamed? name' with
            | none => .error ignored
            | some o' => do
              let more ← expandFlags spec fuel o' name'
                (if cs.isEmpty then none else some (String.ofList cs))
              return (o, none) :: more
        | [] => .error ignored

/-- Gives an option that needs a value, and has none yet, the argument that follows. -/
def supplyValues (spec : Spec) : List (OptionSpec × Option String) → List Token →
    Except UsageError (List (OptionSpec × Option String) × List Token)
  | [], ts => .ok ([], ts)
  | (o, value) :: os, ts => do
    let (value, ts) ← match o.takesValue, value, ts with
      | true, none, .plain v :: ts => .ok (some v, ts)
      | true, none, _ => .error (spec.complain s!"argument {o.display}: expected one argument")
      | _, value, ts => .ok (value, ts)
    let (os, ts) ← supplyValues spec os ts
    return ((o, value) :: os, ts)

def notAmong (v : String) (choices : List String) : String :=
  let listed := ", ".intercalate (choices.map Text.quoted)
  s!"invalid choice: {Text.quoted v} (choose from {listed})"

/-- The value of an option that has choices is taken in upper case. -/
def checkedValue (spec : Spec) (o : OptionSpec) (v : String) : Except UsageError String :=
  if o.choices.isEmpty then .ok v
  else
    let v := Text.upper v
    if o.choices.contains v then .ok v
    else .error (spec.complain (s!"argument {o.display}: " ++ notAmong v o.choices))

/-- Takes an option whose value, if it needs one, is known. -/
def Found.take (spec : Spec) (f : Found) (o : OptionSpec × Option String) :
    Except UsageError Found := do
  if o.1 = helpOption then .error (.help spec.program)
  else
    let value ← (o.2.bind (valueOf false)).mapM (checkedValue spec o.1)
    return { f with options := f.options ++ [(o.1.names.getLastD "", value)] }

/-- The positional argument that takes everything behind it too. -/
def restFrom? (spec : Spec) (missing : List String) (ts : List Token) : Option (List String) :=
  match missing, dropDashes ts with
  | [_], .plain _ :: _ => if spec.takesRest then some (ts.map Token.source) else none
  | _, _ => none

def scan (spec : Spec) :
    Nat → List String → List Token → Found → Except UsageError (List String × Found)
  | 0, missing, _, f => .ok (missing, f)
  | _, missing, [], f => .ok (missing, f)
  | fuel + 1, missing, t :: ts, f =>
    match restFrom? spec missing (t :: ts) with
    | some rest => .ok ([], { f with rest })
    | none =>
      match t with
      | .unknown s => scan spec fuel missing ts { f with extras := f.extras ++ [s] }
      | .option written o name value => do
        let (os, ts) ← supplyValues spec (← expandFlags spec written.length o name value) ts
        scan spec fuel missing ts (← os.foldlM (Found.take spec) f)
      | _ =>
        let (run, rest) := plainRun (t :: ts)
        let (missing, f) := assign missing run f
        scan spec fuel missing rest f

/-- Takes the arguments apart. -/
def parse (spec : Spec) (args : List String) : Except UsageError Found := do
  let ts ← spec.classifyAll args
  let (missing, f) ← scan spec (2 * ts.length + 1) spec.positionals ts {}
  if missing.isEmpty then return f
  else
    let names := ", ".intercalate missing
    .error (spec.complain s!"the following arguments are required: {names}")

end Questionnaire.Arguments
