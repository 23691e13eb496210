import Questionnaire.Command.Arguments
import Questionnaire.Command.Files
import Questionnaire.Settings.Basic
import Questionnaire.Json.Reader
import Questionnaire.Json.Writer
import Questionnaire.Graph.Compile
import Questionnaire.Graph.Document
import Questionnaire.Route.Trace
import Questionnaire.Check.Validate
/-!
The commands: checking and compiling a design, and asking for the path that answers lead to or for
the node after another. Running a command is a function of its arguments, the environment and the
files.
-/

namespace Questionnaire.Command

/-- What is to be done. Answers and nodes have no name where two dashes stand in its place. -/
inductive Action where
  | validate (design : String) (json : Bool)
  | compile (design : String) (output : Option String)
  | path (design : String) (responses : Option String) (json : Bool)
  | next (design : String) (node responses : Option String)
deriving DecidableEq, Repr

def Action.name : Action → String
  | .validate .. => "validate"
  | .compile .. => "compile"
  | .path .. => "path"
  | .next .. => "next"

structure Request where
  level : Option Level
  action : Action
deriving DecidableEq, Repr

namespace Request
open Arguments

def program : String := "surveyflow"

def actionNames : List String := ["validate", "compile", "path", "next"]

def topSpec : Spec :=
  ⟨program, [helpOption, ⟨["--log-level"], true, Level.all.map Level.word⟩], ["command"], true⟩

def jsonOption : OptionSpec := ⟨["--json"], false, []⟩

def specOf (action : String) : Spec :=
  let program := program ++ " " ++ action
  match action with
  | "compile" => ⟨program, [helpOption, ⟨["-o", "--output"], true, []⟩], ["design"], false⟩
  | "path" => ⟨program, [helpOption, jsonOption], ["design", "responses"], false⟩
  | "next" => ⟨program, [helpOption], ["design", "node_id", "responses"], false⟩
  | _ => ⟨program, [helpOption, jsonOption], ["design"], false⟩

def actionOf (action : String) (f : Found) : Action :=
  let json := f.has "--json"
  match action, f.positionals with
  | "compile", [some design] => .compile design (f.value? "--output")
  | "path", [some design, responses] => .path design responses json
  | "next", [some design, node, responses] => .next design node responses
  | _, ps => .validate ((ps.headD none).getD "") json

def ofArguments (args : List String) : Except UsageError Request := do
  let top ← parse topSpec args
  match top.rest with
  | action :: rest =>
    if actionNames.contains action then
      let f ← parse (specOf action) rest
      let extras := top.extras ++ f.extras
      if extras.isEmpty then
        return ⟨(top.value? "--log-level").bind Level.ofWord?, actionOf action f⟩
      else .error (topSpec.complain ("unrecognized arguments: " ++ " ".intercalate extras))
    else .error (topSpec.complain ("argument command: " ++ notAmong action actionNames))
  | [] => .error (topSpec.complain "the following arguments are required: command")

end Request

/-- Why a command did not do its work. -/
inductive Failure where
  | walk (e : WalkError)
  | faults (fs : List Fault)
  | file (e : FileError)
  | malformed (flaw : Json.Flaw) (text : String) (place : Nat)
  /-- The design is no design at all, which no command is prepared for. -/
  | unusable (u : Design.Unusable)
  /-- Nothing is named where a file or a node has to be. -/
  | nameless
  | numeralTooLong
  /-- A text goes beyond those that are read, and what is to be done with it is left open. -/
  | beyond (excess : Json.Excess)
deriving DecidableEq

/-- Failures that a command reports. -/
def Failure.report? (describe : List Fault → String) : Failure → Option String
  | .walk .unusableRoute => none
  | .walk e => some (withContext (e.message describe) (e.context.getD []))
  | .faults fs => some (describe fs)
  | .file e => if e.fault = .zeroCharacter then none else some e.message
  | .malformed flaw text place => some (flaw.located text place)
  | .unusable _ | .nameless | .numeralTooLong | .beyond _ => none

/-- Failures of the work itself, as opposed to those of files and their texts. -/
def Failure.isOfWork : Failure → Bool
  | .walk _ | .faults _ => true
  | _ => false

/-- The work of a command: what was told, what is printed and written, and how it ends. -/
structure Work where
  records : List Record
  result : Except Failure (Nat × String × Option (String × String))

def readJson (files : Files) (name : String) : Except Failure Json := do
  let text ← (files.read name).mapError .file
  match Json.read text with
  | .ok j => .ok j
  | .error (.malformed flaw place) => .error (.malformed flaw text place)
  | .error .numeralTooLong => .error .numeralTooLong
  | .error (.beyond excess) => .error (.beyond excess)

def readDesign (files : Files) (name : String) : Except Failure (List Json × List Json) := do
  (Design.split (← readJson files name)).mapError .unusable

def printed (text : String) : Nat × String × Option (String × String) := (0, text ++ "\n", none)

def validate (files : Files) (ids : IdSupply) (design : String) (json : Bool) : Work :=
  match readDesign files design with
  | .error x => ⟨[], .error x⟩
  | .ok (nodes, edges) =>
    let draft := Draft.ofRaw ids nodes edges
    let problems := draft.validate
    let text :=
      if json then (Problem.resultJson problems).pretty 0
      else if problems.isEmpty then "Workflow is valid."
      else Problem.report problems
    ⟨[draft.record], .ok (if Problem.isValid problems then 0 else 1, text ++ "\n", none)⟩

/-- Compiles the design in a file. -/
def compileFile (files : Files) (ids : IdSupply) (design : String) :
    List Record × Except Failure Graph :=
  match readDesign files design with
  | .error x => ([], .error x)
  | .ok (nodes, edges) =>
    let c := Graph.compileRaw ids nodes edges
    (c.records, c.result.mapError .faults)

def compile (files : Files) (ids : IdSupply) (design : String) (output : Option String) : Work :=
  let (records, graph) := compileFile files ids design
  ⟨records, do
    let text := (← graph).toJson.pretty 0
    match output.filter (!·.isEmpty) with
    | none => return printed text
    | some name =>
      let name ← (files.target name).mapError .file
      return (0, "", some (name, text ++ "\n"))⟩

/-- Builds the engine of a design and reads the answers, then does what is to be done with them. -/
def withEngine (files : Files) (settings : Settings) (ids : IdSupply) (design : String)
    (responses : Option String) (use : Engine → Json → Work) : Work :=
  match compileFile files ids design with
  | (records, .error x) => ⟨records, .error x⟩
  | (records, .ok graph) =>
    let engine := Engine.ofGraph graph settings.otherValue settings.defaultOtherLabel
    let records := records ++ Engine.identityRecords graph
    match responses.elim (.error .nameless) (readJson files) with
    | .error x => ⟨records, .error x⟩
    | .ok answers =>
      let work := use engine answers
      ⟨records ++ work.records, work.result⟩

def path (json : Bool) (engine : Engine) (answers : Json) : Work :=
  ⟨engine.traceRecords answers, do
    let t ← (engine.trace answers).mapError .walk
    let lines := t.ids.map (· ++ "\n")
    return if json then printed (t.toJson.pretty 0) else (0, String.join lines, none)⟩

def next (node : Option String) (engine : Engine) (answers : Json) : Work :=
  match node with
  | none => ⟨[], .error .nameless⟩
  | some node =>
    let walk := engine.next answers node
    ⟨walk.events.filterMap Event.record?, do
      let n ← walk.result.mapError .walk
      return printed ((n.map CompiledNode.id).getD "")⟩

def perform (files : Files) (settings : Settings) (ids : IdSupply) : Action → Work
  | .validate design json => validate files ids design json
  | .compile design output => compile files ids design output
  | .path design responses json => withEngine files settings ids design responses (path json)
  | .next design node responses => withEngine files settings ids design responses (next node)

/-- What a run of the program leaves behind. -/
structure Report where
  exit : Nat
  output : String
  /-- What is told before it is settled how records are told. -/
  warnings : List String
  records : List Record
  jsonLogs : Bool
  complaint : Option String
  written : Option (String × String)

inductive Ending where
  | done (r : Report)
  /-- The arguments ask for nothing that can be done. -/
  | misused (e : Arguments.UsageError)
  /-- The work stops at a failure that is not reported. -/
  | broken (failure : Failure)

/-- The records from a level on. -/
def atLeast (level : Level) (records : List Record) : List Record :=
  records.filter fun r => level.rank ≤ r.level.rank

def failureRecord (action : Action) : Record :=
  ⟨.debug, .command, s!"Command {action.name} failed", true⟩

/-- The assignments where the program runs. -/
def assignments (environment : List (String × String)) (files : Files) : Assignments.Contents :=
  match files.read ".env" with
  | .ok text => Assignments.read environment text
  | .error _ => {}

/-- The settings that hold where the program runs. -/
def settings (environment : List (String × String)) (files : Files) : Checked Settings :=
  Settings.read environment (assignments environment files).assignments

/-- What is told about the file of assignments. -/
def warnings (environment : List (String × String)) (files : Files) : List String :=
  (assignments environment files).unread.map Assignments.complaint

/-- Does the work of a request under the settings. -/
def carryOut (describe : List Fault → String) (files : Files) (settings : Settings)
    (warnings : List String) (ids : IdSupply) (request : Request) : Ending :=
  let kept := atLeast (request.level.getD settings.level)
  let work := perform files settings ids request.action
  match work.result with
  | .ok (exit, output, written) =>
    .done ⟨exit, output, warnings, kept work.records, settings.jsonLogs, none, written⟩
  | .error x =>
    match x.report? describe with
    | none => .broken x
    | some text =>
      let last := if x.isOfWork then [failureRecord request.action] else []
      let records := kept (work.records ++ last)
      .done ⟨2, "", warnings, records, settings.jsonLogs, some ("error: " ++ text), none⟩

/-- Runs the program; faults are told by `describe`. -/
def run (describe : List Fault → String) (environment : List (String × String)) (files : Files)
    (ids : IdSupply) (args : List String) : Ending :=
  match Request.ofArguments args with
  | .error e => .misused e
  | .ok request =>
    let warnings := warnings environment files
    match settings environment files with
    | .error fs =>
      let text := withContext (Settings.message describe fs) (Settings.context fs)
      .done ⟨2, "", warnings, [], false, some ("error: " ++ text), none⟩
    | .ok settings => carryOut describe files settings warnings ids request

end Questionnaire.Command
