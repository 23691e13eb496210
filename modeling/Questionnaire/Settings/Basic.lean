import Questionnaire.Settings.Assignments
import Questionnaire.Schema.Shape
import Questionnaire.Text.Lower
import Questionnaire.Text.Upper
import Questionnaire.Log
/-!
Settings, from the environment and from a file of assignments. A variable of the environment counts
before one of the file; names are compared without regard to case.
-/

namespace Questionnaire

structure Settings where
  level : Level
  jsonLogs : Bool
  /-- What is stored for the open choice. -/
  otherValue : String
  /-- What is shown for an open choice without a label of its own. -/
  defaultOtherLabel : String
deriving DecidableEq, Repr

namespace Settings

/-- In front of the name of every variable. -/
def family : String := "surveyflow_"

def lowered (name : String) : String := String.ofList (Text.lower name.toList)

/-- The value of a setting; of several variables that differ in case the last counts, even if it has
no value. -/
def setting? (known : List Assignments.Assignment) (setting : String) : Option String :=
  (known.reverse.find? fun v => lowered v.1 == family ++ setting).bind Prod.snd

def levelWords : List String := ["CRITICAL", "DEBUG", "ERROR", "INFO", "WARNING"]

def readLevel (s : String) : Checked Level :=
  match Level.ofWord? (Text.upper (Text.trim s)) with
  | some l => .ok l
  | none => Checked.fault (.unknownLevel levelWords)

def readText (s : String) : Checked String :=
  if s.isEmpty then Checked.fault .shortString else .ok s

/-- Reads the settings from the variables of the environment and of the file. -/
def read (environment : List (String × String)) (file : List Assignments.Assignment) :
    Checked Settings :=
  let environment := environment.map fun (name, value) => (name, some value)
  let setting {α : Type} (name : String) (read : String → Checked α) (absent : α) : Checked α :=
    match (setting? environment name).or (setting? file name) with
    | some v => (read v).within (.key name)
    | none => .ok absent
  .both (fun (level, jsonLogs) (otherValue, defaultOtherLabel) =>
      ⟨level, jsonLogs, otherValue, defaultOtherLabel⟩)
    (.both Prod.mk (setting "log_level" readLevel .info)
      (setting "json_logs" (fun s => Shape.readBool (.str s)) false))
    (.both Prod.mk (setting "other_option_value" readText "other")
      (setting "default_other_label" readText "Other"))

/-- The message for settings with faults, told by `describe`. -/
def message (describe : List Fault → String) (faults : List Fault) : String :=
  "Invalid SurveyFlow settings: " ++ describe faults

def context (faults : List Fault) : Entries :=
  [("fields", .arr (faults.map fun f => .str (".".intercalate (f.path.map Step.text))))]

end Settings
end Questionnaire
