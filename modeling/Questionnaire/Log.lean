/-!
What the library tells about its work, apart from its results.
-/

namespace Questionnaire

inductive Level where
  | debug
  | info
  | warning
  | error
  | critical
deriving DecidableEq, Repr

def Level.word : Level → String
  | .debug => "DEBUG"
  | .info => "INFO"
  | .warning => "WARNING"
  | .error => "ERROR"
  | .critical => "CRITICAL"

def Level.all : List Level := [.critical, .error, .warning, .info, .debug]

def Level.ofWord? (w : String) : Option Level := Level.all.find? (·.word == w)

def Level.rank : Level → Nat
  | .debug => 10
  | .info => 20
  | .warning => 30
  | .error => 40
  | .critical => 50

/-- Which part of the work a record is about. -/
inductive Topic where
  | compiling
  | conditions
  | routing
  | checking
  | command
deriving DecidableEq, Repr

def Topic.name : Topic → String
  | .compiling => "surveyflow.compiler.compiler"
  | .conditions => "surveyflow.execution.conditions"
  | .routing => "surveyflow.execution.traversal"
  | .checking => "surveyflow.validation.workflow_validator"
  | .command => "surveyflow.cli"

structure Record where
  level : Level
  topic : Topic
  message : String
  /-- Does the record tell where an error arose? -/
  traced : Bool := false
deriving DecidableEq, Repr

def Record.debug (topic : Topic) (message : String) : Record := ⟨.debug, topic, message, false⟩

/-- A truth value in a message. -/
def truth (b : Bool) : String := if b then "True" else "False"

end Questionnaire
