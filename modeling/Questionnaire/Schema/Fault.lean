/-!
What can be wrong with a document that was meant to have a certain shape, and where in it.
-/

namespace Questionnaire

/-- A step into a document. -/
inductive Step where
  | key (name : String)
  | index (i : Nat)
deriving DecidableEq, Repr

def Step.text : Step → String
  | .key name => name
  | .index i => toString i

inductive Defect where
  | missing
  | notString
  | shortString
  | boolUnread
  | notBool
  | intFraction
  | intUnread
  | intTooLarge
  | notInt
  | notFinite
  | numberUnread
  | notNumber
  | notList
  | notObject
  /-- Not an object where the named record was expected. -/
  | notRecord (name : String)
  /-- None of the words of an enumeration. -/
  | notListed (words : List String)
  /-- Not the one word that is possible. -/
  | notWord (word : String)
  | untaggable
  | noTag
  | unknownTag (tag : String) (expected : List String)
  | unknownLevel (levels : List String)
deriving DecidableEq, Repr

structure Fault where
  path : List Step
  defect : Defect
deriving DecidableEq, Repr

namespace Defect

/-- The short name of the kind of defect. -/
def kind : Defect → String
  | .missing => "missing"
  | .notString => "string_type"
  | .shortString => "string_too_short"
  | .boolUnread => "bool_parsing"
  | .notBool => "bool_type"
  | .intFraction => "int_from_float"
  | .intUnread => "int_parsing"
  | .intTooLarge => "int_parsing_size"
  | .notInt => "int_type"
  | .notFinite => "finite_number"
  | .numberUnread => "float_parsing"
  | .notNumber => "float_type"
  | .notList => "list_type"
  | .notObject => "dict_type"
  | .notRecord _ => "model_type"
  | .notListed _ => "enum"
  | .notWord _ => "literal_error"
  | .untaggable => "model_attributes_type"
  | .noTag => "union_tag_not_found"
  | .unknownTag .. => "union_tag_invalid"
  | .unknownLevel _ => "value_error"

def inQuotes (w : String) : String := "'" ++ w ++ "'"

/-- The words in quotes, the last two joined by "or". -/
def orList : List String → String
  | [] => ""
  | [w] => inQuotes w
  | [v, w] => inQuotes v ++ " or " ++ inQuotes w
  | v :: ws => inQuotes v ++ ", " ++ orList ws

def commaList (ws : List String) : String := ", ".intercalate (ws.map inQuotes)

def message : Defect → String
  | .missing => "Field required"
  | .notString => "Input should be a valid string"
  | .shortString => "String should have at least 1 character"
  | .boolUnread => "Input should be a valid boolean, unable to interpret input"
  | .notBool => "Input should be a valid boolean"
  | .intFraction => "Input should be a valid integer, got a number with a fractional part"
  | .intUnread => "Input should be a valid integer, unable to parse string as an integer"
  | .intTooLarge => "Unable to parse input string as an integer, exceeded maximum size"
  | .notInt => "Input should be a valid integer"
  | .notFinite => "Input should be a finite number"
  | .numberUnread => "Input should be a valid number, unable to parse string as a number"
  | .notNumber => "Input should be a valid number"
  | .notList => "Input should be a valid list"
  | .notObject => "Input should be a valid dictionary"
  | .notRecord name => "Input should be a valid dictionary or instance of " ++ name
  | .notListed words => "Input should be " ++ orList words
  | .notWord word => "Input should be " ++ inQuotes word
  | .untaggable => "Input should be a valid dictionary or object to extract fields from"
  | .noTag => "Unable to extract tag using discriminator 'type'"
  | .unknownTag tag expected =>
    "Input tag " ++ inQuotes tag ++ " found using 'type' does not match any of the expected tags: "
      ++ commaList expected
  | .unknownLevel levels => "Value error, log_level must be one of [" ++ commaList levels ++ "]"

end Defect

/-- The path with points between its steps, then the message. -/
def Fault.summary (f : Fault) : String :=
  if f.path.isEmpty then f.defect.message
  else ".".intercalate (f.path.map Step.text) ++ ": " ++ f.defect.message

/-- All faults on one line. -/
def Fault.report (fs : List Fault) : String := "; ".intercalate (fs.map Fault.summary)

/-- The fault found first stands for all of them. -/
def Fault.first (fs : List Fault) : String := fs.head?.elim (Fault.report fs) Fault.summary

end Questionnaire
