import Questionnaire.Node.Kind
import Questionnaire.Schema.Part
/-!
What each family of nodes carries besides its label, description and condition.
-/

namespace Questionnaire

/-- A selectable answer: what is shown and what is stored. -/
structure Choice where
  label : String
  value : Json
  extras : Entries
deriving DecidableEq, Repr

namespace Choice

def ownPart : Part (String × Json) :=
  .both (.field (.plain "label") .string "") (.field (.plain "value") .any .null)

def ofJson : Json → Checked Choice
  | .obj es => (ownPart.read es).map fun (label, value) => ⟨label, value, ownPart.others es⟩
  | _ => Checked.fault (.notRecord "Option")

def toJson (c : Choice) : Json :=
  .obj (ownPart.write (c.label, c.value) ++ Entries.written c.extras)

def shape : Shape Choice := { read := ofJson, write := toJson }

end Choice

/-- How a session is closed at an end. -/
inductive Outcome where
  | completed
  | disqualified
  | qualityTerminate
  | securityTerminate
deriving DecidableEq, Repr

namespace Outcome

def all : List Outcome := [.completed, .disqualified, .qualityTerminate, .securityTerminate]

def word : Outcome → String
  | .completed => "completed"
  | .disqualified => "disqualified"
  | .qualityTerminate => "quality_terminate"
  | .securityTerminate => "security_terminate"

def ofWord? (w : String) : Option Outcome := all.find? (·.word == w)

def shape : Shape Outcome := .oneOf (all.map word) ofWord? word

end Outcome

/-- Postal codes given as one text or as a list. -/
inductive ZipCodes where
  | one (text : String)
  | many (codes : List String)
deriving DecidableEq, Repr

namespace ZipCodes

/-- What fits neither alternative has the faults of both. -/
def ofJson : Json → Checked ZipCodes
  | .str s => .ok (.one s)
  | j =>
    match (Shape.list .string).read j with
    | .ok codes => .ok (.many codes)
    | .error fs =>
      .both (fun _ z => z) (Checked.within (.key "str") (Shape.string.read j))
        (Checked.within (.key "list[str]") (.error fs))

def toJson : ZipCodes → Json
  | .one s => .str s
  | .many codes => (Shape.list .string).write codes

def shape : Shape ZipCodes := { read := ofJson, write := toJson }

end ZipCodes

structure ChoiceFields where
  options : List Choice
  allowOther : Bool
  otherLabel : Option String
  maxChoices : Option Int
  searchable : Bool
deriving DecidableEq, Repr

structure MatrixFields where
  rows : List Choice
  columns : List Choice
  multiple : Bool
deriving DecidableEq, Repr

structure MediaFields where
  url : Option String
  urls : List Json
  alt : Option String
  autoplay : Bool
  interactionType : String
  questionLabel : Option String
  sliderConfig : Option String
  choices : List Choice
deriving DecidableEq, Repr

inductive Payload where
  | start (welcomeMessage : String)
  | ending (message : String) (redirectUrl : Option String) (outcome : Outcome)
  | branch
  | text (placeholder : String) (longAnswer : Bool)
  | zipCode (allowedZips : Option ZipCodes)
  | multiInput (inputs : List Choice)
  | numeric (min max step : Option Binary64)
  | choice (fields : ChoiceFields)
  | consent (checkboxLabel : String)
  | rating (items : List Choice) (maxRating : Int)
  | matrix (fields : MatrixFields)
  | cascading (steps : List Entries)
  | media (fields : MediaFields)
deriving DecidableEq, Repr

namespace Payload

def family : Payload → Family
  | .start .. => .start
  | .ending .. => .ending
  | .branch => .branch
  | .text .. => .text
  | .zipCode .. => .zipCode
  | .multiInput .. => .multiInput
  | .numeric .. => .numeric
  | .choice .. => .choice
  | .consent .. => .consent
  | .rating .. => .rating
  | .matrix .. => .matrix
  | .cascading .. => .cascading
  | .media .. => .media

def choices (names : Spelling) : Part (List Choice) := .field names (.list Choice.shape) []

def startPart : Part String := .field ⟨"welcomeMessage", "welcome_message"⟩ .string ""

def endingPart : Part (String × Option String × Outcome) :=
  .both (.field (.plain "message") .string "") <|
  .both (.field ⟨"redirectUrl", "redirect_url"⟩ (.optional .string) none)
    (.field (.plain "outcome") Outcome.shape .completed)

def textPart : Part (String × Bool) :=
  .both (.field (.plain "placeholder") .string "")
    (.field ⟨"longAnswer", "long_answer"⟩ .bool false)

def zipCodePart : Part (Option ZipCodes) :=
  .field ⟨"allowedZips", "allowed_zips"⟩ (.optional ZipCodes.shape) none

def multiInputPart : Part (List Choice) := choices ⟨"fields", "input_fields"⟩

def numericPart : Part (Option Binary64 × Option Binary64 × Option Binary64) :=
  .both (.field (.plain "min") (.optional .number) none) <|
  .both (.field (.plain "max") (.optional .number) none)
    (.field (.plain "step") (.optional .number) none)

def choicePart : Part ChoiceFields :=
  .as (β := ChoiceFields)
    (.both (choices (.plain "options")) <|
     .both (.field ⟨"allowOther", "allow_other"⟩ .bool false) <|
     .both (.field ⟨"otherLabel", "other_label"⟩ (.optional .string) none) <|
     .both (.field ⟨"maxChoices", "max_choices"⟩ (.optional .int) none)
      (.field (.plain "searchable") .bool false))
    (fun (options, allowOther, otherLabel, maxChoices, searchable) =>
      ⟨options, allowOther, otherLabel, maxChoices, searchable⟩)
    (fun c => (c.options, c.allowOther, c.otherLabel, c.maxChoices, c.searchable))

def consentPart : Part String := .field ⟨"checkboxLabel", "checkbox_label"⟩ .string ""

def ratingPart : Part (List Choice × Int) :=
  .both (choices (.plain "items")) (.field ⟨"maxRating", "max_rating"⟩ .int 5)

def matrixPart : Part MatrixFields :=
  .as (β := MatrixFields)
    (.both (choices (.plain "rows")) <|
     .both (choices (.plain "columns")) (.field (.plain "multiple") .bool false))
    (fun (rows, columns, multiple) => ⟨rows, columns, multiple⟩)
    (fun m => (m.rows, m.columns, m.multiple))

def cascadingPart : Part (List Entries) := .field (.plain "steps") (.list .object) []

def mediaPart : Part MediaFields :=
  .as (β := MediaFields)
    (.both (.field (.plain "url") (.optional .string) none) <|
     .both (.field (.plain "urls") (.list .any) []) <|
     .both (.field (.plain "alt") (.optional .string) none) <|
     .both (.field (.plain "autoplay") .bool false) <|
     .both (.field ⟨"interactionType", "interaction_type"⟩ .string "none") <|
     .both (.field ⟨"questionLabel", "question_label"⟩ (.optional .string) none) <|
     .both (.field ⟨"sliderConfig", "slider_config"⟩ (.optional .string) none)
      (choices (.plain "choices")))
    (fun (url, urls, alt, autoplay, interactionType, questionLabel, sliderConfig, choices) =>
      ⟨url, urls, alt, autoplay, interactionType, questionLabel, sliderConfig, choices⟩)
    (fun m => (m.url, m.urls, m.alt, m.autoplay, m.interactionType, m.questionLabel, m.sliderConfig,
      m.choices))

def used (f : Family) (es : Entries) : List String :=
  match f with
  | .start => startPart.used es
  | .ending => endingPart.used es
  | .branch => []
  | .text => textPart.used es
  | .zipCode => zipCodePart.used es
  | .multiInput => multiInputPart.used es
  | .numeric => numericPart.used es
  | .choice => choicePart.used es
  | .consent => consentPart.used es
  | .rating => ratingPart.used es
  | .matrix => matrixPart.used es
  | .cascading => cascadingPart.used es
  | .media => mediaPart.used es

def ofEntries (f : Family) (es : Entries) : Checked Payload :=
  match f with
  | .start => (startPart.read es).map .start
  | .ending => (endingPart.read es).map fun (message, url, outcome) => .ending message url outcome
  | .branch => .ok .branch
  | .text => (textPart.read es).map fun (placeholder, long) => .text placeholder long
  | .zipCode => (zipCodePart.read es).map .zipCode
  | .multiInput => (multiInputPart.read es).map .multiInput
  | .numeric => (numericPart.read es).map fun (min, max, step) => .numeric min max step
  | .choice => (choicePart.read es).map .choice
  | .consent => (consentPart.read es).map .consent
  | .rating => (ratingPart.read es).map fun (items, top) => .rating items top
  | .matrix => (matrixPart.read es).map .matrix
  | .cascading => (cascadingPart.read es).map .cascading
  | .media => (mediaPart.read es).map .media

def toEntries : Payload → Entries
  | .start m => startPart.write m
  | .ending m url o => endingPart.write (m, url, o)
  | .branch => []
  | .text p l => textPart.write (p, l)
  | .zipCode z => zipCodePart.write z
  | .multiInput xs => multiInputPart.write xs
  | .numeric lo hi step => numericPart.write (lo, hi, step)
  | .choice c => choicePart.write c
  | .consent l => consentPart.write l
  | .rating xs n => ratingPart.write (xs, n)
  | .matrix m => matrixPart.write m
  | .cascading xs => cascadingPart.write xs
  | .media m => mediaPart.write m

/-- What is read for a family is a payload of that family. -/
theorem family_of_ofEntries {f : Family} {es : Entries} {p : Payload} (h : ofEntries f es = .ok p) :
    p.family = f := by
  cases f <;> simp only [ofEntries] at h
  case branch => cases h; rfl
  all_goals
    revert h
    generalize Part.read _ es = read
    cases read with
    | error fs => nofun
    | ok value =>
      rintro ⟨⟩
      rfl

end Payload
end Questionnaire
