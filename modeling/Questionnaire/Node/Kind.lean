/-!
The kinds of node that a survey is drawn with, and the families of kinds that carry the same data.
-/

namespace Questionnaire

inductive NodeKind where
  | start
  | ending
  | branch
  | textInput
  | emailInput
  | dateInput
  | zipCodeInput
  | multiInput
  | numberInput
  | slider
  | singleChoice
  | multipleChoice
  | dropdown
  | ranking
  | consent
  | rating
  | matrixChoice
  | cascadingChoice
  | image
  | video
  | audio
deriving DecidableEq, Repr

inductive Family where
  | start
  | ending
  | branch
  | text
  | zipCode
  | multiInput
  | numeric
  | choice
  | consent
  | rating
  | matrix
  | cascading
  | media
deriving DecidableEq, Repr

namespace NodeKind

def all : List NodeKind :=
  [.start, .ending, .branch, .textInput, .emailInput, .dateInput, .zipCodeInput, .multiInput,
    .numberInput, .slider, .singleChoice, .multipleChoice, .dropdown, .ranking, .consent, .rating,
    .matrixChoice, .cascadingChoice, .image, .video, .audio]

def tag : NodeKind → String
  | .start => "start"
  | .ending => "end"
  | .branch => "branch"
  | .textInput => "textInput"
  | .emailInput => "emailInput"
  | .dateInput => "dateInput"
  | .zipCodeInput => "zipCodeInput"
  | .multiInput => "multiInput"
  | .numberInput => "numberInput"
  | .slider => "slider"
  | .singleChoice => "singleChoice"
  | .multipleChoice => "multipleChoice"
  | .dropdown => "dropdown"
  | .ranking => "ranking"
  | .consent => "consent"
  | .rating => "rating"
  | .matrixChoice => "matrixChoice"
  | .cascadingChoice => "cascadingChoice"
  | .image => "image"
  | .video => "video"
  | .audio => "audio"

def ofTag? (t : String) : Option NodeKind := all.find? (·.tag == t)

def family : NodeKind → Family
  | .start => .start
  | .ending => .ending
  | .branch => .branch
  | .textInput | .emailInput | .dateInput => .text
  | .zipCodeInput => .zipCode
  | .multiInput => .multiInput
  | .numberInput | .slider => .numeric
  | .singleChoice | .multipleChoice | .dropdown | .ranking => .choice
  | .consent => .consent
  | .rating => .rating
  | .matrixChoice => .matrix
  | .cascadingChoice => .cascading
  | .image | .video | .audio => .media

theorem ofTag?_tag (k : NodeKind) : ofTag? k.tag = some k := by cases k <;> decide

theorem tag_injective {k l : NodeKind} (h : k.tag = l.tag) : k = l := by
  have hk := ofTag?_tag k
  rw [h, ofTag?_tag l] at hk
  exact (Option.some.inj hk).symm

end NodeKind

/-- The name of a family in messages. -/
def Family.name : Family → String
  | .start => "Start"
  | .ending => "End"
  | .branch => "Branch"
  | .text => "Text"
  | .zipCode => "ZipCode"
  | .multiInput => "MultiInput"
  | .numeric => "Numeric"
  | .choice => "Choice"
  | .consent => "Consent"
  | .rating => "Rating"
  | .matrix => "Matrix"
  | .cascading => "Cascading"
  | .media => "Media"

end Questionnaire
