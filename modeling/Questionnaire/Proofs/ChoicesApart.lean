import Questionnaire.Proofs.Blankness
import Questionnaire.Proofs.Labels

namespace Questionnaire

/-- Those choices that store something store different texts. -/
def NodeData.Valued (d : NodeData) : Prop :=
  ((d.choices.filter fun c => !c.value.isNull).map fun c => Answer.normalText c.value).Nodup

namespace Evaluator

open Answer

variable {ev : Evaluator} {es : Entries} {r : Rule} {d : NodeData} {c c' : Choice}

/-- An answer by one choice meets a rule that asks for another. A choice meets itself, but those
that store no text are not told from one another; and one that stores a list is met by its items. -/
def Meets (c c' : Choice) : Prop :=
  match c.value with
  | .arr xs => ∃ x ∈ xs, normalText x = normalText c'.value
  | v => c = c' ∨ normalText v = "" ∧ normalText c'.value = ""

theorem normalText_null : normalText .null = "" := rfl

/-- Two choices with the same text are the same, or the text is empty. -/
theorem Valued.same_text (valued : d.Valued) (h : c ∈ d.choices) (h' : c' ∈ d.choices) :
    normalText c.value = normalText c'.value ↔
      c = c' ∨ normalText c.value = "" ∧ normalText c'.value = "" := by
  constructor
  · intro same
    by_cases none : c.value = .null ∨ c'.value = .null
    · right
      rcases none with none | none
      · rw [← same, none]
        exact ⟨normalText_null, normalText_null⟩
      · rw [same, none]
        exact ⟨normalText_null, normalText_null⟩
    · left
      obtain ⟨some, some'⟩ := not_or.mp none
      have given {c : Choice} (h : c ∈ d.choices) (some : c.value ≠ .null) :
          c ∈ d.choices.filter fun c => !c.value.isNull := by
        refine List.mem_filter.mpr ⟨h, ?_⟩
        cases value : c.value with
        | null => exact absurd value some
        | _ => rfl
      exact List.inj_on_of_nodup_map valued (given h some) (given h' some') same
  · rintro (rfl | ⟨silent, silent'⟩)
    · rfl
    · rw [silent, silent']

theorem isMatch_choices (valued : d.Valued) (h : c ∈ d.choices) (h' : c' ∈ d.choices) :
    isMatch c.value c'.value = true ↔ Meets c c' := by
  have texts := Valued.same_text valued h h'
  rw [Meets]
  cases value : c.value with
  | arr xs => simp [isMatch]
  | _ => simpa [isMatch, value] using texts

/-- Where the choices are shown by labels of their own and store texts of their own, if any, an
answer by the label of one holds of a rule that asks for the label of another exactly where the two
meet, and it counts as an answer exactly where the choice stores something that is not blank. -/
theorem choices_apart (ev : Evaluator) (es : Entries) (r : Rule) (d : NodeData) (c c' : Choice)
    (a : Json) (known : ev.definition? r.field = some d) (labelled : d.Labelled)
    (valued : d.Valued) (choice : c ∈ d.choices) (choice' : c' ∈ d.choices)
    (answer : es.lookup r.field = some a)
    (shown : part r.subField (Answer.unwrap a) = .str c.label) :
    (∃ b, ev.rule (.obj es) (r.asks .equals (.str c'.label) .static) = .ok b ∧
      (b = true ↔ Meets c c')) ∧
    ∃ b, ev.rule (.obj es) (r.asks .isSet .null .static) = .ok b ∧
      (b = true ↔ isBlank c.value = false) := by
  have stored := resolve_choice known labelled choice
  have asked := resolve_choice known labelled choice'
  constructor
  · refine ⟨_, ?_, isMatch_choices valued choice choice'⟩
    refine rule_applied answer (.static rfl) (Operator.ofWord?_word .equals) ?_
    change apply .equals (ev.resolve r.field (part r.subField (Answer.unwrap a)))
      (ev.resolve r.field (.str c'.label)) = _
    rw [shown, stored, asked, apply]
  · refine ⟨!isBlank c.value, ?_, by simp⟩
    refine rule_applied answer (.static rfl) (Operator.ofWord?_word .isSet) ?_
    change apply .isSet (ev.resolve r.field (part r.subField (Answer.unwrap a))) _ = _
    rw [shown, stored, apply]

/-- A choice of colours by name, each with what is stored for it. -/
def colours (stored : List (String × Json)) : NodeData :=
  ⟨"", "", none, .choice ⟨stored.map fun (name, value) => ⟨name, value, []⟩, false, none, none,
    false⟩, []⟩

def asksColour : Rule := ⟨none, "colour", none, "", .null, .static⟩

/-- One colour that stores nothing is told from one that stores something. -/
theorem choices_apart_colours :
    let ev : Evaluator := ⟨[("colour", colours [("Red", .str "r"), ("Blue", .null)])], "other",
      "Other"⟩
    (∃ b, ev.rule (.obj [("colour", .str "Red")]) (asksColour.asks .equals (.str "Blue") .static)
      = .ok b ∧ b = false) ∧
    ∃ b, ev.rule (.obj [("colour", .str "Red")]) (asksColour.asks .isSet .null .static) = .ok b ∧
      b = true := by
  intro ev
  have valued : (colours [("Red", .str "r"), ("Blue", .null)]).Valued := by
    unfold NodeData.Valued
    decide +kernel
  obtain ⟨⟨b, asks, met⟩, b', set, filled⟩ := choices_apart ev [("colour", .str "Red")] asksColour
    (colours [("Red", .str "r"), ("Blue", .null)]) ⟨"Red", .str "r", []⟩ ⟨"Blue", .null, []⟩
    (.str "Red") rfl ⟨by decide +kernel, by decide +kernel⟩ valued (by decide +kernel)
    (by decide +kernel) rfl rfl
  refine ⟨⟨b, asks, ?_⟩, b', set, filled.mpr (by decide +kernel)⟩
  rw [← Bool.not_eq_true, met]
  rintro (same | ⟨silent, -⟩)
  · exact absurd same (by decide)
  · exact absurd silent (by decide +kernel)

/-- Two that store nothing are not told from one another, and either counts as no answer. -/
theorem choices_merged :
    let d := colours [("Red", .null), ("Blue", .null)]
    let ev : Evaluator := ⟨[("colour", d)], "other", "Other"⟩
    d.Labelled ∧ d.Valued ∧
    ev.rule (.obj [("colour", .str "Red")]) (asksColour.asks .equals (.str "Blue") .static)
      = .ok true ∧
    ev.rule (.obj [("colour", .str "Red")]) (asksColour.asks .isSet .null .static) = .ok false := by
  intro d ev
  exact ⟨⟨by decide +kernel, by decide +kernel⟩, by unfold NodeData.Valued; decide +kernel,
    by decide +kernel, by decide +kernel⟩

end Evaluator
end Questionnaire
