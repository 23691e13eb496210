import Mathlib.Data.List.Nodup
import Questionnaire.Proofs.NormalText
import Questionnaire.Proofs.RuleCases

namespace Questionnaire

/-- Every choice is shown by a label of its own. -/
structure NodeData.Labelled (d : NodeData) : Prop where
  shown : ∀ c ∈ d.choices, Text.allBlank c.label = false
  distinct : (d.choices.map fun c => Answer.normal c.label).Nodup

namespace Evaluator

open Answer

variable {ev : Evaluator} {d : NodeData} {c : Choice} {text stored : String}

/-- Is the text, as it is compared, the label of the choice? -/
def isLabel (text : String) (c : Choice) : Bool :=
  !c.label.isEmpty && normal c.label == normal text

theorem isLabel_iff (labelled : d.Labelled) (h : c ∈ d.choices) :
    isLabel text c = true ↔ normal c.label = normal text := by
  have shown : c.label.isEmpty = false := by
    have := labelled.shown c h
    cases empty : c.label.isEmpty with
    | false => rfl
    | true =>
      rw [String.isEmpty_iff.mp empty] at this
      cases this
  simp [isLabel, shown]

theorem find_label (labelled : d.Labelled) (h : c ∈ d.choices)
    (same : normal c.label = normal text) : d.choices.find? (isLabel text) = some c := by
  cases found : d.choices.find? (isLabel text) with
  | none => exact absurd ((isLabel_iff labelled h).mpr same) (List.find?_eq_none.mp found c h)
  | some c' =>
    have hc' := List.mem_of_find?_eq_some found
    have same' := (isLabel_iff labelled hc').mp (List.find?_some found)
    rw [List.inj_on_of_nodup_map labelled.distinct hc' h (same'.trans same.symm)]

theorem normal_words (h : Text.allBlank text = false) : (normal text).isEmpty = false := by
  rw [← Bool.not_eq_true, String.isEmpty_iff, normal_empty, h]
  exact Bool.false_ne_true

/-- What is shown for a choice stands for what it stores. -/
theorem resolveLabel_choice (labelled : d.Labelled) (h : c ∈ d.choices)
    (same : normal c.label = normal text) : ev.resolveLabel d text = c.value := by
  have words := same ▸ normal_words (labelled.shown c h)
  have found := find_label labelled h same
  unfold isLabel at found
  simp only [resolveLabel, words, found, Bool.false_eq_true, ↓reduceIte]

theorem resolve_choice {field : String} (known : ev.definition? field = some d)
    (labelled : d.Labelled) (h : c ∈ d.choices) : ev.resolve field (.str c.label) = c.value := by
  simp only [resolve, known, resolveText]
  exact resolveLabel_choice labelled h rfl

/-- What is shown for the open choice, if it is shown by this label. -/
def shownOther (ev : Evaluator) (label : String) : String :=
  if label.isEmpty then ev.defaultOtherLabel else label

/-- What a choice stores is read as something else where it is taken for a label: another choice
that stores another text is shown by it, or no other choice but the open one is. -/
inductive Misread (ev : Evaluator) (d : NodeData) (stored : String) : Prop
  | choice {o} : o ∈ d.choices → normal o.label = normal stored →
      normalText o.value ≠ normal stored → Misread ev d stored
  | other {label} : (∀ c ∈ d.choices, normal c.label ≠ normal stored) →
      d.otherLabel? = some label → normal (ev.shownOther label) = normal stored →
      Text.allBlank stored = false → normal stored ≠ normal ev.otherValue → Misread ev d stored

theorem resolveLabel_blank (h : Text.allBlank text = true) :
    ev.resolveLabel d text = .str text := by
  simp [resolveLabel, normal_empty.mpr h]

theorem resolveLabel_unshown (labelled : d.Labelled)
    (unshown : ∀ c ∈ d.choices, normal c.label ≠ normal text) (words : Text.allBlank text = false) :
    ev.resolveLabel d text = match d.otherLabel? with
      | none => .str text
      | some label =>
        if normal text ≠ normal ev.otherValue ∧ normal (ev.shownOther label) = normal text then
          .str ev.otherValue
        else .str text := by
  have none : d.choices.find? (isLabel text) = none :=
    List.find?_eq_none.mpr fun c hc label => unshown c hc ((isLabel_iff labelled hc).mp label)
  unfold isLabel at none
  simp only [resolveLabel, normal_words words, none, Bool.false_eq_true, ↓reduceIte]
  cases d.otherLabel? with
  | none => rfl
  | some label => simp [shownOther]

theorem misread_iff (labelled : d.Labelled) :
    normalText (ev.resolveLabel d stored) ≠ normal stored ↔ ev.Misread d stored := by
  have itself : normalText (.str stored) = normal stored := rfl
  by_cases shown : ∃ c ∈ d.choices, normal c.label = normal stored
  · obtain ⟨c, hc, same⟩ := shown
    rw [resolveLabel_choice labelled hc same]
    constructor
    · exact .choice hc same
    · intro misread
      cases misread with
      | @choice c' hc' same' other =>
        rwa [List.inj_on_of_nodup_map labelled.distinct hc hc' (same.trans same'.symm)]
      | other unshown => exact absurd same (unshown c hc)
  · have unshown : ∀ c ∈ d.choices, normal c.label ≠ normal stored :=
      fun c hc same => shown ⟨c, hc, same⟩
    constructor
    · intro differs
      cases words : Text.allBlank stored with
      | true => exact absurd (by rw [resolveLabel_blank words, itself]) differs
      | false =>
        rw [resolveLabel_unshown labelled unshown words] at differs
        split at differs
        · exact absurd itself differs
        · rename_i label open_
          split at differs
          · rename_i h
            exact .other unshown open_ h.2 words h.1
          · exact absurd itself differs
    · intro misread
      cases misread with
      | choice hc same => exact absurd same (unshown _ hc)
      | other _ label same words other =>
        rw [resolveLabel_unshown labelled unshown words, label]
        simp only [if_pos (And.intro other same)]
        exact other.symm

/-- A rule that asks for the text that a choice stores holds on an answer by the choice's label,
unless that text is misread. -/
theorem label_matches_stored (ev : Evaluator) (es : Entries) (r : Rule) (d : NodeData) (c : Choice)
    (stored : String) (a : Json) (known : ev.definition? r.field = some d) (labelled : d.Labelled)
    (choice : c ∈ d.choices) (stores : c.value = .str stored)
    (asks : Operator.ofWord? r.operator = some .equals ∧ r.source = .static ∧
      r.value = .str stored)
    (answer : es.lookup r.field = some a)
    (shown : part r.subField (Answer.unwrap a) = .str c.label) :
    ∃ b, ev.rule (.obj es) r = .ok b ∧ (b = true ↔ ¬ ev.Misread d stored) := by
  obtain ⟨operator, source, target⟩ := asks
  have value : ev.resolve r.field (.str c.label) = .str stored :=
    (resolve_choice known labelled choice).trans stores
  have asked : ev.resolve r.field (.str stored) = ev.resolveLabel d stored := by
    simp only [resolve, known, resolveText]
  have result : ev.rule (.obj es) r = _ := rule_pair answer (.static source)
  rw [operator, shown, value, target, asked] at result
  refine ⟨_, result, ?_⟩
  rw [← misread_iff labelled, not_not]
  exact beq_iff_eq.trans eq_comm

/-- How often something is done, in words that stand for numbers. -/
def habits : NodeData :=
  let column (label stored : String) : Choice := ⟨label, .str stored, []⟩
  ⟨"", "", none, .matrix ⟨[column "Tea" "tea"],
    [column "Never" "0", column "Now and then" "1", column "Daily" "2"], false⟩, []⟩

theorem habits_labelled : habits.Labelled where
  shown := by decide +kernel
  distinct := by decide +kernel

/-- An answer in words is what the rule asks for by the number. -/
theorem label_matches_stored_habits : ∃ b,
    Evaluator.rule ⟨[("habits", habits)], "other", "Other"⟩
      (.obj [("habits", .obj [("answer", .obj [("tea", .str "Now and then")])])])
      ⟨none, "habits", some "tea", "equals", .str "1", .static⟩ = .ok b ∧ b = true := by
  obtain ⟨b, value, holds⟩ := label_matches_stored ⟨[("habits", habits)], "other", "Other"⟩
    [("habits", .obj [("answer", .obj [("tea", .str "Now and then")])])]
    ⟨none, "habits", some "tea", "equals", .str "1", .static⟩ habits ⟨"Now and then", .str "1", []⟩
    "1" _ rfl habits_labelled (by decide +kernel) rfl ⟨rfl, rfl, rfl⟩ rfl (by decide +kernel)
  refine ⟨b, value, holds.mpr fun misread => ?_⟩
  cases misread with
  | @choice o ho same =>
    have unshown : ∀ o ∈ habits.choices, normal o.label ≠ normal "1" := by decide +kernel
    exact unshown o ho same
  | other _ open_ => cases open_

/-- A question on a scale that is stored the other way round than it is shown. -/
def scale : NodeData :=
  let choice (label stored : String) : Choice := ⟨label, .str stored, []⟩
  ⟨"", "", none, .choice ⟨[choice "1" "5", choice "2" "4", choice "3" "3", choice "4" "2",
    choice "5" "1"], false, none, none, false⟩, []⟩

theorem scale_labelled : scale.Labelled where
  shown := by decide +kernel
  distinct := by decide +kernel

def asksFor (stored : String) : Rule := ⟨none, "rating", none, "equals", .str stored, .static⟩

/-- At its end the answer by the label is stored as what the rule asks for, and the rule does not
hold: the text that it asks for is the label of the other end. -/
theorem label_misread_end :
    scale.Labelled ∧ (⟨"1", .str "5", []⟩ : Choice) ∈ scale.choices ∧
    Evaluator.rule ⟨[("rating", scale)], "other", "Other"⟩ (.obj [("rating", .str "1")])
      (asksFor "5") = .ok false :=
  ⟨scale_labelled, by decide +kernel, by decide +kernel⟩

end Evaluator
end Questionnaire
