import Mathlib.Data.List.Forall2
import Questionnaire.Json.Ordered
import Questionnaire.Proofs.Blankness
import Questionnaire.Proofs.NormalText

namespace Questionnaire
open Answer

/-- The same value, or a text that is compared as the same. -/
inductive Reworded : Json → Json → Prop
  | same (v : Json) : Reworded v v
  | text {s s' : String} : normal s = normal s' → Reworded (.str s) (.str s')

/-- The same value in other words, where it is a text, or with the texts in it in other words, where
it is a list. -/
inductive Rephrased : Json → Json → Prop
  | one {v v' : Json} : Reworded v v' → Rephrased v v'
  | list {xs ys : List Json} : List.Forall₂ Reworded xs ys → Rephrased (.arr xs) (.arr ys)

namespace Reworded

variable {v v' : Json}

theorem normalText (h : Reworded v v') : normalText v = Answer.normalText v' := by
  cases h with
  | same => rfl
  | text same => exact same

theorem isBlank (h : Reworded v v') : isBlank v = Answer.isBlank v' := by
  cases h with
  | same => rfl
  | text same => exact Bool.eq_iff_iff.mpr (by rw [Answer.isBlank, Answer.isBlank, ← normal_empty,
      ← normal_empty, same])

/-- The label that a text is taken for depends on how it is compared. -/
theorem resolveLabel (ev : Evaluator) (d : NodeData) {s s' : String} (same : normal s = normal s') :
    Reworded (ev.resolveLabel d s) (ev.resolveLabel d s') := by
  simp only [Evaluator.resolveLabel, same]
  split
  · exact .text same
  · cases d.choices.find? fun c => !c.label.isEmpty && normal c.label == normal s' with
    | some c => exact .same c.value
    | none =>
      cases d.otherLabel? with
      | none => exact .text same
      | some label =>
        dsimp only
        generalize (if label.isEmpty then ev.defaultOtherLabel else label) = shown
        split
        · exact .same (.str ev.otherValue)
        · exact .text same

theorem resolveText (ev : Evaluator) (d : NodeData) (h : Reworded v v') :
    Reworded (ev.resolveText d v) (ev.resolveText d v') := by
  cases h with
  | same => exact .same (ev.resolveText d v)
  | text same =>
    rw [Evaluator.resolveText, Evaluator.resolveText]
    exact resolveLabel ev d same

theorem resolve (ev : Evaluator) (field : String) (h : Reworded v v') :
    Reworded (ev.resolve field v) (ev.resolve field v') := by
  cases h with
  | same => exact .same (ev.resolve field v)
  | text same =>
    rw [Evaluator.resolve, Evaluator.resolve]
    cases ev.definition? field with
    | none => exact .text same
    | some d => exact (Reworded.text same).resolveText ev d

end Reworded

namespace Rephrased

variable {v v' t t' : Json}

theorem part_unwrap (subField : Option String) (h : Rephrased v v') :
    Rephrased (Evaluator.part subField (unwrap v)) (Evaluator.part subField (unwrap v')) := by
  cases h with
  | list reworded => cases subField <;> exact .list reworded
  | one reworded =>
    cases reworded with
    | same => exact .one (.same _)
    | text same => cases subField <;> exact .one (.text same)

theorem resolve (ev : Evaluator) (field : String) (h : Rephrased v v') :
    Rephrased (ev.resolve field v) (ev.resolve field v') := by
  cases h with
  | one reworded => exact .one (reworded.resolve ev field)
  | list reworded =>
    rw [Evaluator.resolve, Evaluator.resolve]
    cases ev.definition? field with
    | none => exact .list reworded
    | some d =>
      refine .list (List.forall₂_map_left_iff.mpr (List.forall₂_map_right_iff.mpr ?_))
      exact reworded.imp fun _ _ same => same.resolveText ev d

theorem isBlank (h : Rephrased v v') : isBlank v = Answer.isBlank v' := by
  cases h with
  | one reworded => exact reworded.isBlank
  | list reworded => cases reworded <;> rfl

theorem isMatch (h : Rephrased v v') (target : normalText t = normalText t') :
    isMatch v t = Answer.isMatch v' t' := by
  cases h with
  | one reworded =>
    cases reworded with
    | same => cases v <;> simp only [Answer.isMatch, target]
    | text same =>
      have texts : normalText (.str _) = normalText (.str _) := same
      simp only [Answer.isMatch, texts, target]
  | list reworded =>
    -- each item of the list is compared by itself
    simp only [Answer.isMatch, target]
    induction reworded with
    | nil => rfl
    | cons same _ ih => rw [List.any_cons, List.any_cons, same.normalText, ih]

theorem contains (h : Rephrased v v') (target : normalText t = normalText t') :
    contains v t = Answer.contains v' t' := by
  cases h with
  | one reworded =>
    cases reworded with
    | same =>
      cases v with
      | arr xs => exact isMatch (.one (.same (.arr xs))) target
      | _ => simp only [Answer.contains, target]
    | text same =>
      have texts : normalText (.str _) = normalText (.str _) := same
      simp only [Answer.contains, texts, target]
  | list reworded => exact isMatch (.list reworded) target

end Rephrased

/-- Does the operator compare texts, or ask whether there is an answer? -/
def Operator.isTextual : Operator → Bool
  | .equals | .notEquals | .contains | .notContains | .isSet | .isEmpty => true
  | _ => false

/-- Does the operator ask whether there is an answer? -/
def Operator.isUnary (op : Operator) : Bool := op == .isSet || op == .isEmpty

namespace Evaluator

/-- What a rule reads of the answer to its field: what is inside a richer answer, and of that the
part that the rule names. -/
def read? (es : Entries) (r : Rule) : Option Json :=
  (es.lookup r.field).map fun a => part r.subField (unwrap a)

/-- One rule reads and compares with the same on some answers as another on others, in other
words. -/
structure Retold (es es' : Entries) (r r' : Rule) : Prop where
  answer : Option.Rel Rephrased (read? es r) (read? es' r')
  target : Option.Rel Rephrased (target? (.obj es) r) (target? (.obj es') r')

theorem apply_unary {op : Operator} {v v' t t' : Json} (unary : op.isUnary = true)
    (value : Rephrased v v') : ∃ b, apply op v t = .ok b ∧ apply op v' t' = .ok b := by
  have blank := value.isBlank
  cases op with
  | isSet => exact ⟨_, rfl, by rw [apply, blank]⟩
  | isEmpty => exact ⟨_, rfl, by rw [apply, blank]⟩
  | _ => cases unary

/-- With texts only a text is compared, or a list as it is. -/
theorem apply_textual {op : Operator} {v v' t t' : Json} (textual : op.isTextual = true)
    (value : Rephrased v v') (target : Reworded t t') :
    ∃ b, apply op v t = .ok b ∧ apply op v' t' = .ok b := by
  have isMatch := value.isMatch target.normalText
  have contains := value.contains target.normalText
  cases op with
  | equals => exact ⟨_, rfl, by rw [apply, isMatch]⟩
  | notEquals => exact ⟨_, rfl, by rw [apply, isMatch]⟩
  | contains => exact ⟨_, rfl, by rw [apply, contains]⟩
  | notContains => exact ⟨_, rfl, by rw [apply, contains]⟩
  | isSet => exact apply_unary rfl value
  | isEmpty => exact apply_unary rfl value
  | _ => cases textual

/-- Lists apart, what a rule compares with is in other words as a whole. -/
theorem reworded_of_rephrased {t t' : Json} (target : Rephrased t t')
    (kept : ∀ xs, t = .arr xs → t' = .arr xs) : Reworded t t' := by
  cases target with
  | one reworded => exact reworded
  | list _ =>
    rw [kept _ rfl]
    exact .same _

theorem apply_rephrased (ev : Evaluator) (field : String) {op : Operator} {v v' t t' : Json}
    (textual : op.isTextual = true) (value : Rephrased v v') (target : Rephrased t t')
    (kept : op.isUnary = false → ∀ xs, t = .arr xs → t' = .arr xs) :
    ∃ b, apply op (ev.resolve field v) (ev.resolve field t) = .ok b ∧
      apply op (ev.resolve field v') (ev.resolve field t') = .ok b := by
  cases unary : op.isUnary with
  | true => exact apply_unary unary (value.resolve ev field)
  | false =>
    have reworded := reworded_of_rephrased target (kept unary)
    exact apply_textual textual (value.resolve ev field) (reworded.resolve ev field)

/-- The same questions are answered, each with the same in other words. -/
def Reanswered (es es' : Entries) : Prop :=
  ∀ field, Option.Rel Rephrased (es.lookup field) (es'.lookup field)

/-- What a rule reads and compares with is in other words if the answers are, and what it is given
to compare with. -/
theorem Reanswered.retold {es es' : Entries} (answers : Reanswered es es') {r r' : Rule}
    (field : r'.field = r.field) (subField : r'.subField = r.subField)
    (source : r'.source = r.source) (static : r.source = .static → Rephrased r.value r'.value)
    (named : r.source = .variable → r'.value = r.value) : Retold es es' r r' := by
  have unwrapped (field : String) (subField : Option String) :
      Option.Rel Rephrased ((es.lookup field).map fun a => part subField (unwrap a))
        ((es'.lookup field).map fun a => part subField (unwrap a)) := by
    have answer := answers field
    generalize es.lookup field = a, es'.lookup field = a' at answer
    cases answer with
    | none => exact .none
    | some rephrased => exact .some (rephrased.part_unwrap subField)
  constructor
  · rw [read?, read?, field, subField]
    exact unwrapped r.field r.subField
  · rw [target?, target?, source]
    cases kind : r.source with
    | static => exact .some (static kind)
    | «variable» =>
      rw [named kind]
      cases r.value with
      | str id => exact unwrapped id none
      | _ => exact .none

theorem targetless {es : Entries} {r : Rule} (h : target? (.obj es) r = none) (t : Json) :
    ¬ Target es r t := by
  intro target
  cases h.symm.trans (target_iff.mpr target)

theorem Retold.rule {es es' : Entries} {r r' : Rule} {op : Operator} (ev : Evaluator)
    (retold : Retold es es' r r') (field : r'.field = r.field)
    (known : Operator.ofWord? r.operator = some op)
    (known' : Operator.ofWord? r'.operator = some op) (textual : op.isTextual = true)
    (kept : op.isUnary = false → ∀ xs, target? (.obj es) r = some (.arr xs) →
      target? (.obj es') r' = some (.arr xs)) :
    ∃ b, ev.rule (.obj es) r = .ok b ∧ ev.rule (.obj es') r' = .ok b := by
  obtain ⟨answers, targets⟩ := retold
  cases answer : es.lookup r.field <;> cases answer' : es'.lookup r'.field <;>
    rw [read?, read?, answer, answer'] at answers <;> cases answers
  case none.none.none =>
    refine ⟨_, rule_no_answer answer, ?_⟩
    rw [rule_no_answer answer', known, known']
  case some.some.some a a' read =>
    cases target : target? (.obj es) r <;> cases target' : target? (.obj es') r' <;>
      rw [target, target'] at targets <;> cases targets
    case none.none.none =>
      exact ⟨false, rule_no_target answer (targetless target),
        rule_no_target answer' (targetless target')⟩
    case some.some.some t t' rephrased =>
      rw [target, target'] at kept
      obtain ⟨b, here, there⟩ := apply_rephrased ev r.field textual read rephrased
        fun unary xs list => Option.some.inj (kept unary xs (congrArg some list))
      refine ⟨b, rule_applied answer (target_iff.mp target) known here, ?_⟩
      rw [← field] at there
      exact rule_applied answer' (target_iff.mp target') known' there

/-- A rule that compares texts, or asks whether there is an answer, has the same value whatever the
wording of the answers and of what it is given to compare with; but a list with which texts are
compared has to stay as it is, since it is compared by the text of the whole. And the form by which
a text is compared is itself a wording of the text. -/
theorem wording_immaterial (ev : Evaluator) :
    (∀ s, Reworded (.str s) (.str (normal s))) ∧
    (∀ (es es' : Entries) (r : Rule) (op : Operator) (value value' : Json) (source : Source),
      Reanswered es es' → (source = .static → Rephrased value value') →
      (source = .variable → value' = value) →
      Retold es es' (r.asks op value source) (r.asks op value' source)) ∧
    ∀ (es es' : Entries) (r : Rule) (op : Operator) (value value' : Json) (source source' : Source),
      op.isTextual = true → Retold es es' (r.asks op value source) (r.asks op value' source') →
      (op.isUnary = false → ∀ xs, target? (.obj es) (r.asks op value source) = some (.arr xs) →
        target? (.obj es') (r.asks op value' source') = some (.arr xs)) →
      ∃ b, ev.rule (.obj es) (r.asks op value source) = .ok b ∧
        ev.rule (.obj es') (r.asks op value' source') = .ok b := by
  refine ⟨fun s => .text (normal_normal s).symm, ?_, ?_⟩
  · intro es es' r op value value' source answers static named
    exact answers.retold rfl rfl rfl static named
  · intro es es' r op value value' source source' textual retold kept
    have known := Operator.ofWord?_word op
    exact retold.rule ev rfl known known textual kept

/-- Is the diet one of these? -/
def asksDiet : Rule := ⟨none, "diet", none, "", .null, .static⟩

/-- The case of an answer, its quotation marks and its white space make no difference, nor do those
of what it is compared with. -/
theorem wording_immaterial_diet :
    let ev : Evaluator := ⟨[], "other", "Other"⟩
    ∃ b,
      ev.rule (.obj [("diet", .arr [.str "I DON’T  know", .int 3])])
        (asksDiet.asks .equals (.str "i don't know") .static) = .ok b ∧
      ev.rule (.obj [("diet", .arr [.str "i don't know", .int 3])])
        (asksDiet.asks .equals (.str " I don’t know") .static) = .ok b := by
  intro ev
  obtain ⟨-, retold, same⟩ := wording_immaterial ev
  have answer : Reworded (.str "I DON’T  know") (.str "i don't know") := .text (by decide +kernel)
  have target : Reworded (.str "i don't know") (.str " I don’t know") := .text (by decide +kernel)
  have answers : Reanswered [("diet", .arr [.str "I DON’T  know", .int 3])]
      [("diet", .arr [.str "i don't know", .int 3])] := by
    intro field
    rw [Ordered.lookup_entry, Ordered.lookup_entry]
    split
    · exact .some (.list (.cons answer (.cons (.same _) .nil)))
    · exact .none
  have asked := retold _ _ asksDiet .equals _ _ .static answers (fun _ => .one target) nofun
  refine same _ _ asksDiet .equals _ _ _ _ rfl asked fun _ xs list => ?_
  cases list

/-- The favourite colours, in other words, are no longer those of the first car: a list to compare
with is compared as it is written. -/
theorem wording_of_list :
    let ev : Evaluator := ⟨[], "other", "Other"⟩
    let cars : String × Json := ("cars", .arr [.arr [.str "red"], .arr [.str "blue"]])
    let asks : Rule := ⟨none, "cars", none, "equals", .str "favourites", .variable⟩
    normal " red" = normal "red" ∧
    ev.rule (.obj [cars, ("favourites", .arr [.str "red"])]) asks = .ok true ∧
    ev.rule (.obj [cars, ("favourites", .arr [.str " red"])]) asks = .ok false := by
  intro ev cars asks
  exact ⟨by decide +kernel, by decide +kernel, by decide +kernel⟩

end Evaluator
end Questionnaire
