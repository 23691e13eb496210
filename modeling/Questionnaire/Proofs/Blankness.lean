import Mathlib.Control.Monad.Basic
import Questionnaire.Proofs.RuleCases

namespace Questionnaire

/-- The rule about the same part of the same answer, with another operator and something else to
compare with. -/
def Rule.asks (r : Rule) (op : Operator) (value : Json) (source : Source) : Rule :=
  { r with operator := op.word, value, source }

theorem Operator.ofWord?_word (op : Operator) : ofWord? op.word = some op := by
  cases op <;> decide

namespace Evaluator

variable {ev : Evaluator} {es : Entries} {r : Rule}

/-- Is there nothing, or nothing but white space, in what a rule reads of the answer? -/
def blankAt (ev : Evaluator) (es : Entries) (field : String) (subField : Option String) : Bool :=
  (es.lookup field).all fun a =>
    Answer.isBlank (ev.resolve field (part subField (Answer.unwrap a)))

/-- The field is answered, and what the rule compares with is an answer that is not there. -/
def Dangling (es : Entries) (r : Rule) : Prop :=
  (es.lookup r.field).isSome ∧ ∀ t, ¬ Target es r t

theorem settled_cases (settled : ¬ Dangling es r) : es.lookup r.field = none ∨
    ∃ a t, es.lookup r.field = some a ∧ Target es r t := by
  cases answer : es.lookup r.field with
  | none => exact .inl rfl
  | some a =>
    by_cases target : ∃ t, Target es r t
    · obtain ⟨t, target⟩ := target
      exact .inr ⟨a, t, rfl, target⟩
    · exact absurd ⟨by rw [answer]; rfl, not_exists.mp target⟩ settled

theorem rule_isEmpty (settled : ¬ Dangling es r)
    (asks : Operator.ofWord? r.operator = some .isEmpty) :
    ev.rule (.obj es) r = .ok (ev.blankAt es r.field r.subField) := by
  rcases settled_cases settled with unanswered | ⟨a, t, answer, target⟩
  · rw [rule_no_answer unanswered, asks, blankAt, unanswered]
    rfl
  · rw [blankAt, answer]
    exact rule_applied answer target asks rfl

theorem rule_isSet (settled : ¬ Dangling es r) (asks : Operator.ofWord? r.operator = some .isSet) :
    ev.rule (.obj es) r = .ok (!ev.blankAt es r.field r.subField) := by
  rcases settled_cases settled with unanswered | ⟨a, t, answer, target⟩
  · rw [rule_no_answer unanswered, asks, blankAt, unanswered]
    rfl
  · rw [blankAt, answer]
    exact rule_applied answer target asks rfl

theorem rule_dangling (dangling : Dangling es r) : ev.rule (.obj es) r = .ok false := by
  obtain ⟨answered, targetless⟩ := dangling
  obtain ⟨a, answer⟩ := Option.isSome_iff_exists.mp answered
  exact rule_no_target answer targetless

/-- Whatever a rule has to compare with, if it asks whether there is an answer, then it looks at the
answer alone, and of the two ways to ask exactly one holds. A rule that names an answer that is not
there holds neither way. -/
theorem blankness_of_answer (ev : Evaluator) (es : Entries) (r : Rule) (value : Json)
    (source : Source) :
    (¬ Dangling es (r.asks .isSet value source) →
      ev.rule (.obj es) (r.asks .isSet value source) = .ok (!ev.blankAt es r.field r.subField)) ∧
    (¬ Dangling es (r.asks .isEmpty value source) →
      ev.rule (.obj es) (r.asks .isEmpty value source) = .ok (ev.blankAt es r.field r.subField)) ∧
    ∀ op, Dangling es (r.asks op value source) →
      ev.rule (.obj es) (r.asks op value source) = .ok false :=
  ⟨fun settled => rule_isSet settled (Operator.ofWord?_word .isSet),
    fun settled => rule_isEmpty settled (Operator.ofWord?_word .isEmpty),
    fun _ dangling => rule_dangling dangling⟩

/-- A rule about the age of the partner, which is part of an answer. -/
def partnerAge : Rule := ⟨none, "partner", some "age", "", .null, .static⟩

/-- What was left over from comparing with another answer makes no difference, be it taken for the
answer or for itself. -/
theorem blankness_of_answer_partner :
    let ev : Evaluator := ⟨[], "other", "Other"⟩
    let es : Entries := [("partner", .obj [("age", .int 40)]), ("age", .null)]
    ev.rule (.obj es) (partnerAge.asks .isSet (.str "age") .variable) = .ok true ∧
      ev.rule (.obj es) (partnerAge.asks .isSet (.str "age") .static) = .ok true ∧
      ev.rule (.obj es) (partnerAge.asks .isEmpty (.str "age") .variable) = .ok false := by
  intro ev es
  have named (op : Operator) : ¬ Dangling es (partnerAge.asks op (.str "age") .variable) :=
    fun dangling => dangling.2 _ (.named rfl rfl rfl)
  have itself (op : Operator) : ¬ Dangling es (partnerAge.asks op (.str "age") .static) :=
    fun dangling => dangling.2 _ (.static rfl)
  obtain ⟨set, empty, -⟩ := blankness_of_answer ev es partnerAge (.str "age") .variable
  obtain ⟨set', -, -⟩ := blankness_of_answer ev es partnerAge (.str "age") .static
  exact ⟨set (named _), set' (itself _), empty (named _)⟩

/-- Left over from comparing with an answer that is not there, it makes the rule fail, and the
opposite rule as well. -/
theorem blankness_dangling :
    let ev : Evaluator := ⟨[], "other", "Other"⟩
    let es : Entries := [("partner", .obj [("age", .int 40)])]
    ev.rule (.obj es) (partnerAge.asks .isSet (.str "age") .static) = .ok true ∧
      ev.rule (.obj es) (partnerAge.asks .isSet (.str "age") .variable) = .ok false ∧
      ev.rule (.obj es) (partnerAge.asks .isEmpty (.str "age") .variable) = .ok false := by
  intro ev es
  exact ⟨by decide +kernel, by decide +kernel, by decide +kernel⟩

end Evaluator
end Questionnaire
