import Questionnaire.Condition.Evaluate

namespace Questionnaire

section

variable {ε ε' α : Type} {x : Except ε α} {f : ε → ε'}

theorem mapError_ok {a : α} : x.mapError f = .ok a ↔ x = .ok a := by
  cases x with
  | ok b => exact ⟨fun h => Except.ok.inj h ▸ rfl, fun h => Except.ok.inj h ▸ rfl⟩
  | error e => exact iff_of_false nofun nofun

theorem mapError_error {e' : ε'} : x.mapError f = .error e' ↔ ∃ e, x = .error e ∧ f e = e' := by
  cases x with
  | ok b => exact iff_of_false nofun nofun
  | error e =>
    constructor
    · exact fun h => ⟨e, rfl, Except.error.inj h⟩
    · rintro ⟨_, same, rfl⟩
      exact Except.error.inj same ▸ rfl

end

namespace Evaluator

variable {ev : Evaluator} {es : Entries} {r : Rule}

/-- What a rule compares with, where it names an answer or none. -/
inductive Target (es : Entries) (r : Rule) : Json → Prop
  | static : r.source = .static → Target es r r.value
  | named {id a} : r.source = .variable → r.value = .str id → es.lookup id = some a →
      Target es r (Answer.unwrap a)

theorem target_iff {t : Json} : target? (.obj es) r = some t ↔ Target es r t := by
  constructor
  · intro h
    rw [target?] at h
    split at h
    · rename_i source
      obtain rfl := Option.some.inj h
      exact .static source
    · rename_i source
      split at h
      · rename_i id value
        obtain ⟨a, ha, rfl⟩ := Option.map_eq_some_iff.mp h
        exact .named source value ha
      · cases h
  · intro h
    cases h with
    | static source => simp [target?, source]
    | named source value ha => simp [target?, source, value, Json.get?, ha]

theorem Target.unique {t t' : Json} (h : Target es r t) (h' : Target es r t') : t = t' :=
  Option.some.inj ((target_iff.mpr h).symm.trans (target_iff.mpr h'))

theorem rule_no_answer (answer : es.lookup r.field = none) :
    ev.rule (.obj es) r = .ok (Operator.ofWord? r.operator == some .isEmpty) := by
  have operands : ev.operands (.obj es) r = .ok .unanswered := by
    simp only [operands, answer?, answer]
    rfl
  rw [rule, operands]
  rfl

theorem rule_no_target {a : Json} (answer : es.lookup r.field = some a)
    (target : ∀ t, ¬ Target es r t) : ev.rule (.obj es) r = .ok false := by
  have none : target? (.obj es) r = none := by
    apply Option.eq_none_iff_forall_ne_some.mpr
    exact fun t found => target t (target_iff.mp found)
  have operands : ev.operands (.obj es) r = .ok .unresolved := by
    simp only [operands, answer?, answer, none]
    rfl
  rw [rule, operands]
  rfl

theorem rule_pair {a t : Json} (answer : es.lookup r.field = some a) (target : Target es r t) :
    ev.rule (.obj es) r = match Operator.ofWord? r.operator with
      | none => .ok false
      | some op => (apply op (ev.resolve r.field (part r.subField (Answer.unwrap a)))
          (ev.resolve r.field t)).mapError fun _ => .tooLarge := by
  have operands : ev.operands (.obj es) r = .ok (.pair
      (ev.resolve r.field (part r.subField (Answer.unwrap a))) (ev.resolve r.field t)) := by
    simp only [operands, answer?, answer, target_iff.mpr target]
    rfl
  rw [rule, operands]
  rfl

theorem rule_applied {a t : Json} {op : Operator} {b : Bool} (answer : es.lookup r.field = some a)
    (target : Target es r t) (known : Operator.ofWord? r.operator = some op)
    (value : apply op (ev.resolve r.field (part r.subField (Answer.unwrap a)))
      (ev.resolve r.field t) = .ok b) : ev.rule (.obj es) r = .ok b := by
  rw [rule_pair answer target, known]
  exact mapError_ok.mpr value

end Evaluator

/-- A rule about a question without an answer has a value. -/
theorem rule_unanswered (ev : Evaluator) {es : Entries} {r : Rule} {field : String}
    (hf : field ∈ r.fields) (unanswered : es.lookup field = none) : ev.rule (.obj es) r =
      .ok ((es.lookup r.field).isNone && Operator.ofWord? r.operator == some .isEmpty) := by
  cases answer : es.lookup r.field with
  | none => exact Evaluator.rule_no_answer answer
  | some v =>
    have other : field ≠ r.field := by
      rintro rfl
      rw [unanswered] at answer
      cases answer
    -- the question is then the one whose answer the rule compares with
    apply Evaluator.rule_no_target answer
    intro t target
    cases target with
    | static source =>
      simp only [Rule.fields, source, List.mem_singleton] at hf
      exact other hf
    | @named id a source value found =>
      have same : field = id := by
        simp only [Rule.fields, source, value] at hf
        split at hf
        · exact absurd (List.mem_singleton.mp hf) other
        · simpa [other] using hf
      rw [← same, unanswered] at found
      cases found

end Questionnaire
