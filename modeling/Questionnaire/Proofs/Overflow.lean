import Questionnaire.Proofs.Rounding
import Questionnaire.Proofs.RuleCases

namespace Questionnaire

/-- A whole number that rounds to no finite one, be it above zero or below. -/
def Json.Overflows : Json → Prop
  | .int n => Binary64.beyond ≤ n.natAbs
  | _ => False

theorem Json.overflows_int {n : Int} : (Json.int n).Overflows ↔ Binary64.ofInt? n = none :=
  Binary64.ofInt?_none.symm

theorem Answer.number_error {v : Json} {x : TooLarge} : number v = .error x ↔ v.Overflows := by
  cases v with
  | int n =>
    rw [Json.overflows_int, number]
    cases Binary64.ofInt? n <;> simp
  | _ => simp [number, Json.Overflows]

namespace Evaluator

variable {ev : Evaluator} {es : Entries} {r : Rule}

theorem compare_error {holds : Binary64 → Binary64 → Bool} {value target : Json}
    {x : Answer.TooLarge} :
    compare holds value target = .error x ↔ value.Overflows ∨ target.Overflows := by
  rw [compare, ← Answer.number_error (x := x), ← Answer.number_error (x := x)]
  cases Answer.number value <;> cases Answer.number target <;>
    simp [bind, Except.bind, pure, Except.pure]

theorem isBetween_error {value : Json} {bounds : Entries} {x : Answer.TooLarge} :
    isBetween value (.obj bounds) = .error x ↔ value.Overflows ∨
      ((Json.obj bounds).getD "min").Overflows ∨ ((Json.obj bounds).getD "max").Overflows := by
  rw [isBetween, ← Answer.number_error (x := x), ← Answer.number_error (x := x),
    ← Answer.number_error (x := x)]
  cases Answer.number value <;> cases Answer.number ((Json.obj bounds).getD "min") <;>
    cases Answer.number ((Json.obj bounds).getD "max") <;>
    simp [bind, Except.bind, pure, Except.pure]

theorem inRange_error {value : Json} {ranges : String} {x : Answer.TooLarge} :
    Answer.inRange value (.str ranges) = .error x ↔ value.Overflows := by
  rw [Answer.inRange, ← Answer.number_error (x := x)]
  cases Answer.number value <;> simp [bind, Except.bind, pure, Except.pure]

/-- The operator makes numbers of its operands, and there is none for one of them. -/
inductive Strains (value target : Json) : Operator → Prop
  | greater : value.Overflows ∨ target.Overflows → Strains value target .greater
  | less : value.Overflows ∨ target.Overflows → Strains value target .less
  | isBetween {bounds} : target = .obj bounds → (value.Overflows ∨
      (target.getD "min").Overflows ∨ (target.getD "max").Overflows) →
      Strains value target .isBetween
  | inRange {ranges} : target = .str ranges → value.Overflows → Strains value target .inRange

theorem apply_error {op : Operator} {value target : Json} {x : Answer.TooLarge} :
    apply op value target = .error x ↔ Strains value target op := by
  cases op with
  | greater => exact compare_error.trans ⟨.greater, fun | .greater h => h⟩
  | less => exact compare_error.trans ⟨.less, fun | .less h => h⟩
  | isBetween =>
    cases target with
    | obj bounds => exact isBetween_error.trans ⟨.isBetween rfl, fun | .isBetween _ h => h⟩
    | _ => exact iff_of_false nofun nofun
  | inRange =>
    cases target with
    | str ranges => exact inRange_error.trans ⟨.inRange rfl, fun | .inRange _ h => h⟩
    | _ => exact iff_of_false nofun nofun
  | _ => exact iff_of_false nofun nofun

/-- The field of the rule is answered, there is something to compare with, and the operator strains
to make numbers of the two as they are read. -/
def Strained (ev : Evaluator) (es : Entries) (r : Rule) : Prop :=
  ∃ a t op, es.lookup r.field = some a ∧ Target es r t ∧ Operator.ofWord? r.operator = some op ∧
    Strains (ev.resolve r.field (part r.subField (Answer.unwrap a))) (ev.resolve r.field t) op

theorem rule_error {f : RuleFailure} :
    ev.rule (.obj es) r = .error f ↔ f = .tooLarge ∧ ev.Strained es r := by
  by_cases paired : ∃ a t, es.lookup r.field = some a ∧ Target es r t
  · obtain ⟨a, t, answer, target⟩ := paired
    have strained : ev.Strained es r ↔ ∃ op, Operator.ofWord? r.operator = some op ∧
        Strains (ev.resolve r.field (part r.subField (Answer.unwrap a)))
          (ev.resolve r.field t) op := by
      constructor
      · rintro ⟨a', t', op, answer', target', known, strains⟩
        obtain rfl := Option.some.inj (answer.symm.trans answer')
        obtain rfl := target.unique target'
        exact ⟨op, known, strains⟩
      · rintro ⟨op, known, strains⟩
        exact ⟨a, t, op, answer, target, known, strains⟩
    rw [strained, rule_pair answer target]
    cases Operator.ofWord? r.operator with
    | none => simp
    | some op =>
      rw [mapError_error]
      simp only [apply_error, Option.some.injEq, exists_eq_left']
      constructor
      · rintro ⟨-, strains, rfl⟩
        exact ⟨rfl, strains⟩
      · rintro ⟨rfl, strains⟩
        exact ⟨⟨⟩, strains, rfl⟩
  · have value : ∃ b, ev.rule (.obj es) r = .ok b := by
      cases answer : es.lookup r.field with
      | none => exact ⟨_, rule_no_answer answer⟩
      | some a => exact ⟨_, rule_no_target answer fun t target => paired ⟨a, t, answer, target⟩⟩
    obtain ⟨b, value⟩ := value
    rw [value]
    refine iff_of_false nofun ?_
    rintro ⟨-, a, t, op, answer, target, -⟩
    exact paired ⟨a, t, answer, target⟩

/-- A rule fails exactly where its operator has to make a number of a whole number beyond all finite
ones; whatever the operator and the operands are, it has a value everywhere else. -/
theorem rule_fails_exactly (ev : Evaluator) (es : Entries) (r : Rule) :
    (∀ f, ev.rule (.obj es) r = .error f ↔ f = .tooLarge ∧ ev.Strained es r) ∧
    ((∃ b, ev.rule (.obj es) r = .ok b) ↔ ¬ ev.Strained es r) := by
  refine ⟨fun f => rule_error, ?_⟩
  cases value : ev.rule (.obj es) r with
  | ok b =>
    refine iff_of_true ⟨b, rfl⟩ fun strained => ?_
    have fails := rule_error.mpr ⟨rfl, strained⟩
    rw [value] at fails
    cases fails
  | error f => exact iff_of_false nofun (not_not_intro (rule_error.mp value).2)

/-- Are there more than five seats, and is the count of seats in a list of ranges? -/
def seatRules : Rule × Rule :=
  (⟨none, "seats", none, "gt", .int 5, .static⟩,
    ⟨none, "seats", none, "in_range", .arr [.str "1-5"], .static⟩)

/-- With far too many seats the first of these fails. The second does not: a list is no text. -/
theorem rule_fails_exactly_seats :
    let ev : Evaluator := ⟨[], "other", "Other"⟩
    let crowd : Entries := [("seats", .int Binary64.beyond)]
    ev.rule (.obj crowd) seatRules.1 = .error .tooLarge ∧
      ∃ b, ev.rule (.obj crowd) seatRules.2 = .ok b := by
  intro ev crowd
  obtain ⟨fails, -⟩ := rule_fails_exactly ev crowd seatRules.1
  obtain ⟨-, settled⟩ := rule_fails_exactly ev crowd seatRules.2
  have large : (Json.int Binary64.beyond).Overflows :=
    Nat.le_of_eq (Int.natAbs_natCast Binary64.beyond).symm
  refine ⟨(fails _).mpr ⟨rfl, _, _, .greater, rfl, .static rfl, rfl, .greater (.inl large)⟩,
    settled.mpr ?_⟩
  rintro ⟨a, t, op, -, target, known, strains⟩
  obtain rfl : Operator.inRange = op := Option.some.inj known
  cases target with
  | static => cases strains with | inRange text => cases text
  | named source => cases source

end Evaluator
end Questionnaire
