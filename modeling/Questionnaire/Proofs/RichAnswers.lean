import Questionnaire.Proofs.UnreadAnswers

namespace Questionnaire

/-- An answer as it is, or inside a richer one with whatever else. -/
inductive Wraps : Json → Json → Prop
  | bare (a : Json) : Wraps a a
  | rich {a : Json} {more : Entries} : more.lookup "answer" = some a → Wraps a (.obj more)

/-- The same answers to the same fields, any of them inside richer ones. -/
def Enriches (es es' : Entries) : Prop :=
  List.Forall₂ (fun e e' => e'.1 = e.1 ∧ Wraps e.2 e'.2) es es'

/-- No answer looks like a richer one by itself. -/
def Plain (es : Entries) : Prop := ∀ e ∈ es, e.2.get? "answer" = none

theorem Answer.unwrap_plain {a : Json} (plain : a.get? "answer" = none) : unwrap a = a := by
  cases a with
  | obj es =>
    have none : es.lookup "answer" = none := plain
    rw [unwrap, none, Option.getD_none]
  | _ => rfl

/-- What is unwrapped is the answer itself. -/
theorem Wraps.unwrap {a a' : Json} (h : Wraps a a') (plain : a.get? "answer" = none) :
    Answer.unwrap a' = a := by
  cases h with
  | bare => exact Answer.unwrap_plain plain
  | rich inside => rw [Answer.unwrap, inside, Option.getD_some]

theorem Enriches.lookup {es es' : Entries} (h : Enriches es es') (plain : Plain es) (k : String) :
    (es'.lookup k).map Answer.unwrap = (es.lookup k).map Answer.unwrap := by
  induction h with
  | nil => rfl
  | @cons e e' es es' wrapped _ ih =>
    obtain ⟨key, a⟩ := e
    obtain ⟨key', a'⟩ := e'
    obtain ⟨rfl, wrapped⟩ := wrapped
    have here : a.get? "answer" = none := plain _ List.mem_cons_self
    rw [Ordered.lookup_entry, Ordered.lookup_entry]
    split
    · rw [Option.map_some, Option.map_some, wrapped.unwrap here, Answer.unwrap_plain here]
    · exact ih fun e he => plain e (List.mem_cons_of_mem _ he)

namespace Evaluator

/-- A rule reads every answer, be it to its field or to compare with, without what is around it. -/
theorem operands_unwrapped (ev : Evaluator) {es es' : Entries}
    (same : ∀ k, (es'.lookup k).map Answer.unwrap = (es.lookup k).map Answer.unwrap) (r : Rule) :
    ev.operands (.obj es') r = ev.operands (.obj es) r := by
  have target : target? (.obj es') r = target? (.obj es) r := by
    rw [target?, target?]
    cases r.source with
    | static => rfl
    | «variable» =>
      cases r.value with
      | str id => exact same id
      | _ => rfl
  have answer := same r.field
  simp only [operands, answer?, target]
  cases found : es.lookup r.field with
  | none =>
    rw [found, Option.map_none, Option.map_eq_none_iff] at answer
    rw [answer]
  | some a =>
    rw [found, Option.map_some, Option.map_eq_some_iff] at answer
    obtain ⟨a', found', unwrapped⟩ := answer
    rw [found']
    simp only [bind, Except.bind, unwrapped]

end Evaluator

/-- Putting answers inside richer ones changes the value of no rule and of no condition, whether it
was read before or not, and no walk, nor how any of them fails. -/
theorem riches_unseen (evaluator : Evaluator) (es es' : Entries) (plain : Plain es)
    (enriched : Enriches es es') :
    (∀ r : Rule, evaluator.rule (.obj es') r = evaluator.rule (.obj es) r) ∧
    (∀ c : Group, evaluator.evaluate (.obj es') c = evaluator.evaluate (.obj es) c) ∧
    (∀ j : Json, evaluator.evaluateRaw (.obj es') j = evaluator.evaluateRaw (.obj es) j) ∧
    ∀ g : Graph,
      Engine.trace ⟨g, evaluator⟩ (.obj es') = Engine.trace ⟨g, evaluator⟩ (.obj es) := by
  have read (r : Rule) : evaluator.operands (.obj es') r = evaluator.operands (.obj es) r :=
    evaluator.operands_unwrapped (enriched.lookup plain) r
  have value (c : Group) : evaluator.evaluate (.obj es') c = evaluator.evaluate (.obj es) c :=
    evaluate_of_operands fun r _ => read r
  refine ⟨fun r => rule_of_operands (read r), value, fun j => ?_, fun g => ?_⟩
  · rw [Evaluator.evaluateRaw.eq_def, Evaluator.evaluateRaw.eq_def]
    split
    · rfl
    · split
      · rfl
      · exact value _
  · refine Engine.trace_of_values fun _ _ c _ _ => ?_
    rw [Engine.evaluate, Engine.evaluate, value c, records_of_operands fun r _ => read r]

/-- The ages, each with the time that the answer took. -/
def timedAges : Entries :=
  let timed (a : Json) (took : Int) : Json := .obj [("ms", .int took), ("answer", a)]
  [("partner", timed (.obj [("age", .int 40)]) 1200), ("age", timed (.int 30) 800)]

/-- A part of one answer is still greater than the other answer, and the walk past the second
question does not see that the first was answered richly. -/
theorem riches_unseen_names :
    detourEngine.evaluator.evaluate (.obj timedAges) olderPartner
      = detourEngine.evaluator.evaluate (.obj partnerAges) olderPartner ∧
    detourEngine.trace (.obj [("pets", .obj [("answer", .str "no")])])
      = detourEngine.trace (.obj [("pets", .str "no")]) := by
  have timed : Enriches partnerAges timedAges :=
    .cons ⟨rfl, .rich rfl⟩ (.cons ⟨rfl, .rich rfl⟩ .nil)
  have pets : Enriches [("pets", .str "no")] [("pets", .obj [("answer", .str "no")])] :=
    .cons ⟨rfl, .rich rfl⟩ .nil
  have ages : Plain partnerAges :=
    List.forall_mem_cons.mpr ⟨rfl, List.forall_mem_singleton.mpr rfl⟩
  obtain ⟨-, values, -, -⟩ :=
    riches_unseen detourEngine.evaluator partnerAges timedAges ages timed
  obtain ⟨-, -, -, walks⟩ := riches_unseen detourEngine.evaluator _ _
    (List.forall_mem_singleton.mpr rfl) pets
  exact ⟨values olderPartner, walks detourGraph⟩

end Questionnaire
