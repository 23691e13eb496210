import Questionnaire.Proofs.ConditionFaults
import Questionnaire.Proofs.Overflow

namespace Questionnaire

namespace Json

mutual
/-- Is every whole number in the document, at whatever depth, near to a finite number? -/
def fits : Json → Bool
  | .int n => (Binary64.ofInt? n).isSome
  | .arr xs => fitsItems xs
  | .obj es => fitsEntries es
  | _ => true
def fitsItems : List Json → Bool
  | [] => true
  | x :: xs => fits x && fitsItems xs
def fitsEntries : List (String × Json) → Bool
  | [] => true
  | (_, x) :: es => fits x && fitsEntries es
end

theorem fitsItems_iff {xs : List Json} : fitsItems xs = true ↔ ∀ x ∈ xs, x.fits = true := by
  induction xs with
  | nil => simp [fitsItems]
  | cons x xs ih => simp [fitsItems, ih]

theorem fits_lookup {es : Entries} {key : String} {v : Json} (h : fitsEntries es = true)
    (hv : es.lookup key = some v) : v.fits = true := by
  induction es with
  | nil => cases hv
  | cons e es ih =>
    obtain ⟨k, x⟩ := e
    simp only [fitsEntries, Bool.and_eq_true] at h
    rw [List.lookup_cons] at hv
    split at hv
    · cases hv
      exact h.1
    · exact ih h.2 hv

theorem fits_getD {es : Entries} (h : fitsEntries es = true) (key : String) :
    ((Json.obj es).getD key).fits = true := by
  rw [getD, get?]
  cases hv : es.lookup key with
  | none => rfl
  | some v => exact fits_lookup h hv

end Json

open Json

theorem Json.not_overflows {v : Json} (h : v.fits = true) : ¬ v.Overflows := by
  cases v with
  | int n =>
    rw [overflows_int]
    rw [fits] at h
    exact Option.isSome_iff_ne_none.mp h
  | _ => exact id

theorem Answer.fits_unwrap {v : Json} (h : v.fits = true) : (Answer.unwrap v).fits = true := by
  cases v with
  | obj es =>
    rw [unwrap]
    cases ha : es.lookup "answer" with
    | none => exact h
    | some a => exact fits_lookup h ha
  | _ => exact h

/-- The values that conditions can read from a node: those of the rules in its own condition, and
those that its choices stand for. -/
def NodeData.values (d : NodeData) : List Json :=
  ((d.condition.map Group.rules).getD []).map Rule.value ++ d.choices.map Choice.value

namespace Evaluator

/-- No choice stands for a value with too large a number. -/
def ChoicesFit (ev : Evaluator) : Prop :=
  ∀ field d, ev.definition? field = some d → ∀ c ∈ d.choices, c.value.fits = true

theorem fits_part {v : Json} (h : v.fits = true) (subField : Option String) :
    (part subField v).fits = true := by
  cases subField with
  | none => simpa only [part] using h
  | some name =>
    cases v with
    | obj es =>
      rw [part]
      split
      · exact h
      · cases hl : es.lookup name with
        | none => rfl
        | some w => exact fits_lookup h hl
    | _ => exact h

theorem Target.fits {es : Entries} {r : Rule} {t : Json} (h : Target es r t)
    (he : fitsEntries es = true) (hr : r.value.fits = true) : t.fits = true := by
  cases h with
  | static => exact hr
  | named _ _ ha => exact Answer.fits_unwrap (fits_lookup he ha)

theorem fits_resolveText {ev : Evaluator} {d : NodeData} {v : Json}
    (hd : ∀ c ∈ d.choices, c.value.fits = true) (h : v.fits = true) :
    (ev.resolveText d v).fits = true := by
  cases v with
  | str s =>
    simp only [resolveText, resolveLabel]
    split
    · rfl
    · split
      · rename_i c hc
        exact hd c (List.mem_of_find?_eq_some hc)
      · split
        · split <;> split <;> rfl
        · rfl
  | _ => exact h

theorem fits_resolve {ev : Evaluator} (hc : ev.ChoicesFit) (field : String) {v : Json}
    (h : v.fits = true) : (ev.resolve field v).fits = true := by
  rw [resolve]
  split
  · exact h
  · rename_i d hd
    split
    · rename_i xs
      refine fitsItems_iff.mpr fun x hx => ?_
      obtain ⟨y, hy, rfl⟩ := List.mem_map.mp hx
      exact fits_resolveText (hc field d hd) (fitsItems_iff.mp h y hy)
    · exact fits_resolveText (hc field d hd) h

theorem fits_not_strains {op : Operator} {v t : Json} (hv : v.fits = true) (ht : t.fits = true) :
    ¬ Strains v t op := by
  have two : ¬ (v.Overflows ∨ t.Overflows) :=
    not_or.mpr ⟨not_overflows hv, not_overflows ht⟩
  intro strains
  cases strains with
  | greater large => exact two large
  | less large => exact two large
  | isBetween bounds large =>
    subst bounds
    rcases large with large | large | large
    · exact not_overflows hv large
    · exact not_overflows (fits_getD ht "min") large
    · exact not_overflows (fits_getD ht "max") large
  | inRange _ large => exact not_overflows hv large

/-- Only a number that is too large can keep a rule from having a value. -/
theorem rule_ok {ev : Evaluator} (hc : ev.ChoicesFit) {es : Entries} {r : Rule}
    (he : fitsEntries es = true) (hr : r.value.fits = true) :
    ∃ b, ev.rule (.obj es) r = .ok b := by
  cases value : ev.rule (.obj es) r with
  | ok b => exact ⟨b, rfl⟩
  | error f =>
    obtain ⟨-, a, t, op, answer, target, -, strains⟩ := rule_error.mp value
    have hv := fits_part (Answer.fits_unwrap (fits_lookup he answer)) r.subField
    exact absurd strains
      (fits_not_strains (fits_resolve hc r.field hv) (fits_resolve hc r.field (target.fits he hr)))

/-- A condition without empty groups has a value on answers without numbers that are too large. -/
theorem evaluate_ok {ev : Evaluator} (hc : ev.ChoicesFit) {es : Entries} {g : Group}
    (he : fitsEntries es = true) (hg : ∀ h ∈ g.groups, h.items ≠ [])
    (hr : ∀ r ∈ g.rules, r.value.fits = true) : ∃ b, ev.evaluate (.obj es) g = .ok b := by
  rcases evaluate_settled ev (.obj es) hg with settled | ⟨r, hm, f, fails, -⟩
  · exact settled
  · obtain ⟨b, hb⟩ := rule_ok hc he (hr r hm)
    rw [hb] at fails
    cases fails

end Evaluator
end Questionnaire
