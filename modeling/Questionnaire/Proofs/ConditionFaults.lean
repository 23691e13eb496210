import Questionnaire.Proofs.FieldsRead
import Questionnaire.Proofs.RuleCases

namespace Questionnaire

namespace Item

mutual
/-- The item and all that are inside it, depth first, each group before its own items. -/
def parts : Item → List Item
  | .rule r => [.rule r]
  | .group id c xs => .group id c xs :: partsAll xs
def partsAll : List Item → List Item
  | [] => []
  | x :: xs => parts x ++ partsAll xs
end

def rule? : Item → Option Rule
  | .rule r => some r
  | .group .. => none

def group? : Item → Option Group
  | .rule _ => none
  | .group id c xs => some ⟨id, c, xs⟩

mutual
theorem rules_parts (i : Item) : i.parts.filterMap rule? = i.rules := by
  match i with
  | .rule r => rfl
  | .group id c xs => exact rules_partsAll xs

theorem rules_partsAll (xs : List Item) : (partsAll xs).filterMap rule? = rulesAll xs := by
  match xs with
  | [] => rfl
  | x :: xs => rw [partsAll, List.filterMap_append, rules_parts x, rules_partsAll xs, rulesAll]
end

mutual
theorem groups_parts (i : Item) : i.parts.filterMap group? = i.groups := by
  match i with
  | .rule r => rfl
  | .group id c xs => exact congrArg (⟨id, c, xs⟩ :: ·) (groups_partsAll xs)

theorem groups_partsAll (xs : List Item) : (partsAll xs).filterMap group? = groupsAll xs := by
  match xs with
  | [] => rfl
  | x :: xs => rw [partsAll, List.filterMap_append, groups_parts x, groups_partsAll xs, groupsAll]
end

theorem mem_rules {i : Item} {r : Rule} : r ∈ i.rules ↔ .rule r ∈ i.parts := by
  rw [← rules_parts, List.mem_filterMap]
  constructor
  · rintro ⟨j, hj, same⟩
    cases j with
    | rule s =>
      obtain rfl := Option.some.inj same
      exact hj
    | group => cases same
  · intro h
    exact ⟨_, h, rfl⟩

theorem mem_groups {i : Item} {g : Group} :
    g ∈ i.groups ↔ .group g.id g.connective g.items ∈ i.parts := by
  rw [← groups_parts, List.mem_filterMap]
  constructor
  · rintro ⟨j, hj, same⟩
    cases j with
    | rule => cases same
    | group id c xs =>
      obtain rfl := Option.some.inj same
      exact hj
  · intro h
    exact ⟨_, h, rfl⟩

end Item

/-- What is true of all fields of a condition is true of all that its rules read, however deep. -/
theorem Group.forall_fields {g : Group} {P : String → Prop} :
    (∀ field ∈ g.fields, P field) ↔
      ∀ r, Item.rule r ∈ g.toItem.parts → ∀ field, r.Reads field → P field := by
  have whole : g.rules = g.toItem.rules := rfl
  simp only [Group.mem_fields, whole, Item.mem_rules, Rule.mem_fields]
  constructor
  · exact fun h r inside field reads => h field ⟨r, inside, reads⟩
  · rintro h field ⟨r, inside, reads⟩
    exact h r inside field reads

/-- No group of a condition is empty, however deep it is inside. -/
theorem Group.groups_filled {g : Group} :
    (∀ h ∈ g.groups, h.items ≠ []) ↔ ∀ id k, Item.group id k [] ∉ g.toItem.parts := by
  have whole : g.groups = g.toItem.groups := rfl
  rw [whole]
  constructor
  · intro filled id k inside
    exact filled ⟨id, k, []⟩ (Item.mem_groups.mpr inside) rfl
  · rintro filled ⟨id, k, _⟩ inside rfl
    exact filled id k (Item.mem_groups.mp inside)

namespace Evaluator

variable {ev : Evaluator} {responses : Json}

/-- What fails with nothing has a result. -/
theorem ok_iff_none {ε α : Type} {x : Except ε α} {o : Option ε}
    (h : ∀ e, x = .error e ↔ o = some e) : (∃ a, x = .ok a) ↔ o = none := by
  cases x with
  | ok a => cases o <;> simp_all
  | error e => simp [(h e).mp rfl]

/-- What is wrong with an item itself, not with those inside it. -/
def offence? (ev : Evaluator) (responses : Json) : Item → Option Offence
  | .rule r =>
    match ev.rule responses r with
    | .ok _ => none
    | .error f => some (.rule f)
  | .group id _ [] => some (.empty id)
  | .group _ _ (_ :: _) => none

mutual
/-- An item has no value because of the first offence, in it or inside it. -/
theorem item_error (i : Item) (o : Offence) : ev.item responses i = .error o ↔
    i.parts.findSome? (ev.offence? responses) = some o := by
  match i with
  | .rule r =>
    rw [item, Item.parts, List.findSome?_singleton, offence?, mapError_error]
    cases ev.rule responses r <;> simp
  | .group id c [] => simp [item, Item.parts, Item.partsAll, offence?]
  | .group id c (x :: xs) =>
    rw [item, Item.parts, List.findSome?_cons_of_isNone rfl, ← items_error (x :: xs) o]
    cases ev.items responses (x :: xs) <;> simp [Except.map]

theorem items_error (xs : List Item) (o : Offence) : ev.items responses xs = .error o ↔
    (Item.partsAll xs).findSome? (ev.offence? responses) = some o := by
  match xs with
  | [] => simp [items, Item.partsAll]
  | x :: xs =>
    rw [items, Item.partsAll, List.findSome?_append]
    cases hx : ev.item responses x with
    | error o' =>
      rw [(item_error x o').mp hx]
      simp [bind, Except.bind]
    | ok b =>
      have none := (ok_iff_none (item_error x)).mp ⟨b, hx⟩
      rw [none, Option.none_or, ← items_error xs o]
      cases ev.items responses xs <;> simp [bind, Except.bind, pure, Except.pure]
end

/-- So an item has a value if no group in it is empty and no rule in it fails. -/
theorem item_ok {i : Item} : (∃ b, ev.item responses i = .ok b) ↔
    (∀ g ∈ i.groups, g.items ≠ []) ∧ ∀ r ∈ i.rules, ∃ b, ev.rule responses r = .ok b := by
  have innocent : (∃ b, ev.item responses i = .ok b) ↔
      ∀ j ∈ i.parts, ev.offence? responses j = none := by
    rw [ok_iff_none (item_error i), List.findSome?_eq_none_iff]
  rw [innocent]
  constructor
  · intro h
    constructor
    · rintro ⟨id, c, _⟩ hg rfl
      have := h _ (Item.mem_groups.mp hg)
      simp [offence?] at this
    · intro r hr
      have := h _ (Item.mem_rules.mp hr)
      rw [offence?] at this
      split at this
      · rename_i b hb
        exact ⟨b, hb⟩
      · cases this
  · rintro ⟨full, sound⟩ j hj
    match j with
    | .rule r =>
      obtain ⟨b, hb⟩ := sound r (Item.mem_rules.mpr hj)
      rw [offence?, hb]
    | .group id c [] => exact absurd rfl (full ⟨id, c, []⟩ (Item.mem_groups.mpr hj))
    | .group id c (x :: xs) => rfl

/-- The first in the condition that is an empty group, or a rule that fails, is to blame for the
error: the group by its own id, the rule by the id of the whole condition. -/
inductive Blames (ev : Evaluator) (responses : Json) (g : Group) : ConditionError → Prop
  | empty {before id c after} : g.toItem.parts = before ++ .group id c [] :: after →
      (∀ i ∈ before, ev.offence? responses i = none) → Blames ev responses g (.emptyGroup id)
  | rule {before r after f} : g.toItem.parts = before ++ .rule r :: after →
      (∀ i ∈ before, ev.offence? responses i = none) → ev.rule responses r = .error f →
      Blames ev responses g (.failed g.id f)

theorem evaluate_ok_iff {g : Group} : (∃ b, ev.evaluate responses g = .ok b) ↔
    (∀ h ∈ g.groups, h.items ≠ []) ∧ ∀ r ∈ g.rules, ∃ b, ev.rule responses r = .ok b := by
  simp only [evaluate, mapError_ok, item_ok]
  rfl

theorem evaluate_error {g : Group} {x : ConditionError} :
    ev.evaluate responses g = .error x ↔ ev.Blames responses g x := by
  simp only [evaluate, mapError_error, item_error, List.findSome?_eq_some_iff]
  constructor
  · rintro ⟨o, ⟨before, i, after, split, offends, first⟩, rfl⟩
    cases i with
    | rule r =>
      rw [offence?] at offends
      cases fails : ev.rule responses r with
      | ok b => simp [fails] at offends
      | error f =>
        obtain rfl : Offence.rule f = o := by simpa [fails] using offends
        exact .rule split first fails
    | group id c items =>
      cases items with
      | nil =>
        obtain rfl := Option.some.inj offends
        exact .empty split first
      | cons => cases offends
  · intro blamed
    cases blamed with
    | empty split first => exact ⟨_, ⟨_, _, _, split, rfl, first⟩, rfl⟩
    | @rule before r after f split first fails =>
      exact ⟨.rule f, ⟨_, _, _, split, by rw [offence?, fails], first⟩, rfl⟩

/-- A condition without empty groups has a value, or one of its rules fails and is to blame. -/
theorem evaluate_settled (ev : Evaluator) (responses : Json) {g : Group}
    (full : ∀ h ∈ g.groups, h.items ≠ []) :
    (∃ b, ev.evaluate responses g = .ok b) ∨ ∃ r ∈ g.rules, ∃ f,
      ev.rule responses r = .error f ∧ ev.evaluate responses g = .error (.failed g.id f) := by
  cases value : ev.evaluate responses g with
  | ok b => exact .inl ⟨b, rfl⟩
  | error x =>
    cases evaluate_error.mp value with
    | @empty before id c after split _ =>
      have inside : ⟨id, c, []⟩ ∈ g.groups :=
        Item.mem_groups (i := g.toItem).mpr (by simp [split])
      exact absurd rfl (full _ inside)
    | @rule before r after f split _ fails =>
      have inside : r ∈ g.rules := Item.mem_rules (i := g.toItem).mpr (by simp [split])
      exact .inr ⟨r, inside, f, fails, rfl⟩

end Evaluator
end Questionnaire
