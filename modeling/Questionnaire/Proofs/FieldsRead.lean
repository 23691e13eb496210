import Questionnaire.Condition.Evaluate

namespace Questionnaire
open Evaluator

/-- The two sets of answers have the same answers, or none, to these fields. The empty name belongs
to no field, but a rule can name it as the answer it compares with. -/
def Agree (fields : List String) (es es' : Entries) : Prop :=
  ∀ field, field = "" ∨ field ∈ fields → es.lookup field = es'.lookup field

theorem Agree.mono {fields more : List String} {es es' : Entries} (h : Agree more es es')
    (hs : fields ⊆ more) : Agree fields es es' :=
  fun field hf => h field (hf.imp_right fun hm => hs hm)

/-- A rule reads its own answer, and where it compares with another answer that one too. -/
inductive Rule.Reads (r : Rule) : String → Prop
  | own : Reads r r.field
  | compared {other} : r.source = .variable → r.value = .str other → other ≠ "" → Reads r other

theorem Rule.mem_fields {r : Rule} {field : String} : field ∈ r.fields ↔ r.Reads field := by
  rw [Rule.fields]
  constructor
  · intro h
    split at h
    · rename_i other source value
      split at h
      · exact List.mem_singleton.mp h ▸ .own
      · rename_i named
        rcases List.mem_cons.mp h with rfl | h
        · exact .own
        · obtain rfl := List.mem_singleton.mp h
          exact .compared source value (by simpa using named)
    · exact List.mem_singleton.mp h ▸ .own
  · intro reads
    cases reads with
    | own =>
      split
      · split <;> exact List.mem_cons_self
      · exact List.mem_cons_self
    | compared source value named => simp [source, value, named]

theorem Rule.field_mem (r : Rule) : r.field ∈ r.fields := Rule.mem_fields.mpr .own

theorem target_congr {r : Rule} {es es' : Entries} (h : Agree r.fields es es') :
    target? (.obj es) r = target? (.obj es') r := by
  rw [target?, target?]
  cases hs : r.source with
  | static => rfl
  | «variable» =>
    cases hv : r.value with
    | str s =>
      have hl : es.lookup s = es'.lookup s := by
        refine h s ?_
        by_cases he : s.isEmpty = true
        · exact Or.inl (by simpa using he)
        · exact Or.inr (by simp [Rule.fields, hs, hv, he])
      simp only [Json.get?, hl]
    | _ => rfl

theorem operands_congr (ev : Evaluator) {r : Rule} {es es' : Entries}
    (h : Agree r.fields es es') : ev.operands (.obj es) r = ev.operands (.obj es') r := by
  have hf : es.lookup r.field = es'.lookup r.field := h r.field (Or.inr r.field_mem)
  simp only [operands, answer?, hf, target_congr h]

section Operands

variable {ev ev' : Evaluator} {responses responses' : Json}

theorem rule_of_operands {r : Rule} (h : ev.operands responses r = ev'.operands responses' r) :
    ev.rule responses r = ev'.rule responses' r := by
  rw [rule, rule, h]

mutual
/-- The value of an item is settled by what its rules compare. -/
theorem item_of_operands (i : Item)
    (h : ∀ r ∈ i.rules, ev.operands responses r = ev'.operands responses' r) :
    ev.item responses i = ev'.item responses' i := by
  match i with
  | .rule r => rw [item, item, rule_of_operands (h r (by simp [Item.rules]))]
  | .group id _ [] => rw [item, item]
  | .group id c (x :: xs) =>
    rw [item, item, items_of_operands (x :: xs) (by simpa [Item.rules] using h)]

theorem items_of_operands (xs : List Item)
    (h : ∀ r ∈ Item.rulesAll xs, ev.operands responses r = ev'.operands responses' r) :
    ev.items responses xs = ev'.items responses' xs := by
  match xs with
  | [] => rw [items, items]
  | x :: xs =>
    simp only [Item.rulesAll, List.mem_append] at h
    rw [items, items, item_of_operands x fun r hr => h r (Or.inl hr),
      items_of_operands xs fun r hr => h r (Or.inr hr)]
end

mutual
/-- So is what is told of it. -/
theorem itemRecords_of_operands (i : Item)
    (h : ∀ r ∈ i.rules, ev.operands responses r = ev'.operands responses' r) :
    ev.itemRecords responses i = ev'.itemRecords responses' i := by
  match i with
  | .rule r => rw [itemRecords, itemRecords, ruleRecords, ruleRecords, h r (by simp [Item.rules])]
  | .group id c xs =>
    rw [itemRecords, itemRecords, itemsRecords_of_operands xs (by simpa [Item.rules] using h)]

theorem itemsRecords_of_operands (xs : List Item)
    (h : ∀ r ∈ Item.rulesAll xs, ev.operands responses r = ev'.operands responses' r) :
    ev.itemsRecords responses xs = ev'.itemsRecords responses' xs := by
  match xs with
  | [] => rw [itemsRecords, itemsRecords]
  | x :: xs =>
    simp only [Item.rulesAll, List.mem_append] at h
    have hx (r) (hr : r ∈ x.rules) := h r (Or.inl hr)
    rw [itemsRecords, itemsRecords, itemRecords_of_operands x hx, item_of_operands x hx,
      itemsRecords_of_operands xs fun r hr => h r (Or.inr hr)]
end

theorem evaluate_of_operands {g : Group}
    (h : ∀ r ∈ g.rules, ev.operands responses r = ev'.operands responses' r) :
    ev.evaluate responses g = ev'.evaluate responses' g := by
  have whole : g.toItem.rules = g.rules := by rw [Group.toItem, Item.rules, Group.rules]
  rw [evaluate, evaluate, item_of_operands g.toItem (whole ▸ h)]

theorem records_of_operands {g : Group}
    (h : ∀ r ∈ g.rules, ev.operands responses r = ev'.operands responses' r) :
    ev.records responses g = ev'.records responses' g := by
  have whole : g.toItem.rules = g.rules := by rw [Group.toItem, Item.rules, Group.rules]
  exact itemRecords_of_operands g.toItem (whole ▸ h)

end Operands

theorem Group.mem_fields {g : Group} {field : String} :
    field ∈ g.fields ↔ ∃ r ∈ g.rules, field ∈ r.fields := by
  simp [Group.fields, Group.mem_unseen]

theorem Agree.rule {g : Group} {es es' : Entries} (h : Agree g.fields es es') :
    ∀ r ∈ g.rules, Agree r.fields es es' :=
  fun r hr => h.mono fun _ hf => Group.mem_fields.mpr ⟨r, hr, hf⟩

/-- A condition reads no answers but those to its fields, and that under the empty name. -/
theorem evaluate_congr (ev : Evaluator) {g : Group} {es es' : Entries}
    (h : Agree g.fields es es') : ev.evaluate (.obj es) g = ev.evaluate (.obj es') g :=
  evaluate_of_operands fun r hr => operands_congr ev (h.rule r hr)

/-- Nor does what is told of it depend on other answers. -/
theorem records_congr (ev : Evaluator) {g : Group} {es es' : Entries}
    (h : Agree g.fields es es') : ev.records (.obj es) g = ev.records (.obj es') g :=
  records_of_operands fun r hr => operands_congr ev (h.rule r hr)

end Questionnaire
