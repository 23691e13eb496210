import Questionnaire.Condition.Evaluate
import Questionnaire.Proofs.ConditionRestored

namespace Questionnaire
open Ordered

/-- The one form in which conditions are written: every item gives its type, each field stands under
its first spelling and in its place, nothing is null, and the items of a group are in this form
too. -/
inductive Canonical : Json → Prop
  | rule {es : Entries} : es.lookup "type" = some (.str "rule") →
      (keys es).Sublist ["type", "id", "field", "subField", "operator", "value", "valueType"] →
      (∀ k ∈ ["field", "operator", "valueType"], k ∈ keys es) → (∀ e ∈ es, e.2 ≠ .null) →
      Canonical (.obj es)
  | group {es : Entries} {items : List Json} : es.lookup "type" = some (.str "group") →
      (keys es).Sublist ["type", "id", "logicType", "children"] → "logicType" ∈ keys es →
      es.lookup "children" = some (.arr items) → (∀ e ∈ es, e.2 ≠ .null) →
      (∀ i ∈ items, Canonical i) → Canonical (.obj es)

theorem Rule.value_finite {es : Entries} (hes : es.Finite) {r : Rule}
    (h : Rule.part.read es = .ok r) : r.value.Finite := by
  obtain ⟨⟨id, field, subField, operator, value, source⟩, fields, rfl⟩ := Checked.map_ok.mp h
  obtain ⟨_, _, -, fields, same⟩ := Checked.both_ok.mp fields
  cases same
  obtain ⟨_, _, -, fields, same⟩ := Checked.both_ok.mp fields
  cases same
  obtain ⟨_, _, -, fields, same⟩ := Checked.both_ok.mp fields
  cases same
  obtain ⟨_, _, -, fields, same⟩ := Checked.both_ok.mp fields
  cases same
  obtain ⟨_, _, own, -, same⟩ := Checked.both_ok.mp fields
  cases same
  rw [Part.field, Part.fieldOr_read, Spelling.find?_plain] at own
  split at own
  · rename_i v found
    obtain rfl := Except.ok.inj (Checked.within_ok.mp own)
    exact hes.lookup found
  · obtain rfl := Except.ok.inj own
    rfl

/-- The entries of the fields that have a value. -/
def valued (fields : List (String × Option Json)) : Entries :=
  fields.filterMap fun f => f.2.map (f.1, ·)

theorem keys_valued (fields : List (String × Option Json)) :
    (keys (valued fields)).Sublist (fields.map Prod.fst) := by
  induction fields with
  | nil => exact .slnil
  | cons f fields ih =>
    obtain ⟨k, v⟩ := f
    cases v with
    | none => exact .cons k ih
    | some v => exact .cons_cons k ih

theorem mem_valued {fields : List (String × Option Json)} {k : String} {v : Json} :
    (k, v) ∈ valued fields ↔ (k, some v) ∈ fields := by
  simp [valued]

/-- The fields of a rule as they are written, those without a value left out. -/
def Rule.stated (r : Rule) : List (String × Option Json) :=
  [("type", some (.str "rule")), ("id", r.id.map .str), ("field", some (.str r.field)),
    ("subField", r.subField.map .str), ("operator", some (.str r.operator)),
    ("value", if r.value.isNull then none else some r.value.finite),
    ("valueType", some (.str r.source.word))]

/-- Those of a group. -/
def Group.stated (g : Group) : List (String × Option Json) :=
  [("type", some (.str "group")), ("id", g.id.map .str),
    ("logicType", some (.str g.connective.word)),
    ("children", some (.arr (g.items.map Item.toJson)))]

theorem Rule.toJson_stated (r : Rule) : (Item.rule r).toJson = .obj (valued r.stated) := by
  obtain ⟨id, field, subField, operator, value, source⟩ := r
  cases absent : value.isNull <;> cases id <;> cases subField <;>
    simp [Item.toJson, Rule.part, Part.as, Part.both_write, Part.field, Part.required,
      Part.fieldOr_write, Shape.optional, Shape.string, Shape.any, Shape.oneOf, Spelling.plain,
      Json.ofOption, stated, valued, absent]

theorem Group.toJson_stated (g : Group) : g.toItem.toJson = .obj (valued g.stated) := by
  have items (xs : List Item) : Item.toJsonAll xs = xs.map Item.toJson := by
    induction xs with
    | nil => rfl
    | cons x xs ih => rw [Item.toJsonAll, ih, List.map_cons]
  rw [toJson_toItem, entries, items, stated]
  cases g.id <;> rfl

theorem given_valued {fields : List (String × Option Json)} (h : ∀ f ∈ fields, f.2 ≠ some .null) :
    ∀ e ∈ valued fields, e.2 ≠ .null := by
  rintro ⟨k, v⟩ he rfl
  exact h _ (mem_valued.mp he) rfl

theorem mem_keys_valued {fields : List (String × Option Json)} {k : String} :
    k ∈ keys (valued fields) ↔ ∃ v, (k, some v) ∈ fields := by
  simp [keys, mem_valued]

/-- What is written of an item that was read is in this form. -/
theorem canonical_written : Item.Inherited fun i => Canonical i.toJson where
  rule {es r} hes own := by
    have finite : r.value.finite = r.value := Rule.value_finite hes own
    have value : (if r.value.isNull then none else some r.value.finite) ≠ some .null := by
      rw [finite]
      cases r.value <;> simp [Json.isNull]
    rw [Rule.toJson_stated]
    refine .rule rfl (keys_valued r.stated) ?_ (given_valued ?_)
    · simp [mem_keys_valued, Rule.stated]
    · simp [Rule.stated, value]
  group {es g} hes head items := by
    have once : (keys (valued g.stated)).Nodup := by
      refine List.Nodup.sublist (keys_valued g.stated) ?_
      simp [Group.stated]
    rw [Group.toJson_stated]
    have children : ("children", Json.arr (g.items.map Item.toJson)) ∈ valued g.stated := by
      simp [mem_valued, Group.stated]
    refine .group rfl (keys_valued g.stated) ?_ (lookup_of_mem once children) (given_valued ?_) ?_
    · simp [mem_keys_valued, Group.stated]
    · simp [Group.stated]
    · exact List.forall_mem_map.mpr items

/-- A condition that was read is written in one form, and that is read as the same condition: with
the same rules and groups in the same order, and evaluated to the same as the document it was read
from, whatever the answers. It is written again as it was, and two conditions that are written alike
are the same. -/
theorem condition_canonical {raw : Json} {g : Group} (finite : raw.Finite)
    (accepted : Group.ofJson raw = .ok g) :
    Canonical g.toJson ∧
    (∃ g', Group.ofJson g.toJson = .ok g' ∧ g' = g ∧ g'.rules = g.rules ∧ g'.groups = g.groups ∧
      g'.toJson = g.toJson) ∧
    (∀ (ev : Evaluator) (responses : Json),
      ev.evaluateRaw responses raw = ev.evaluate responses g ∧
      ev.evaluateRaw responses g.toJson = ev.evaluateRaw responses raw) ∧
    ∀ raw' g', raw'.Finite → Group.ofJson raw' = .ok g' → (g'.toJson = g.toJson ↔ g' = g) := by
  have back : Group.ofJson g.toJson = .ok g := condition_restores.back ⟨raw, finite, accepted⟩
  have read (ev : Evaluator) (responses : Json) {j : Json} (h : Group.ofJson j = .ok g) :
      ev.evaluateRaw responses j = ev.evaluate responses g := by
    cases j with
    | null => cases h
    | _ => simp only [Evaluator.evaluateRaw, h]
  refine ⟨canonical_written.condition finite accepted, ⟨g, back, rfl, rfl, rfl, rfl⟩, ?_, ?_⟩
  · intro ev responses
    rw [read ev responses accepted, read ev responses back]
    exact ⟨rfl, rfl⟩
  · intro raw' g' finite' accepted'
    have back' : Group.ofJson g'.toJson = .ok g' :=
      condition_restores.back ⟨raw', finite', accepted'⟩
    constructor
    · intro same
      rw [same, back] at back'
      exact (Except.ok.inj back').symm
    · rintro rfl
      rfl

/-- An older document: items under "rules", no types, a field under its second spelling, one that
is null and one that is not known. -/
def olderCondition : Json :=
  .obj [("logicType", .str "OR"), ("version", .int 1), ("rules", .arr [
    .obj [("field", .str "age"), ("operator", .str "gt"), ("value", .int 17), ("id", .null)],
    .obj [("rules", .arr [.obj [("field", .str "name"), ("sub_field", .str "first"),
      ("operator", .str "equals"), ("value", .obj [("min", .null)]),
      ("value_type", .str "static")]])]])]

theorem condition_canonical_older : ∃ g, Group.ofJson olderCondition = .ok g ∧
    Canonical g.toJson ∧ Group.ofJson g.toJson = .ok g ∧
    g.toJson = .obj [("type", .str "group"), ("logicType", .str "OR"), ("children", .arr [
      .obj [("type", .str "rule"), ("field", .str "age"), ("operator", .str "gt"),
        ("value", .int 17), ("valueType", .str "static")],
      .obj [("type", .str "group"), ("logicType", .str "AND"), ("children", .arr [
        .obj [("type", .str "rule"), ("field", .str "name"), ("subField", .str "first"),
          ("operator", .str "equals"), ("value", .obj [("min", .null)]),
          ("valueType", .str "static")]])]])] := by
  obtain ⟨g, accepted⟩ : ∃ g, Group.ofJson olderCondition = .ok g := ⟨_, rfl⟩
  obtain ⟨canonical, ⟨g', back, rfl, -⟩, -⟩ := condition_canonical (by decide +kernel) accepted
  refine ⟨g', accepted, canonical, back, ?_⟩
  obtain rfl := Except.ok.inj accepted
  rfl

end Questionnaire
