import Questionnaire.Condition.Document
import Questionnaire.Proofs.PartLaws

namespace Questionnaire

theorem Source.ofWord?_word (s : Source) : Source.ofWord? s.word = some s := by
  cases s <;> decide

theorem Connective.ofWord?_word (c : Connective) : Connective.ofWord? c.word = some c := by
  cases c <;> decide

theorem checkWord_ok {word : String} {es : Entries} (h : es.lookup "type" = some (.str word)) :
    checkWord word es = .ok () := by
  rw [checkWord, h]
  exact if_pos rfl

def Rule.spellings : List Spelling :=
  [.plain "id", .plain "field", ⟨"subField", "sub_field"⟩, .plain "operator", .plain "value",
    ⟨"valueType", "value_type"⟩]

theorem rule_restores : Rule.part.Restores Rule.spellings id := by
  have text : Shape.string.Restores id := Shape.string_restores
  have source : (Shape.oneOf ["static", "variable"] Source.ofWord? Source.word).Restores id :=
    Shape.oneOf_restores Source.ofWord?_word
  have fields := Part.Restores.both (.optional (.plain "id") text fun _ => rfl)
    (.both (.required (.plain "field") text fun _ => rfl)
      (.both (.optional ⟨"subField", "sub_field"⟩ text fun _ => rfl)
        (.both (.required (.plain "operator") text fun _ => rfl)
          (.both (.any (.plain "value"))
            (.given ⟨"valueType", "value_type"⟩ .static source (fun _ => rfl)
              ⟨.str "static", rfl, rfl⟩)
            (by decide)) (by decide)) (by decide)) (by decide)) (by decide)
  refine fields.view _ (fun _ => rfl) (fun _ => rfl) (fun _ => rfl) ?_
  rintro ⟨id, field, subField, operator, value, source⟩
  simp

def Group.spellings : List Spelling := [.plain "id", ⟨"logicType", "logic_type"⟩]

theorem head_restores : Group.headPart.Restores Group.spellings id := by
  have text : Shape.string.Restores id := Shape.string_restores
  have connective : (Shape.oneOf ["AND", "OR"] Connective.ofWord? Connective.word).Restores id :=
    Shape.oneOf_restores Connective.ofWord?_word
  have fields := Part.Restores.both (.optional (.plain "id") text fun _ => rfl)
    (.given ⟨"logicType", "logic_type"⟩ .and connective (fun _ => rfl) ⟨.str "AND", rfl, rfl⟩)
    (by decide)
  refine fields.of_eq ?_
  rintro ⟨id, connective⟩
  simp

theorem Rule.ofEntries_write {r : Rule} {es : Entries} (hes : es.Finite)
    (h : Rule.part.read es = .ok r) :
    Rule.ofEntries (("type", .str "rule") :: Rule.part.write r) = .ok r := by
  have back : Rule.part.read (("type", .str "rule") :: Rule.part.write r) = .ok r := by
    have outside : ∀ s ∈ Rule.spellings, ∀ k ∈ ["type"], s.main ≠ k ∧ s.other ≠ k := by decide
    simpa using rule_restores.read_inside hes h [("type", .str "rule")] [] outside
  have word : checkWord "rule" (("type", .str "rule") :: Rule.part.write r) = .ok () :=
    checkWord_ok (by simp)
  rw [Rule.ofEntries, word, back]
  rfl

namespace Item

theorem itemsAt_eq (name : String) (es : Entries) : itemsAt name es =
    match es.lookup name with
    | none => .ok []
    | some v => (ofList v).within (.key "children") := by
  induction es with
  | nil => rfl
  | cons e es ih =>
    obtain ⟨k, v⟩ := e
    rw [itemsAt, Ordered.lookup_entry]
    by_cases h : k = name
    · rw [if_pos h, if_pos h.symm]
    · rw [if_neg h, if_neg fun same => h same.symm, ih]

end Item

namespace Group

/-- What is written of a group. -/
def entries (g : Group) : Entries :=
  ("type", .str "group") :: headPart.write (g.id, g.connective)
    ++ [("children", .arr (Item.toJsonAll g.items))]

theorem toJson_toItem (g : Group) : g.toItem.toJson = .obj g.entries := rfl

theorem assemble_read {g : Group} {es : Entries} {items : Checked (List Item)}
    (h : assemble es items = .ok g) :
    headPart.read es = .ok (g.id, g.connective) ∧ items = .ok g.items := by
  obtain ⟨⟨id, connective⟩, items, head, read, rfl⟩ := Checked.both_ok.mp h
  obtain ⟨-, own, -, head, rfl⟩ := Checked.both_ok.mp head
  exact ⟨head, read⟩

/-- A group whose own fields were read, and whose items are read as what they were written of. -/
theorem assemble_entries {g : Group} {es : Entries} (hes : es.Finite)
    (head : headPart.read es = .ok (g.id, g.connective))
    (items : ∀ i, Item.ofAll i (Item.toJsonAll g.items) = .ok g.items) :
    assemble g.entries (Item.itemsAt (Item.itemsKey g.entries) g.entries) = .ok g := by
  have type : g.entries.lookup "type" = some (.str "group") := by simp [entries]
  have unwritten : (headPart.write (g.id, g.connective)).lookup "children" = none := by
    refine Ordered.lookup_eq_none.mpr fun hk => ?_
    obtain ⟨s, hs, same⟩ := head_restores.keys head _ hk
    have others : ∀ s ∈ spellings, s.main ≠ "children" := by decide
    exact others s hs same
  have children : g.entries.lookup "children" = some (.arr (Item.toJsonAll g.items)) := by
    rw [entries, List.lookup_append, Ordered.lookup_entry, if_neg (by decide), unwritten]
    simp
  have key : Item.itemsKey g.entries = "children" := by
    rw [Item.itemsKey, children]
    rfl
  have fields : headPart.read g.entries = .ok (g.id, g.connective) := by
    have outside : ∀ s ∈ spellings, ∀ k ∈ ["type", "children"], s.main ≠ k ∧ s.other ≠ k := by
      decide
    exact head_restores.read_inside hes head [("type", .str "group")]
      [("children", .arr (Item.toJsonAll g.items))] outside
  rw [assemble, checkWord_ok type, fields, key, Item.itemsAt_eq, children]
  simp only [Item.ofList, items]
  rfl

end Group

/-- The property holds of every rule that is read, and of a group that is read if it holds of the
items. -/
structure Item.Inherited (P : Item → Prop) : Prop where
  rule : ∀ {es : Entries} {r : Rule}, es.Finite → Rule.part.read es = .ok r → P (.rule r)
  group : ∀ {es : Entries} {g : Group}, es.Finite →
    Group.headPart.read es = .ok (g.id, g.connective) → (∀ i ∈ g.items, P i) → P g.toItem

namespace Item.Inherited

variable {P : Item → Prop}

mutual
/-- Then it holds of every item that is read. -/
theorem item (inherited : Inherited P) (j : Json) (hj : j.Finite) {i : Item}
    (h : Item.ofJson j = .ok i) : P i := by
  match j with
  | .obj es =>
    have hes : Entries.Finite es := Json.finite_obj.mp hj
    rw [Item.ofJson] at h
    cases tagged : Item.tag es with
    | other t =>
      rw [tagged] at h
      cases h
    | rule =>
      rw [tagged] at h
      obtain ⟨r, hr, rfl⟩ := Checked.map_ok.mp (Checked.within_ok.mp h)
      obtain ⟨-, r, -, own, rfl⟩ := Checked.both_ok.mp hr
      exact inherited.rule hes own
    | group =>
      rw [tagged] at h
      obtain ⟨g, hg, rfl⟩ := Checked.map_ok.mp (Checked.within_ok.mp h)
      obtain ⟨head, items⟩ := Group.assemble_read hg
      exact inherited.group hes head (inherited.itemsAt (Item.itemsKey es) es hes items)
  | .null | .bool _ | .int _ | .num _ | .str _ | .arr _ => cases h

theorem itemsAt (inherited : Inherited P) (name : String) (es : Entries) (hes : es.Finite)
    {items : List Item} (h : Item.itemsAt name es = .ok items) : ∀ i ∈ items, P i := by
  match es with
  | [] =>
    obtain rfl := Except.ok.inj h
    exact fun _ hi => nomatch hi
  | (k, v) :: es =>
    obtain ⟨hv, hes⟩ := List.forall_mem_cons.mp (Entries.finite_iff.mp hes)
    rw [Item.itemsAt] at h
    split at h
    · exact inherited.ofList v hv (Checked.within_ok.mp h)
    · exact inherited.itemsAt name es (Entries.finite_iff.mpr hes) h

theorem ofList (inherited : Inherited P) (v : Json) (hv : v.Finite) {items : List Item}
    (h : Item.ofList v = .ok items) : ∀ i ∈ items, P i := by
  match v with
  | .arr xs => exact inherited.ofAll xs (Json.finite_arr.mp hv) h
  | .null | .bool _ | .int _ | .num _ | .str _ | .obj _ => cases h

theorem ofAll (inherited : Inherited P) (xs : List Json) (hxs : ∀ x ∈ xs, x.Finite) {n : Nat}
    {items : List Item} (h : Item.ofAll n xs = .ok items) : ∀ i ∈ items, P i := by
  match xs with
  | [] =>
    obtain rfl := Except.ok.inj h
    exact fun _ hi => nomatch hi
  | x :: xs =>
    obtain ⟨hx, hxs⟩ := List.forall_mem_cons.mp hxs
    obtain ⟨i, items, hi, hs, rfl⟩ := Checked.both_ok.mp h
    exact List.forall_mem_cons.mpr
      ⟨inherited.item x hx (Checked.within_ok.mp hi), inherited.ofAll xs hxs hs⟩
end

/-- And of every condition. -/
theorem condition (inherited : Inherited P) {raw : Json} (finite : raw.Finite) {g : Group}
    (h : Group.ofJson raw = .ok g) : P g.toItem := by
  match raw with
  | .obj es =>
    have hes : Entries.Finite es := Json.finite_obj.mp finite
    obtain ⟨head, items⟩ := Group.assemble_read h
    exact inherited.group hes head (inherited.itemsAt (Item.itemsKey es) es hes items)
  | .null | .bool _ | .int _ | .num _ | .str _ | .arr _ => cases h

end Item.Inherited

theorem Item.ofAll_toJsonAll {items : List Item} (h : ∀ i ∈ items, ofJson i.toJson = .ok i)
    (m : Nat) : ofAll m (toJsonAll items) = .ok items := by
  induction items generalizing m with
  | nil => rfl
  | cons i items ih =>
    obtain ⟨first, rest⟩ := List.forall_mem_cons.mp h
    rw [toJsonAll, ofAll, first, ih rest]
    rfl

theorem Group.ofJson_item (g : Group) : Item.ofJson g.toItem.toJson =
    Checked.within (.key "group") ((Group.ofJson g.toJson).map Group.toItem) := by
  have tagged : Item.tag g.entries = .group := by simp [Item.tag, entries]
  rw [toJson_toItem, Item.ofJson, tagged]
  rfl

/-- An item is read as what it was written of. -/
theorem item_restores : Item.Inherited fun i => Item.ofJson i.toJson = .ok i where
  rule {es r} hes own := by
    have tagged : Item.tag (("type", .str "rule") :: Rule.part.write r) = .rule := by
      simp [Item.tag]
    rw [Item.toJson, Item.ofJson, tagged]
    simp only [Rule.ofEntries_write hes own]
    rfl
  group {es g} hes head items := by
    have back : Group.ofJson g.toJson = .ok g :=
      Group.assemble_entries hes head fun m => Item.ofAll_toJsonAll items m
    rw [Group.ofJson_item, back]
    rfl

/-- So is a condition. -/
theorem condition_restores : Shape.condition.Restores id := by
  refine .same (fun _ => rfl) (fun _ h => by cases h) ?_
  rintro g ⟨j, hj, h⟩
  have item := item_restores.condition hj h
  rw [Group.ofJson_item] at item
  obtain ⟨g', back, same⟩ := Checked.map_ok.mp (Checked.within_ok.mp item)
  cases g'
  cases g
  cases same
  exact back

end Questionnaire
