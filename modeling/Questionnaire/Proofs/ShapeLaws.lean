import Mathlib.Data.List.Forall2
import Mathlib.Tactic.ByContra
import Questionnaire.Schema.Shape

namespace Questionnaire

/-- Every number in the document is finite. -/
def Json.Finite (j : Json) : Prop := j.finite = j

def Entries.Finite (es : Entries) : Prop := Json.finiteEntries es = es

instance (j : Json) : Decidable j.Finite := inferInstanceAs (Decidable (_ = _))

instance (es : Entries) : Decidable es.Finite := inferInstanceAs (Decidable (_ = _))

namespace Json

theorem finite_obj {es : Entries} : (obj es).Finite ↔ es.Finite := by
  rw [Json.Finite, finite, Json.obj.injEq, Entries.Finite]

theorem finite_arr {xs : List Json} : (arr xs).Finite ↔ ∀ x ∈ xs, x.Finite := by
  have items : finiteItems xs = xs ↔ ∀ x ∈ xs, x.Finite := by
    induction xs with
    | nil => simp [finiteItems]
    | cons x xs ih => rw [finiteItems, List.cons.injEq, ih, List.forall_mem_cons, Json.Finite]
  rw [Json.Finite, finite, Json.arr.injEq, items]

end Json

theorem Entries.finite_iff {es : Entries} : es.Finite ↔ ∀ e ∈ es, e.2.Finite := by
  induction es with
  | nil => simp [Entries.Finite, Json.finiteEntries]
  | cons e es ih =>
    rw [Entries.Finite] at ih ⊢
    rw [Json.finiteEntries, List.cons.injEq, Prod.mk.injEq, ih, List.forall_mem_cons, Json.Finite]
    simp

/-- In two lists related place by place, each member of the second has its like in the first. -/
theorem exists_of_forall₂ {α β : Type} {R : α → β → Prop} {xs : List α} {ys : List β}
    (h : List.Forall₂ R xs ys) {y : β} (hy : y ∈ ys) : ∃ x ∈ xs, R x y := by
  induction h with
  | nil => cases hy
  | @cons x z xs ys hx _ ih =>
    rcases List.mem_cons.mp hy with rfl | hy
    · exact ⟨x, List.mem_cons_self, hx⟩
    · obtain ⟨x', hx', related⟩ := ih hy
      exact ⟨x', List.mem_cons_of_mem x hx', related⟩

namespace Checked

variable {α : Type}

theorem each_ok {read : Json → Checked α} {i : Nat} {xs : List Json} {as : List α} :
    each read i xs = .ok as ↔ List.Forall₂ (fun x a => read x = .ok a) xs as := by
  induction xs generalizing i as with
  | nil =>
    rw [each, List.forall₂_nil_left_iff]
    exact ⟨fun h => (Except.ok.inj h).symm, fun h => h ▸ rfl⟩
  | cons x xs ih =>
    rw [each, both_ok, List.forall₂_cons_left_iff]
    constructor
    · rintro ⟨a, as, ha, hs, rfl⟩
      exact ⟨a, as, within_ok.mp ha, ih.mp hs, rfl⟩
    · rintro ⟨a, as, ha, hs, rfl⟩
      exact ⟨a, as, within_ok.mpr ha, ih.mpr hs, rfl⟩

theorem read_of_each {read : Json → Checked α} {i : Nat} {xs : List Json} {as : List α}
    (h : each read i xs = .ok as) : ∀ a ∈ as, ∃ x ∈ xs, read x = .ok a :=
  fun _ ha => exists_of_forall₂ (each_ok.mp h) ha

end Checked

namespace Shape

variable {α : Type} {s : Shape α} {r : α → α}

/-- The value can be read from a document in which every number is finite. -/
def Reads (s : Shape α) (a : α) : Prop := ∃ j : Json, j.Finite ∧ s.read j = .ok a

/-- What is written of a value that was read is read as the restored value, of which the same is
written. Null is what is read as absent. -/
structure Restores (s : Shape α) (r : α → α) : Prop where
  back : ∀ {a}, s.Reads a → s.read (s.write a) = .ok (r a)
  again : ∀ {a}, s.Reads a → s.write (r a) = s.write a
  kept : ∀ {a}, s.Reads a → s.isAbsent (r a) = s.isAbsent a
  absent : ∀ {j a}, s.read j = .ok a → (s.isAbsent a = true ↔ j = .null)

/-- A shape for which null is no value. -/
theorem Restores.present (present : ∀ a, s.isAbsent a = false) (null : ∀ a, s.read .null ≠ .ok a)
    (back : ∀ a, s.Reads a → s.read (s.write a) = .ok (r a))
    (again : ∀ a, s.Reads a → s.write (r a) = s.write a) : s.Restores r where
  back := back _
  again := again _
  kept _ := by rw [present, present]
  absent {j a} h := by
    rw [present]
    constructor
    · intro f
      cases f
    · rintro rfl
      exact absurd h (null a)

/-- One in which every value is restored as it is. -/
theorem Restores.same (present : ∀ a, s.isAbsent a = false) (null : ∀ a, s.read .null ≠ .ok a)
    (back : ∀ a, s.Reads a → s.read (s.write a) = .ok a) : s.Restores id :=
  .present present null back fun _ _ => rfl

theorem string_restores : string.Restores id :=
  .same (fun _ => rfl) (fun _ h => by cases h) (fun _ _ => rfl)

theorem bool_restores : bool.Restores id :=
  .same (fun _ => rfl) (fun _ h => by cases h) (fun _ _ => rfl)

theorem int_restores : int.Restores id :=
  .same (fun _ => rfl) (fun _ h => by cases h) (fun _ _ => rfl)

theorem number_restores : number.Restores id :=
  .same (fun _ => rfl) (fun _ h => by cases h) (fun _ _ => rfl)

theorem object_restores : object.Restores id := by
  refine .same (fun _ => rfl) (fun _ h => by cases h) ?_
  rintro es ⟨j, hj, h⟩
  match j, h with
  | .obj _, rfl => exact congrArg Except.ok (Json.finite_obj.mp hj)

theorem oneOf_restores {words : List String} {ofWord? : String → Option α} {word : α → String}
    (h : ∀ a, ofWord? (word a) = some a) : (oneOf words ofWord? word).Restores id := by
  refine .same (fun _ => rfl) (fun _ h => by cases h) fun a _ => ?_
  simp only [oneOf, h]

theorem any_restores : any.Restores id where
  back {a} := by
    rintro ⟨j, hj, h⟩
    obtain rfl := Except.ok.inj h
    exact congrArg Except.ok hj
  again _ := rfl
  kept _ := rfl
  absent {j a} h := by
    obtain rfl := Except.ok.inj h
    cases j <;> simp [any, Json.isNull]

theorem list_restores (law : s.Restores r) : (list s).Restores (List.map r) := by
  have items {xs : List α} (h : (list s).Reads xs) : ∀ a ∈ xs, s.Reads a := by
    obtain ⟨j, hj, h⟩ := h
    match j, h with
    | .arr js, h =>
      intro a ha
      obtain ⟨x, hx, read⟩ := Checked.read_of_each h a ha
      exact ⟨x, Json.finite_arr.mp hj x hx, read⟩
  refine .present (fun _ => rfl) (fun _ h => by cases h) (fun xs h => ?_) fun xs h => ?_
  · refine Checked.each_ok.mpr (List.forall₂_map_left_iff.mpr (List.forall₂_map_right_iff.mpr ?_))
    exact List.forall₂_same.mpr fun a ha => law.back (items h a ha)
  · have same : (xs.map r).map s.write = xs.map s.write := by
      rw [List.map_map]
      exact List.map_congr_left fun a ha => law.again (items h a ha)
    exact congrArg Json.arr same

/-- Null stands for no value where it is no value of the inner shape. -/
theorem optional_restores (law : s.Restores r) (present : ∀ a, s.isAbsent a = false) :
    (optional s).Restores (Option.map r) := by
  have read {j : Json} (hj : j ≠ .null) : (optional s).read j = (s.read j).map some := by
    cases j with
    | null => exact absurd rfl hj
    | _ => rfl
  have inner {a : α} (h : (optional s).Reads (some a)) : s.Reads a := by
    obtain ⟨j, hj, h⟩ := h
    have given : j ≠ .null := by
      rintro rfl
      cases h
    rw [read given] at h
    obtain ⟨b, hb, same⟩ := Checked.map_ok.mp h
    cases same
    exact ⟨j, hj, hb⟩
  constructor
  case back =>
    intro a h
    cases a with
    | none => rfl
    | some a =>
      have back := law.back (inner h)
      have given : s.write a ≠ .null := by
        intro null
        have gone := (law.absent back).mpr null
        rw [present] at gone
        cases gone
      exact (read given).trans (Checked.map_ok.mpr ⟨r a, back, rfl⟩)
  case again =>
    intro a h
    cases a with
    | none => rfl
    | some a => exact law.again (inner h)
  case kept =>
    intro a h
    cases a <;> rfl
  case absent =>
    intro j a h
    cases a with
    | none =>
      refine iff_of_true rfl ?_
      by_contra given
      rw [read given] at h
      obtain ⟨b, -, same⟩ := Checked.map_ok.mp h
      cases same
    | some a =>
      refine iff_of_false (fun f => by cases f) ?_
      rintro rfl
      cases h

end Shape
end Questionnaire
