import Questionnaire.Proofs.Checks

namespace Questionnaire
open Relation

/-- On a round of the relation, or behind one. -/
def Looped (r : String → String → Prop) (v : String) : Prop :=
  ∃ c, TransGen r c c ∧ ReflTransGen r c v

namespace Flow

variable {f : Flow} (h : f.Proper)
include h

/-- Nothing on a round has a place in the order, and nothing behind one. -/
theorem mem_order_iff {v : String} : v ∈ f.order ↔ v ∈ f.keys ∧ ¬ Looped f.Link v := by
  constructor
  · intro hv
    refine ⟨key_of_mem_order h hv, ?_⟩
    rintro ⟨c, round, behind⟩
    have placed : c ∈ f.order := by
      rcases reflTransGen_iff_eq_or_transGen.mp behind with rfl | path
      · exact hv
      · exact (before_of_path h path hv).mem
    exact (before_of_path h round placed).irrefl
  · rintro ⟨key, free⟩
    by_contra out
    exact free (cycle_of_not_mem_order h key out)

end Flow

/-- A view is kept if no view with its id was seen before. -/
theorem mem_firstViews {seen : List String} {vs : List View} {v : View} :
    v ∈ firstViews seen vs ↔ v.id ∉ seen ∧ vs.find? (·.id == v.id) = some v := by
  induction vs generalizing seen with
  | nil => simp [firstViews]
  | cons w vs ih =>
    rw [firstViews]
    by_cases known : w.id ∈ seen
    · rw [if_pos (List.contains_iff_mem.mpr known), ih]
      apply and_congr_right
      intro new
      have other : w.id ≠ v.id := fun same => new (same ▸ known)
      simp [other]
    · rw [if_neg (mt List.contains_iff_mem.mp known), List.mem_cons, ih]
      -- once a view is kept, those with its id come too late, here as in the search by id
      by_cases same : w.id = v.id
      · have new : v.id ∉ seen := same ▸ known
        simp [same, new, eq_comm]
      · have other : v ≠ w := fun h => same (h ▸ rfl)
        simp [same, other, Ne.symm same]

theorem firstViews_distinct (seen : List String) (vs : List View) :
    ((firstViews seen vs).map View.id).Nodup := by
  induction vs generalizing seen with
  | nil => simp [firstViews]
  | cons w vs ih =>
    rw [firstViews]
    split
    · exact ih seen
    · rw [List.map_cons, List.nodup_cons]
      refine ⟨?_, ih _⟩
      intro again
      obtain ⟨v, hv, same⟩ := List.mem_map.mp again
      exact (mem_firstViews.mp hv).1 (by simp [same])

namespace Draft

variable {d : Draft}

/-- A draft comes from a design as it was saved, or from one that was read already. -/
inductive Given : Draft → Prop where
  | raw (ids : IdSupply) (nodes edges : List Json) : Given (ofRaw ids nodes edges)
  | read (nodes : List Node) (edges : List Edge) : Given (ofRead nodes edges)

/-- The first view of its id. -/
def First (d : Draft) (v : View) : Prop := d.views.find? (·.id == v.id) = some v

def ids (d : Draft) : List String := d.views.map View.id

/-- Some edge leads from the one node to the other, and both are there. -/
def Joins (d : Draft) (u v : String) : Prop :=
  ∃ e ∈ d.edges, e.source = u ∧ e.target = v ∧ u ∈ d.ids ∧ v ∈ d.ids

theorem viewNode_check {j : Json} {p : Problem} (h : p ∈ (viewNode j).2) : p.check = .reading := by
  rw [viewNode] at h
  split at h
  · rw [List.mem_singleton.mp h]
    rfl
  · split at h
    · cases h
    · rw [List.mem_singleton.mp h]
      rfl

theorem readEdge_check {j : Json} {read : Checked Edge} {p : Problem}
    (h : p ∈ (readEdge j read).2) : p.check = .reading := by
  cases read with
  | ok e => cases h
  | error fs =>
    rw [List.mem_singleton.mp h]
    rfl

theorem Given.reading (given : d.Given) {p : Problem} (h : p ∈ d.problems) :
    p.check = .reading := by
  cases given with
  | raw ids nodes edges =>
    rw [ofRaw, List.mem_append] at h
    rcases h with h | h
    · obtain ⟨r, hr, hp⟩ := List.mem_flatMap.mp h
      obtain ⟨j, -, rfl⟩ := List.mem_map.mp hr
      exact viewNode_check hp
    · obtain ⟨r, hr, hp⟩ := List.mem_flatMap.mp h
      rw [← List.map_uncurry_zip_eq_zipWith] at hr
      obtain ⟨j, -, rfl⟩ := List.mem_map.mp hr
      exact readEdge_check hp
  | read nodes edges => cases h

/-- What was found wrong in reading is not mixed up with what a check finds. -/
theorem filter_validate (given : d.Given) {c : Check} (later : c ≠ .reading)
    {q : Problem → Bool} (own : ∀ p, q p = true → p.check = c) :
    d.validate.filter q = (d.survey.found c).filter q := by
  have none {ps : List Problem} (h : ∀ p ∈ ps, p.check ≠ c) : ps.filter q = [] :=
    List.filter_eq_nil_iff.mpr fun p hp hq => h p hp (own p hq)
  have read : d.problems.filter q = [] := by
    apply none
    intro p hp
    rw [given.reading hp]
    exact later.symm
  have repeated : ((repeatedIds [] d.views).map .duplicateNode).filter q = [] := by
    apply none
    intro p hp
    obtain ⟨id, -, rfl⟩ := List.mem_map.mp hp
    exact later.symm
  have elsewhere {c' : Check} (other : c' ≠ c) : (d.survey.found c').filter q = [] := by
    apply none
    intro p hp
    rw [Survey.found_check hp]
    exact other
  rw [validate, List.filter_append, List.filter_append, read, repeated, Survey.problems_eq]
  cases c <;> simp [elsewhere] at later ⊢

theorem mem_survey {v : View} : v ∈ d.survey.views ↔ d.First v := by
  simp [survey, mem_firstViews, First]

theorem survey_distinct : (d.survey.views.map View.id).Nodup := firstViews_distinct [] d.views

/-- The checks look at every id. -/
theorem ids_survey {id : String} : id ∈ d.survey.views.map View.id ↔ id ∈ d.ids := by
  simp only [ids, List.mem_map]
  constructor
  · rintro ⟨v, hv, rfl⟩
    exact ⟨v, List.mem_of_find?_eq_some (mem_survey.mp hv), rfl⟩
  · rintro ⟨v, hv, rfl⟩
    obtain ⟨w, hw⟩ := Option.isSome_iff_exists.mp
      (List.find?_isSome (p := (·.id == v.id)).mpr ⟨v, hv, by simp⟩)
    have same : w.id = v.id := by simpa using List.find?_some hw
    refine ⟨w, mem_survey.mpr ?_, same⟩
    rw [First, same]
    exact hw

theorem link_survey : d.survey.flow.Link = d.Joins := by
  funext u v
  simp only [Survey.link_iff, Survey.has_iff, ids_survey, Joins, eq_iff_iff]
  constructor
  · rintro ⟨e, he, ⟨hs, ht⟩, rfl, rfl⟩
    exact ⟨e, he, rfl, rfl, hs, ht⟩
  · rintro ⟨e, he, rfl, rfl, hs, ht⟩
    exact ⟨e, he, ⟨hs, ht⟩, rfl, rfl⟩

theorem survey_proper : d.survey.flow.Proper := Survey.flow_proper survey_distinct

end Draft
end Questionnaire
