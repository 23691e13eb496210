import Questionnaire.Proofs.DrainOrder

namespace Questionnaire.Flow
open Relation

theorem visit_sound (f : Flow) (visited stack : List String) :
    ∀ v ∈ f.visit visited stack, v ∈ visited ∨ ∃ s ∈ stack, ReflTransGen f.Link s v := by
  induction visited, stack using visit.induct f with
  | case1 visited =>
    intro v hv
    exact Or.inl (by simpa [visit] using hv)
  | case2 visited u stack seen ih =>
    rw [visit, if_pos seen]
    intro v hv
    rcases ih v hv with hold | ⟨s, hs, hp⟩
    · exact Or.inl hold
    · exact Or.inr ⟨s, List.mem_cons_of_mem _ hs, hp⟩
  | case3 visited u stack fresh ih =>
    rw [visit, if_neg fresh]
    intro v hv
    rcases ih v hv with hold | ⟨s, hs, hp⟩
    · rcases List.mem_cons.mp hold with rfl | hold
      · exact Or.inr ⟨v, List.mem_cons_self, .refl⟩
      · exact Or.inl hold
    · rcases List.mem_append.mp hs with ht | hs
      · exact Or.inr ⟨u, List.mem_cons_self, .head (mem_targets.mp ht) hp⟩
      · exact Or.inr ⟨s, List.mem_cons_of_mem _ hs, hp⟩

theorem visit_grows (f : Flow) (visited stack : List String) :
    visited ⊆ f.visit visited stack ∧ stack ⊆ f.visit visited stack := by
  induction visited, stack using visit.induct f with
  | case1 visited => simp [visit]
  | case2 visited u stack seen ih =>
    rw [visit, if_pos seen]
    refine ⟨ih.1, List.cons_subset.mpr ⟨ih.1 (List.contains_iff_mem.mp seen), ih.2⟩⟩
  | case3 visited u stack fresh ih =>
    rw [visit, if_neg fresh]
    have hu := List.cons_subset.mp ih.1
    exact ⟨hu.2, List.cons_subset.mpr ⟨hu.1, (List.append_subset.mp ih.2).2⟩⟩

/-- Nothing that a visited node leads to is left out, if it was on the stack at the start. -/
theorem visit_closed (f : Flow) (visited stack : List String)
    (open_ : ∀ u ∈ visited, ∀ v, f.Link u v → v ∈ visited ∨ v ∈ stack) :
    ∀ u ∈ f.visit visited stack, ∀ v, f.Link u v → v ∈ f.visit visited stack := by
  induction visited, stack using visit.induct f with
  | case1 visited => simpa [visit] using open_
  | case2 visited u stack seen ih =>
    rw [visit, if_pos seen]
    refine ih fun w hw v hl => ?_
    rcases open_ w hw v hl with hv | hv
    · exact Or.inl hv
    · rcases List.mem_cons.mp hv with rfl | hv
      · exact Or.inl (List.contains_iff_mem.mp seen)
      · exact Or.inr hv
  | case3 visited u stack fresh ih =>
    rw [visit, if_neg fresh]
    refine ih fun w hw v hl => ?_
    rcases List.mem_cons.mp hw with rfl | hw
    · exact Or.inr (List.mem_append_left _ (mem_targets.mpr hl))
    · rcases open_ w hw v hl with hv | hv
      · exact Or.inl (List.mem_cons_of_mem _ hv)
      · rcases List.mem_cons.mp hv with rfl | hv
        · exact Or.inl List.mem_cons_self
        · exact Or.inr (List.mem_append_right _ hv)

theorem mem_reached {f : Flow} {seeds : List String} {v : String} :
    v ∈ f.reached seeds ↔ ∃ s ∈ seeds, ReflTransGen f.Link s v := by
  constructor
  · intro hv
    rcases visit_sound f [] seeds v hv with hn | hs
    · exact absurd hn List.not_mem_nil
    · exact hs
  · rintro ⟨s, hs, hp⟩
    have closed := visit_closed f [] seeds (by simp)
    induction hp with
    | refl => exact (visit_grows f [] seeds).2 hs
    | tail _ hl ih => exact closed _ ih _ hl

theorem link_reversed {f : Flow} {u v : String} : f.reversed.Link u v ↔ f.Link v u := by
  simp [Link, reversed]

/-- Following the links backwards finds what leads to the seeds. -/
theorem mem_reached_reversed {f : Flow} {seeds : List String} {v : String} :
    v ∈ f.reversed.reached seeds ↔ ∃ s ∈ seeds, ReflTransGen f.Link v s := by
  have swap : f.reversed.Link = Function.swap f.Link := by
    funext u w
    exact propext link_reversed
  simp only [mem_reached, swap, reflTransGen_swap]

end Questionnaire.Flow
