import Questionnaire.Proofs.DrainOrder

namespace Questionnaire.Flow

/-- At least so many links lead, one after another, to the node. -/
inductive Deep (f : Flow) : Nat → String → Prop
  | here {v} : Deep f 0 v
  | link {n u v} : Deep f n u → f.Link u v → Deep f (n + 1) v

/-- The longest ways to the two nodes have the same number of links. -/
def Level (f : Flow) (u v : String) : Prop := ∀ n, f.Deep n u ↔ f.Deep n v

theorem Level.symm {f : Flow} {u v : String} (h : f.Level u v) : f.Level v u := fun n => (h n).symm

/-- Nodes with the same predecessors are equally deep. -/
theorem Level.of_sources {f : Flow} {v w : String} (h : ∀ u, f.Link u v ↔ f.Link u w) :
    f.Level v w := by
  intro n
  cases n with
  | zero => exact ⟨fun _ => .here, fun _ => .here⟩
  | succ n =>
    constructor
    · rintro (_ | ⟨hn, hl⟩)
      exact .link hn ((h _).mp hl)
    · rintro (_ | ⟨hn, hl⟩)
      exact .link hn ((h _).mpr hl)

theorem Deep.of_succ {f : Flow} {n : Nat} {v : String} (h : f.Deep (n + 1) v) : f.Deep n v := by
  induction n generalizing v with
  | zero => exact .here
  | succ n ih =>
    cases h with
    | link before hl => exact .link (ih before) hl

theorem Deep.mono {f g : Flow} (sub : ∀ {u v}, f.Link u v → g.Link u v) {n : Nat} {v : String}
    (h : f.Deep n v) : g.Deep n v := by
  induction h with
  | here => exact .here
  | link _ hl ih => exact .link ih (sub hl)

theorem Level.mono {f g : Flow} (same : ∀ {u v}, f.Link u v ↔ g.Link u v) {u v : String}
    (h : f.Level u v) : g.Level u v := by
  have deep (n : Nat) (w : String) : f.Deep n w ↔ g.Deep n w :=
    ⟨Deep.mono same.mp, Deep.mono same.mpr⟩
  intro n
  rw [← deep, ← deep]
  exact h n

theorem inDegree_zero {f : Flow} {v : String} : f.inDegree v = 0 ↔ ∀ u, ¬ f.Link u v := by
  rw [inDegree, List.length_eq_zero_iff, List.filter_eq_nil_iff]
  constructor
  · intro none u hl
    exact none (u, v) hl (beq_self_eq_true v)
  · rintro none ⟨u, w⟩ hl same
    exact none u ((beq_iff_eq.mp same) ▸ hl)

/-- What is taken and queued stands by depth, and what is queued is no more than one link deeper
than what is taken next. -/
structure Tiered (f : Flow) (done queue : List String) : Prop where
  sorted : (done ++ queue).Pairwise fun u v => ∀ n, f.Deep n u → f.Deep n v
  span : ∀ v rest, queue = v :: rest → ∀ w ∈ rest, ∀ n, f.Deep (n + 1) w → f.Deep n v

theorem Tiered.initial {f : Flow} : Tiered f [] (f.keys.filter fun v => f.inDegree v == 0) := by
  have shallow {v : String} (hv : v ∈ f.keys.filter fun v => f.inDegree v == 0) (n : Nat) :
      ¬ f.Deep (n + 1) v := by
    rintro (_ | ⟨-, hl⟩)
    exact inDegree_zero.mp (by simpa using (List.mem_filter.mp hv).2) _ hl
  constructor
  · rw [List.nil_append]
    refine List.pairwise_of_forall_mem_list fun u hu v _ n hn => ?_
    cases n with
    | zero => exact .here
    | succ n => exact absurd hn (shallow hu n)
  · intro v rest he w hw n hn
    exact absurd hn (shallow (he ▸ List.mem_cons_of_mem v hw) n)

section Taking

variable {f : Flow} {done queue : List String} {v : String} {degree : String → Nat}
  (h : Drained f done (v :: queue) degree) (t : Tiered f done (v :: queue))
include t

theorem Tiered.shallower {u : String} (hu : u ∈ done) {n : Nat} (hn : f.Deep n u) : f.Deep n v :=
  (List.pairwise_append.mp t.sorted).2.2 u hu v List.mem_cons_self n hn

/-- Nothing that is taken or queued is more than one link deeper than the node taken now. -/
theorem Tiered.near {u : String} (hu : u ∈ done ++ v :: queue) {n : Nat}
    (hn : f.Deep (n + 1) u) : f.Deep n v := by
  rcases List.mem_append.mp hu with hd | hq
  · exact t.shallower hd hn.of_succ
  · rcases List.mem_cons.mp hq with rfl | hq
    · exact hn.of_succ
    · exact t.span v queue rfl u hq n hn

include h

/-- A node released is one link deeper than the last of its predecessors. -/
theorem Tiered.released {w : String} (hw : w ∈ (release (f.targets v) degree).1) (n : Nat) :
    f.Deep (n + 1) w ↔ f.Deep n v := by
  obtain ⟨ht, hz⟩ := (h.mem_released w).mp hw
  constructor
  · rintro (_ | ⟨hn, hl⟩)
    rcases List.mem_append.mp (pending_zero.mp hz _ hl) with hd | hv
    · exact t.shallower hd hn
    · exact List.mem_singleton.mp hv ▸ hn
  · intro hn
    exact .link hn (mem_targets.mp ht)

theorem Tiered.take : Tiered f (done ++ [v]) (queue ++ (release (f.targets v) degree).1) := by
  have split : (done ++ [v]) ++ (queue ++ (release (f.targets v) degree).1)
      = (done ++ v :: queue) ++ (release (f.targets v) degree).1 := by simp
  have sorted : ((done ++ [v]) ++ (queue ++ (release (f.targets v) degree).1)).Pairwise
      fun u w => ∀ n, f.Deep n u → f.Deep n w := by
    rw [split]
    refine List.pairwise_append.mpr ⟨t.sorted, ?_, ?_⟩
    · refine List.pairwise_of_forall_mem_list fun u hu w hw n hn => ?_
      cases n with
      | zero => exact .here
      | succ n => exact (t.released h hw n).mpr ((t.released h hu n).mp hn)
    · intro u hu w hw n hn
      cases n with
      | zero => exact .here
      | succ n => exact (t.released h hw n).mpr (t.near hu hn)
  refine ⟨sorted, ?_⟩
  intro x rest he w hw n hn
  have hv : f.Deep n v := by
    rcases List.mem_append.mp (he ▸ List.mem_cons_of_mem x hw) with hq | hr
    · exact t.near (List.mem_append_right _ (List.mem_cons_of_mem v hq)) hn
    · exact (t.released h hr n).mp hn
  rw [he] at sorted
  exact (List.pairwise_append.mp sorted).2.2 v (by simp) x List.mem_cons_self n hv

end Taking

section Order

variable {f : Flow} (h : f.Proper)
include h

/-- The order goes from the shallow nodes to the deep ones. -/
theorem order_by_depth : f.order.Pairwise fun u v => ∀ n, f.Deep n u → f.Deep n v := by
  obtain ⟨-, -, t⟩ := order_keeps h (P := Tiered f) (fun hd t => t.take hd) .initial
  simpa using t.sorted

theorem deep_of_before {u v : String} (hb : Before f.order u v) {n : Nat} (hn : f.Deep n u) :
    f.Deep n v := by
  have hu := List.idxOf_lt_length_iff.mpr hb.mem
  have hv := List.idxOf_lt_length_iff.mpr hb.1
  have sorted := List.pairwise_iff_getElem.mp (order_by_depth h) _ _ hu hv hb.2 n
  rw [List.getElem_idxOf hu, List.getElem_idxOf hv] at sorted
  exact sorted hn

/-- Of two nodes in the order the shallower comes first. -/
theorem before_of_deep {u v : String} (hu : u ∈ f.order) (hv : v ∈ f.order) {n : Nat}
    (deep : f.Deep n v) (shallow : ¬ f.Deep n u) : Before f.order u v := by
  by_contra hb
  rcases Nat.lt_trichotomy (f.order.idxOf u) (f.order.idxOf v) with less | same | more
  · exact hb ⟨hv, less⟩
  · exact shallow ((List.idxOf_inj hu).mp same ▸ deep)
  · exact shallow (deep_of_before h ⟨hu, more⟩ deep)

/-- Flows with the same links agree on which of two nodes comes first, unless the two are equally
deep. -/
theorem Before.reordered {g : Flow} (hg : g.Proper) (same : ∀ {u v}, f.Link u v ↔ g.Link u v)
    {u v : String} (hb : Before f.order u v) (apart : ¬ f.Level u v) (hu : u ∈ g.order)
    (hv : v ∈ g.order) : Before g.order u v := by
  rw [Level, not_forall] at apart
  obtain ⟨n, hn⟩ := apart
  have deep : f.Deep n v := by
    by_contra hv
    exact hn ⟨fun hu => absurd (deep_of_before h hb hu) hv, fun hv' => absurd hv' hv⟩
  have shallow : ¬ f.Deep n u := fun hu => hn ⟨fun _ => deep, fun _ => hu⟩
  exact before_of_deep hg hu hv (deep.mono same.mp) fun hu => shallow (hu.mono same.mpr)

end Order

end Questionnaire.Flow
