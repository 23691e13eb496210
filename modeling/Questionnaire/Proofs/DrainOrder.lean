import Mathlib.Data.Fintype.Card
import Mathlib.Data.Set.Finite.Basic
import Mathlib.Data.List.Nodup
import Mathlib.Data.List.Perm.Subperm
import Mathlib.Logic.Relation
import Mathlib.Order.WellFounded
import Questionnaire.Check.Flow

namespace Questionnaire.Flow

/-- One link leads from the first node to the other. -/
def Link (f : Flow) (u v : String) : Prop := (u, v) ∈ f.links

/-- Every key stands once, and every link joins two keys. -/
structure Proper (f : Flow) : Prop where
  nodup : f.keys.Nodup
  source : ∀ {u v}, f.Link u v → u ∈ f.keys
  target : ∀ {u v}, f.Link u v → v ∈ f.keys

/-- The other stands in the order, and the first stands in front of it. -/
def Before (order : List String) (u v : String) : Prop :=
  v ∈ order ∧ order.idxOf u < order.idxOf v

theorem Before.trans {order : List String} {u v w : String}
    (h : Before order u v) (k : Before order v w) : Before order u w :=
  ⟨k.1, Nat.lt_trans h.2 k.2⟩

theorem Before.irrefl {order : List String} {v : String} (h : Before order v v) : False :=
  Nat.lt_irrefl _ h.2

theorem Before.mem {order : List String} {u v : String} (h : Before order u v) : u ∈ order :=
  List.idxOf_lt_length_iff.mp (Nat.lt_trans h.2 (List.idxOf_lt_length_iff.mpr h.1))

theorem mem_targets {f : Flow} {u v : String} : v ∈ f.targets u ↔ f.Link u v := by
  simp [targets, Link]

/-- The links that lead to a node from nodes not yet taken. -/
def pending (f : Flow) (done : List String) (v : String) : Nat :=
  f.links.countP fun l => l.2 == v && !done.contains l.1

theorem pending_zero {f : Flow} {done : List String} {v : String} :
    f.pending done v = 0 ↔ ∀ u, f.Link u v → u ∈ done := by
  simp only [pending, List.countP_eq_zero, Bool.and_eq_true, beq_iff_eq, Bool.not_eq_true',
    List.contains_eq_mem, decide_eq_false_iff_not, not_and, not_not]
  constructor
  · intro h u hl
    exact h (u, v) hl rfl
  · rintro h ⟨u, w⟩ hl rfl
    exact h u hl

/-- Taking a node off settles its own links and no others. -/
theorem pending_take {f : Flow} {done : List String} {v : String} (hv : v ∉ done) (w : String) :
    f.pending done w = f.pending (done ++ [v]) w + (f.targets v).count w := by
  simp only [pending, targets, List.count, List.countP_map, List.countP_filter, Function.comp_def]
  induction f.links with
  | nil => rfl
  | cons l ls ih =>
    simp only [List.countP_cons, ih]
    by_cases hs : l.1 = v
    · by_cases ht : l.2 = w <;> simp [hs, ht, hv]
      omega
    · by_cases ht : l.2 = w <;> by_cases hd : l.1 ∈ done <;> simp [hs, ht, hd]
      omega

theorem release_count (ts : List String) (degree : String → Nat) (v : String) :
    (release ts degree).2 v = degree v - ts.count v := by
  induction ts generalizing degree with
  | nil => simp [release]
  | cons t ts ih =>
    simp only [release, ih, List.count_cons]
    by_cases h : v = t
    · subst h
      simp
      omega
    · simp [h, Ne.symm h]

/-- No node has more links released than it has left. -/
def Covers (degree : String → Nat) (ts : List String) : Prop := ∀ v, ts.count v ≤ degree v

theorem Covers.tail {degree : String → Nat} {t : String} {ts : List String}
    (h : Covers degree (t :: ts)) :
    Covers (fun v => if v = t then degree v - 1 else degree v) ts := by
  intro v
  have hv := h v
  by_cases he : v = t
  · subst he
    rw [List.count_cons_self] at hv
    simp only [↓reduceIte]
    omega
  · rw [List.count_cons_of_ne (Ne.symm he)] at hv
    simpa only [he, ↓reduceIte] using hv

/-- Released are the targets that lose their last link. -/
theorem mem_release {ts : List String} {degree : String → Nat} (hc : Covers degree ts)
    (v : String) : v ∈ (release ts degree).1 ↔ v ∈ ts ∧ degree v = ts.count v := by
  induction ts generalizing degree with
  | nil => simp [release]
  | cons t ts ih =>
    have ht := hc t
    have tail := ih hc.tail
    rw [List.count_cons_self] at ht
    simp only [release]
    by_cases h : v = t
    · subst h
      rw [List.count_cons_self]
      by_cases hz : degree v - 1 = 0
      · have hn : ts.count v = 0 := by omega
        simp [hz, hn]
        omega
      · have hn : v ∈ ts ↔ 0 < ts.count v := List.count_pos_iff.symm
        simp only [↓reduceIte, hz, tail, hn, List.mem_cons, true_or, true_and]
        omega
    · rw [List.count_cons_of_ne (Ne.symm h), List.mem_cons]
      simp only [h, false_or, ↓reduceIte]
      split
      · rw [List.mem_cons, tail]
        simp [h]
      · rw [tail]
        simp [h]

theorem nodup_release {ts : List String} {degree : String → Nat} (hc : Covers degree ts) :
    (release ts degree).1.Nodup := by
  induction ts generalizing degree with
  | nil => simp [release]
  | cons t ts ih =>
    have ht := hc t
    rw [List.count_cons_self] at ht
    simp only [release, ↓reduceIte]
    by_cases hz : degree t - 1 = 0
    · rw [if_pos hz]
      refine List.nodup_cons.mpr ⟨?_, ih hc.tail⟩
      intro hm
      have := List.count_pos_iff.mpr ((mem_release hc.tail t).mp hm).1
      omega
    · rw [if_neg hz]
      exact ih hc.tail

/-- The invariant of the drain: what is queued has no pending link, nothing else is left out that
has none, and each node taken came after all that lead to it. -/
structure Drained (f : Flow) (done queue : List String) (degree : String → Nat) : Prop where
  nodup : (done ++ queue).Nodup
  keys : ∀ v ∈ done ++ queue, v ∈ f.keys
  counted : ∀ v, degree v = f.pending done v
  ready : ∀ v ∈ f.keys, v ∈ done ++ queue ↔ degree v = 0
  sorted : ∀ u v, f.Link u v → v ∈ done → Before done u v

theorem Drained.initial {f : Flow} (h : f.Proper) :
    Drained f [] (f.keys.filter fun v => f.inDegree v == 0) f.inDegree where
  nodup := h.nodup.filter _
  keys v hv := (List.mem_filter.mp hv).1
  counted v := by simp [inDegree, pending, List.countP_eq_length_filter]
  ready v hv := by simp [hv]
  sorted u v _ hv := by simp at hv

theorem Before.append {order : List String} {u v : String} (more : List String)
    (h : Before order u v) : Before (order ++ more) u v :=
  ⟨List.mem_append_left _ h.1, by
    rw [List.idxOf_append_of_mem h.mem, List.idxOf_append_of_mem h.1]
    exact h.2⟩

theorem before_of_new {l r : List String} {u v : String} (hu : u ∈ l) (hv : v ∉ l)
    (hr : v ∈ r) : Before (l ++ r) u v := by
  refine ⟨List.mem_append_right _ hr, ?_⟩
  rw [List.idxOf_append_of_mem hu, List.idxOf_append_of_notMem hv]
  exact Nat.lt_of_lt_of_le (List.idxOf_lt_length_iff.mpr hu) (Nat.le_add_right _ _)

section Taking

variable {f : Flow} {done queue : List String} {v : String} {degree : String → Nat}
  (h : Drained f done (v :: queue) degree)
include h

theorem Drained.head_new : v ∉ done := by
  intro hd
  exact (List.nodup_append.mp h.nodup).2.2 v hd v List.mem_cons_self rfl

/-- The links that come off with a node are the ones it leads on with. -/
theorem Drained.degree_split (w : String) :
    degree w = f.pending (done ++ [v]) w + (f.targets v).count w := by
  rw [h.counted w, pending_take h.head_new w]

theorem Drained.covers : Covers degree (f.targets v) := by
  intro w
  rw [h.degree_split w]
  omega

theorem Drained.degree_left (w : String) :
    (release (f.targets v) degree).2 w = f.pending (done ++ [v]) w := by
  rw [release_count, h.degree_split w]
  omega

theorem Drained.mem_released (w : String) : w ∈ (release (f.targets v) degree).1 ↔
    w ∈ f.targets v ∧ f.pending (done ++ [v]) w = 0 := by
  rw [mem_release h.covers w, h.degree_split w]
  simp

/-- A node released now still had a link to lose, so it was neither taken nor queued. -/
theorem Drained.released_new (proper : f.Proper) {w : String}
    (hw : w ∈ (release (f.targets v) degree).1) : w ∉ done ++ v :: queue := by
  obtain ⟨ht, -⟩ := (h.mem_released w).mp hw
  have := List.count_pos_iff.mpr ht
  rw [h.ready w (proper.target (mem_targets.mp ht)), h.degree_split w]
  omega

theorem Drained.ready_take {w : String} (hw : w ∈ f.keys) :
    w ∈ (done ++ v :: queue) ++ (release (f.targets v) degree).1 ↔
      (release (f.targets v) degree).2 w = 0 := by
  rw [List.mem_append, h.ready w hw, h.mem_released w, h.degree_left w, h.degree_split w]
  constructor
  · rintro (hz | ⟨-, hz⟩) <;> omega
  · intro hz
    rw [hz, Nat.zero_add]
    by_cases ht : w ∈ f.targets v
    · exact Or.inr ⟨ht, rfl⟩
    · exact Or.inl (List.count_eq_zero.mpr ht)

/-- One node is taken off the queue. -/
theorem Drained.take (proper : f.Proper) :
    Drained f (done ++ [v]) (queue ++ (release (f.targets v) degree).1)
      (release (f.targets v) degree).2 := by
  have split : (done ++ [v]) ++ (queue ++ (release (f.targets v) degree).1)
      = (done ++ v :: queue) ++ (release (f.targets v) degree).1 := by simp
  refine ⟨?_, ?_, h.degree_left, fun w hw => split ▸ h.ready_take hw, ?_⟩
  · rw [split]
    refine List.nodup_append.mpr ⟨h.nodup, nodup_release h.covers, ?_⟩
    rintro a ha b hb rfl
    exact h.released_new proper hb ha
  · rw [split]
    intro w hw
    rcases List.mem_append.mp hw with ho | hr
    · exact h.keys w ho
    · exact proper.target (mem_targets.mp ((h.mem_released w).mp hr).1)
  · intro u w hl hw
    rcases List.mem_append.mp hw with hd | hl'
    · exact (h.sorted u w hl hd).append [v]
    · obtain rfl := List.mem_singleton.mp hl'
      have hz : degree w = 0 := (h.ready w (h.keys w (by simp))).mp (by simp)
      rw [h.counted w] at hz
      exact before_of_new (pending_zero.mp hz u hl) h.head_new hl'

end Taking

theorem Drained.length_le {f : Flow} {done queue : List String} {degree : String → Nat}
    (h : Drained f done queue degree) : done.length + queue.length ≤ f.keys.length := by
  rw [← List.length_append]
  exact (List.subperm_of_subset h.nodup h.keys).length_le

/-- The fuel of the drain, one unit for each node not yet taken, does not run out. What taking one
node keeps, the whole drain keeps. -/
theorem Drained.finish {f : Flow} (proper : f.Proper) {P : List String → List String → Prop}
    (keeps : ∀ {done v queue degree}, Drained f done (v :: queue) degree → P done (v :: queue) →
      P (done ++ [v]) (queue ++ (release (f.targets v) degree).1))
    (fuel : Nat) {done queue : List String} {degree : String → Nat}
    (h : Drained f done queue degree) (holds : P done queue)
    (enough : f.keys.length = done.length + fuel) :
    ∃ last, Drained f (done ++ drain f fuel queue degree) [] last ∧
      P (done ++ drain f fuel queue degree) [] := by
  induction fuel generalizing done queue degree with
  | zero =>
    have hl := h.length_le
    obtain rfl : queue = [] := List.eq_nil_of_length_eq_zero (by omega)
    exact ⟨degree, by simpa [drain] using h, by simpa [drain] using holds⟩
  | succ fuel ih =>
    cases queue with
    | nil => exact ⟨degree, by simpa [drain] using h, by simpa [drain] using holds⟩
    | cons v queue =>
      obtain ⟨last, hd, kept⟩ := ih (h.take proper) (keeps h holds) (by simp; omega)
      exact ⟨last, by simpa [drain] using hd, by simpa [drain] using kept⟩

/-- In a finite set that no cycle runs through, some element comes after no other. -/
theorem first_of_finite {α : Type} {r : α → α → Prop} {s : Set α} (hs : s.Finite)
    (he : s.Nonempty) (hn : ∀ a ∈ s, ¬ Relation.TransGen r a a) :
    ∃ m ∈ s, ∀ a ∈ s, ¬ r a m := by
  have finite : Finite s := hs
  have trans : IsTrans s fun a b => Relation.TransGen r a.1 b.1 :=
    ⟨fun _ _ _ hab hbc => hab.trans hbc⟩
  have irrefl : Std.Irrefl fun a b : s => Relation.TransGen r a.1 b.1 := ⟨fun a => hn a.1 a.2⟩
  have founded := Finite.wellFounded_of_trans_of_irrefl fun a b : s => Relation.TransGen r a.1 b.1
  obtain ⟨x, hx⟩ := he
  obtain ⟨m, -, first⟩ := founded.has_min Set.univ ⟨⟨x, hx⟩, trivial⟩
  exact ⟨m.1, m.2, fun a ha hr => first ⟨a, ha⟩ trivial (.single hr)⟩

section Order

variable {f : Flow} (h : f.Proper)
include h

/-- The order is what a drain from the start leaves, with all that taking a node keeps. -/
theorem order_keeps {P : List String → List String → Prop}
    (keeps : ∀ {done v queue degree}, Drained f done (v :: queue) degree → P done (v :: queue) →
      P (done ++ [v]) (queue ++ (release (f.targets v) degree).1))
    (initial : P [] (f.keys.filter fun v => f.inDegree v == 0)) :
    ∃ last, Drained f f.order [] last ∧ P f.order [] :=
  (Drained.initial h).finish h keeps f.keys.length initial (by simp)

theorem drained_order : ∃ last, Drained f f.order [] last := by
  obtain ⟨last, hd, -⟩ := order_keeps h (P := fun _ _ => True) (fun _ _ => trivial) trivial
  exact ⟨last, hd⟩

theorem order_nodup : f.order.Nodup := by
  obtain ⟨last, hd⟩ := drained_order h
  simpa using hd.nodup

theorem key_of_mem_order {v : String} (hv : v ∈ f.order) : v ∈ f.keys := by
  obtain ⟨last, hd⟩ := drained_order h
  exact hd.keys v (by simpa using hv)

theorem before_of_link {u v : String} (hl : f.Link u v) (hv : v ∈ f.order) :
    Before f.order u v := by
  obtain ⟨last, hd⟩ := drained_order h
  exact hd.sorted u v hl hv

/-- A node all of whose predecessors are in the order is in it too. -/
theorem mem_order_of_sources {v : String} (hk : v ∈ f.keys)
    (hs : ∀ u, f.Link u v → u ∈ f.order) : v ∈ f.order := by
  obtain ⟨last, hd⟩ := drained_order h
  have hz : last v = 0 := by rw [hd.counted v, pending_zero]; exact hs
  simpa using (hd.ready v hk).mpr hz

theorem before_of_path {u v : String} (hp : Relation.TransGen f.Link u v) (hv : v ∈ f.order) :
    Before f.order u v := by
  induction hp using Relation.TransGen.head_induction_on with
  | single hl => exact before_of_link h hl hv
  | head hl _ ih => exact (before_of_link h hl ih.mem).trans ih

/-- A node is left out only for a cycle that it lies on or behind. -/
theorem cycle_of_not_mem_order {v : String} (hk : v ∈ f.keys) (hv : v ∉ f.order) :
    ∃ c, Relation.TransGen f.Link c c ∧ Relation.ReflTransGen f.Link c v := by
  by_contra hn
  push Not at hn
  -- were there no such cycle, one of the nodes left out that lead to this one would come first
  let missing := {u | u ∈ f.keys ∧ u ∉ f.order ∧ Relation.ReflTransGen f.Link u v}
  have finite : missing.Finite :=
    f.keys.toFinset.finite_toSet.subset fun u hu => by simpa using hu.1
  obtain ⟨m, ⟨hm, hout, hreach⟩, first⟩ :=
    first_of_finite finite ⟨v, hk, hv, .refl⟩ fun u hu hc => hn u hc hu.2.2
  refine hout (mem_order_of_sources h hm fun u hl => ?_)
  by_contra hu
  exact first u ⟨h.source hl, hu, .head hl hreach⟩ hl

theorem mem_order_of_acyclic (acyclic : ∀ v, ¬ Relation.TransGen f.Link v v) {v : String}
    (hk : v ∈ f.keys) : v ∈ f.order := by
  by_contra hv
  obtain ⟨c, hc, -⟩ := cycle_of_not_mem_order h hk hv
  exact acyclic c hc

/-- The order holds all nodes exactly when no node leads back to itself. -/
theorem complete_iff_acyclic :
    f.keys.length ≤ f.order.length ↔ ∀ v, ¬ Relation.TransGen f.Link v v := by
  have subset : f.order ⊆ f.keys := fun v hv => key_of_mem_order h hv
  constructor
  · intro hl v hc
    have perm := (List.subperm_of_subset (order_nodup h) subset).perm_of_length_le hl
    obtain ⟨u, -, hu⟩ := Relation.TransGen.tail'_iff.mp hc
    exact (before_of_path h hc (perm.mem_iff.mpr (h.target hu))).irrefl
  · intro hn
    exact (List.subperm_of_subset h.nodup fun v hv => mem_order_of_acyclic h hn hv).length_le

end Order

end Questionnaire.Flow
