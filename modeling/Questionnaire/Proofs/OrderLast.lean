import Mathlib.Data.List.Perm.Basic
import Questionnaire.Proofs.OrderDepth

namespace Questionnaire.Flow

theorem Deep.of_le {f : Flow} {m n : Nat} {v : String} (h : f.Deep n v) (le : m ≤ n) :
    f.Deep m v := by
  induction le with
  | refl => exact h
  | step _ ih => exact ih h.of_succ

/-- Nodes along one of the longest ways to a node. -/
structure Trail (f : Flow) (late : List String) : Prop where
  single : ∀ c ∈ late, ∀ d ∈ late, f.Level c d → c = d
  led : ∀ c ∈ late, (∀ u, ¬ f.Link u c) ∨
    ∃ b ∈ late, f.Link b c ∧ ∀ n, f.Deep (n + 1) c → f.Deep n b

/-- What has one of these keys stands behind all that has none. -/
def Trailing {α : Type} (key : α → String) (late : List String) (xs : List α) : Prop :=
  xs.Pairwise fun x y => key x ∈ late → key y ∈ late

/-- The same list, with what has one of these keys put last. -/
def putLast {α : Type} (key : α → String) (late : List String) (xs : List α) : List α :=
  xs.filter (fun x => !late.contains (key x)) ++ xs.filter fun x => late.contains (key x)

theorem putLast_perm {α : Type} (key : α → String) (late : List String) (xs : List α) :
    (putLast key late xs).Perm xs :=
  List.perm_append_comm.trans (List.filter_append_perm _ xs)

theorem putLast_trailing {α : Type} (key : α → String) (late : List String) (xs : List α) :
    Trailing key late (putLast key late xs) := by
  refine List.pairwise_append.mpr ⟨?_, ?_, fun x hx y hy _ => ?_⟩
  · refine List.pairwise_of_forall_mem_list fun x hx _ _ hl => ?_
    exact absurd hl (by simpa using (List.mem_filter.mp hx).2)
  · refine List.pairwise_of_forall_mem_list fun _ _ y hy _ => ?_
    simpa using (List.mem_filter.mp hy).2
  · simpa using (List.mem_filter.mp hy).2

theorem Trailing.before {late xs : List String} (h : Trailing id late xs) {u v : String}
    (hu : u ∈ xs) (hv : v ∈ xs) (early : u ∉ late) (last : v ∈ late) : Before xs u v := by
  refine ⟨hv, ?_⟩
  by_contra later
  rcases Nat.lt_or_eq_of_le (Nat.le_of_not_lt later) with less | same
  · have hu := List.idxOf_lt_length_iff.mpr hu
    have hv := List.idxOf_lt_length_iff.mpr hv
    have kept := List.pairwise_iff_getElem.mp h _ _ hv hu less
    rw [List.getElem_idxOf hv, List.getElem_idxOf hu] at kept
    exact early (kept last)
  · exact early ((List.idxOf_inj hv).mp same ▸ last)

/-- What comes before the first of the rest comes among the first ones. -/
theorem Before.mem_left {l r : List String} {u v : String} (h : Before (l ++ r) u v)
    (hv : (l ++ r).idxOf v ≤ l.length) : u ∈ l := by
  by_contra hu
  have := h.2
  rw [List.idxOf_append_of_notMem hu] at this
  omega

theorem Before.prepend {l r : List String} {u v : String} (h : Before r u v) (hu : u ∉ l)
    (hv : v ∉ l) : Before (l ++ r) u v := by
  refine ⟨List.mem_append_right _ h.1, ?_⟩
  rw [List.idxOf_append_of_notMem hu, List.idxOf_append_of_notMem hv]
  exact Nat.add_lt_add_left h.2 _

theorem release_sublist (ts : List String) (degree : String → Nat) :
    (release ts degree).1.Sublist ts := by
  induction ts generalizing degree with
  | nil => exact .refl []
  | cons t ts ih =>
    simp only [release, ↓reduceIte]
    split
    · exact (ih _).cons_cons t
    · exact (ih _).cons t

/-- What comes late comes after all that is as deep. -/
def Lagging (f : Flow) (late done queue : List String) : Prop :=
  ∀ c ∈ late, c ∈ done ++ queue → ∀ w ∈ f.keys, f.Level w c → w ≠ c → Before (done ++ queue) w c

section Taking

variable {f : Flow} {late done queue : List String} {v : String} {degree : String → Nat}
  (h : Drained f done (v :: queue) degree) (t : Tiered f done (v :: queue))
include h t

/-- What is less deep than the node taken now was taken before. -/
theorem Tiered.done_of_shallow {n : Nat} (hv : f.Deep n v) {x : String} (hx : x ∈ f.keys)
    (proper : f.Proper) (shallow : ¬ f.Deep n x) : x ∈ done := by
  induction n generalizing x with
  | zero => exact absurd .here shallow
  | succ n ih =>
    have sources : ∀ y, f.Link y x → y ∈ done := fun y hl =>
      ih hv.of_succ (proper.source hl) fun hy => shallow (.link hy hl)
    have listed : x ∈ done ++ v :: queue := by
      rw [h.ready x hx, h.counted x, pending_zero]
      exact sources
    rcases List.mem_append.mp listed with hd | hq
    · exact hd
    · rcases List.mem_cons.mp hq with rfl | hq
      · exact absurd hv shallow
      · have sorted := (List.pairwise_append.mp t.sorted).2.1
        exact absurd ((List.pairwise_cons.mp sorted).1 x hq _ hv) shallow

variable (trail : f.Trail late) (lags : Lagging f late done (v :: queue))
include trail lags

/-- Only a late node before it releases a late node. -/
theorem Lagging.head_late {c : String} (hc : c ∈ late)
    (released : c ∈ (release (f.targets v) degree).1) : v ∈ late := by
  obtain ⟨target, settled⟩ := (h.mem_released c).mp released
  rcases trail.led c hc with first | ⟨b, hb, hl, less⟩
  · exact absurd (mem_targets.mp target) (first v)
  · rcases List.mem_append.mp (pending_zero.mp settled b hl) with hd | hv
    · have level : f.Level v b := fun n =>
        ⟨fun hn => less n ((t.released h released n).mpr hn),
          fun hn => (t.released h released n).mp (.link hn hl)⟩
      have apart : v ≠ b := fun same => h.head_new (same ▸ hd)
      have before := lags b hb (List.mem_append_left _ hd) v (h.keys v (by simp)) level apart
      refine absurd (before.mem_left ?_) h.head_new
      rw [List.idxOf_append_of_mem hd]
      exact (List.idxOf_lt_length_iff.mpr hd).le
    · exact List.mem_singleton.mp hv ▸ hb

variable (proper : f.Proper)
include proper

/-- When a late node is released, all that is as deep has no pending link left either. -/
theorem Lagging.settled {c w : String} (hc : c ∈ late)
    (released : c ∈ (release (f.targets v) degree).1) (level : f.Level w c) :
    f.pending (done ++ [v]) w = 0 := by
  have head := lags.head_late h t trail hc released
  refine pending_zero.mpr fun x hl => ?_
  have shallower (n : Nat) (hn : f.Deep n x) : f.Deep n v :=
    (t.released h released n).mp ((level _).mp (.link hn hl))
  by_cases same : f.Level x v
  · by_cases hx : x = v
    · simp [hx]
    · have before := lags v head (by simp) x (proper.source hl) same hx
      refine List.mem_append_left _ (before.mem_left ?_)
      rw [List.idxOf_append_of_notMem h.head_new, List.idxOf_cons_self, Nat.add_zero]
  · rw [Level, not_forall] at same
    obtain ⟨n, hn⟩ := same
    have hv : f.Deep n v := by
      by_contra hv
      exact hn ⟨shallower n, fun hv' => absurd hv' hv⟩
    have hx : ¬ f.Deep n x := fun hx => hn ⟨fun _ => hv, fun _ => hx⟩
    exact List.mem_append_left _ (t.done_of_shallow h hv (proper.source hl) proper hx)

theorem Lagging.take (stored : Trailing Prod.snd late f.links) :
    Lagging f late (done ++ [v]) (queue ++ (release (f.targets v) degree).1) := by
  have split : (done ++ [v]) ++ (queue ++ (release (f.targets v) degree).1)
      = (done ++ v :: queue) ++ (release (f.targets v) degree).1 := by simp
  have trailing : Trailing id late (release (f.targets v) degree).1 :=
    (List.pairwise_map.mpr (stored.filter _)).sublist (release_sublist _ _)
  intro c hc hm w hw level apart
  rw [split] at hm ⊢
  by_cases old : c ∈ done ++ v :: queue
  · exact (lags c hc old w hw level apart).append _
  · have released := (List.mem_append.mp hm).resolve_left old
    have listed : w ∈ (done ++ v :: queue) ++ (release (f.targets v) degree).1 := by
      rw [h.ready_take hw, h.degree_left]
      exact lags.settled h t trail proper hc released level
    by_cases known : w ∈ done ++ v :: queue
    · exact before_of_new known old released
    · have beside := (List.mem_append.mp listed).resolve_left known
      have early : w ∉ late := fun hw' => apart (trail.single w hw' c hc level)
      exact (trailing.before beside released early hc).prepend known old

end Taking

theorem Lagging.initial {f : Flow} {late : List String} (trail : f.Trail late)
    (stored : Trailing id late f.keys) :
    Lagging f late [] (f.keys.filter fun v => f.inDegree v == 0) := by
  intro c hc hm w hw level apart
  rw [List.nil_append] at hm ⊢
  have early : w ∉ late := fun hw' => apart (trail.single w hw' c hc level)
  refine Trailing.before (stored.filter _) (List.mem_filter.mpr ⟨hw, ?_⟩) hm early hc
  have first := inDegree_zero.mp (by simpa using (List.mem_filter.mp hm).2 : f.inDegree c = 0)
  have first' : f.inDegree w = 0 := inDegree_zero.mpr fun u hl => by
    cases (level 1).mp (.link .here hl) with
    | link _ hl => exact first _ hl
  simpa using first'

/-- A trail of nodes that are stored last, also among the targets of links, comes last in the order:
each of its nodes after all others that are as deep. -/
theorem Trail.last {f : Flow} (h : f.Proper) {late : List String} (trail : f.Trail late)
    (keys : Trailing id late f.keys) (links : Trailing Prod.snd late f.links) {c w : String}
    (hc : c ∈ late) (hm : c ∈ f.order) (hw : w ∈ f.keys) (level : f.Level w c) (apart : w ≠ c) :
    Before f.order w c := by
  obtain ⟨-, -, -, lags⟩ := order_keeps h
    (P := fun done queue => Tiered f done queue ∧ Lagging f late done queue)
    (fun hd kept => ⟨kept.1.take hd, kept.2.take hd kept.1 trail h links⟩)
    ⟨.initial, .initial trail keys⟩
  simpa using lags c hc (by simpa using hm) w hw level apart

/-- No way to a node has as many links as there are places in front of it. -/
theorem Deep.le_idxOf {f : Flow} (h : f.Proper) {n : Nat} {v : String} (deep : f.Deep n v)
    (hv : v ∈ f.order) : n ≤ f.order.idxOf v := by
  induction deep with
  | here => exact Nat.zero_le _
  | link _ hl ih =>
    have before := before_of_link h hl hv
    exact Nat.lt_of_le_of_lt (ih before.mem) before.2

/-- Some longest way leads to every node of the order. -/
theorem exists_depth {f : Flow} (h : f.Proper) {v : String} (hv : v ∈ f.order) :
    ∃ n, f.Deep n v ∧ ¬ f.Deep (n + 1) v := by
  by_contra none
  push Not at none
  have deep (n : Nat) : f.Deep n v := by
    induction n with
    | zero => exact .here
    | succ n ih => exact none n ih
  have := (deep (f.order.idxOf v + 1)).le_idxOf h hv
  omega

theorem exists_trail {f : Flow} {n : Nat} {v : String} (deep : f.Deep n v)
    (most : ¬ f.Deep (n + 1) v) :
    ∃ late, v ∈ late ∧ (∀ c ∈ late, ¬ f.Deep (n + 1) c) ∧ f.Trail late := by
  induction n generalizing v with
  | zero =>
    refine ⟨[v], List.mem_singleton_self v, ?_, ?_, ?_⟩
    · simpa using most
    · simp
    · intro c hc
      obtain rfl := List.mem_singleton.mp hc
      exact Or.inl fun u hl => most (.link .here hl)
  | succ n ih =>
    obtain _ | @⟨_, u, _, way, hl⟩ := deep
    obtain ⟨late, hu, bound, trail⟩ := ih way fun hn => most (.link hn hl)
    have new {c : String} (hc : c ∈ late) : ¬ f.Level v c := fun level =>
      bound c hc ((level _).mp (.link way hl))
    refine ⟨v :: late, List.mem_cons_self, ?_, ?_, ?_⟩
    · intro c hc
      rcases List.mem_cons.mp hc with rfl | hc
      · exact most
      · exact fun deep => bound c hc deep.of_succ
    · intro c hc d hd level
      rcases List.mem_cons.mp hc with rfl | before <;> rcases List.mem_cons.mp hd with rfl | before'
      · rfl
      · exact absurd level (new before')
      · exact absurd level.symm (new before)
      · exact trail.single c before d before' level
    · intro c hc
      rcases List.mem_cons.mp hc with rfl | hc
      · refine Or.inr ⟨u, List.mem_cons_of_mem _ hu, hl, fun m hm => ?_⟩
        have : m < n + 1 := by
          by_contra more
          exact most (hm.of_le (by omega))
        exact way.of_le (by omega)
      · refine (trail.led c hc).imp_right fun led => ?_
        obtain ⟨b, hb, step⟩ := led
        exact ⟨b, List.mem_cons_of_mem _ hb, step⟩

theorem Trail.mono {f g : Flow} (same : ∀ {u v}, f.Link u v ↔ g.Link u v) {late : List String}
    (t : f.Trail late) : g.Trail late where
  single c hc d hd level := t.single c hc d hd (level.mono same.symm)
  led c hc := by
    rcases t.led c hc with first | ⟨b, hb, hl, less⟩
    · exact Or.inl fun u hl => first u (same.mpr hl)
    · exact Or.inr ⟨b, hb, same.mp hl, fun n hn => (less n (hn.mono same.mpr)).mono same.mp⟩

end Questionnaire.Flow
