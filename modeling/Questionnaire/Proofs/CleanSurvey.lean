import Questionnaire.Check.Validate
import Questionnaire.Proofs.Reached

namespace Questionnaire
open Relation

namespace Problem

theorem isValid_iff {ps : List Problem} : isValid ps = true ↔ ∀ p ∈ ps, p.isError = false := by
  simp [isValid]

theorem isValid_append {ps qs : List Problem} :
    isValid (ps ++ qs) = true ↔ isValid ps = true ∧ isValid qs = true := by
  simp only [isValid_iff, List.mem_append]
  constructor
  · intro h
    exact ⟨fun p hp => h p (Or.inl hp), fun p hp => h p (Or.inr hp)⟩
  · rintro ⟨hl, hr⟩ p (hp | hp)
    · exact hl p hp
    · exact hr p hp

theorem isValid_flatMap {α : Type} {xs : List α} {f : α → List Problem} :
    isValid (xs.flatMap f) = true ↔ ∀ x ∈ xs, isValid (f x) = true := by
  simp only [isValid_iff, List.mem_flatMap]
  constructor
  · intro h x hx p hp
    exact h p ⟨x, hx, hp⟩
  · rintro h p ⟨x, hx, hp⟩
    exact h x hx p hp

/-- Errors of one kind are absent exactly when nothing gives rise to them. -/
theorem isValid_map {α : Type} {xs : List α} {f : α → Problem} (h : ∀ x, (f x).isError = true) :
    isValid (xs.map f) = true ↔ xs = [] := by
  cases xs with
  | nil => simp [isValid]
  | cons x xs => simp [isValid, h x]

/-- Warnings say nothing about the verdict. -/
theorem isValid_warnings {α : Type} {xs : List α} {f : α → Problem}
    (h : ∀ x, (f x).isError = false) : isValid (xs.map f) = true := by
  simp [isValid, h]

end Problem

open Problem

/-- Without repeated ids the checks look at every view. -/
theorem repeatedIds_nil {seen : List String} {vs : List View} :
    repeatedIds seen vs = [] ↔ (vs.map View.id).Nodup ∧ ∀ v ∈ vs, v.id ∉ seen := by
  induction vs generalizing seen with
  | nil => simp [repeatedIds]
  | cons v vs ih =>
    rw [repeatedIds]
    split
    · rename_i hv
      simp only [reduceCtorEq, false_iff, not_and]
      intro _ h
      exact h v List.mem_cons_self (List.contains_iff_mem.mp hv)
    · rename_i hv
      have hv : v.id ∉ seen := fun h => hv (List.contains_iff_mem.mpr h)
      rw [ih, List.map_cons, List.nodup_cons]
      simp only [List.mem_cons, not_or, List.mem_map, not_exists, not_and, forall_eq_or_imp]
      constructor
      · rintro ⟨hn, hs⟩
        exact ⟨⟨fun w hw he => (hs w hw).1 he, hn⟩, hv, fun w hw => (hs w hw).2⟩
      · rintro ⟨⟨hd, hn⟩, -, hs⟩
        exact ⟨hn, fun w hw => ⟨hd w hw, hs w hw⟩⟩

theorem firstViews_eq {seen : List String} {vs : List View} (h : repeatedIds seen vs = []) :
    firstViews seen vs = vs := by
  induction vs generalizing seen with
  | nil => rfl
  | cons v vs ih =>
    rw [repeatedIds] at h
    rw [firstViews]
    split at h
    · cases h
    · rename_i hv
      rw [if_neg hv, ih h]

namespace Survey

theorem has_iff {s : Survey} {id : String} : s.has id = true ↔ id ∈ s.views.map View.id := by
  simp [has]

/-- An edge between two nodes is a link, and nothing else is. -/
theorem link_iff {s : Survey} {u v : String} : s.flow.Link u v ↔
    ∃ e ∈ s.edges, (s.has e.source = true ∧ s.has e.target = true) ∧
      e.source = u ∧ e.target = v := by
  simp only [Flow.Link, flow, links, List.mem_map, List.mem_filter, Bool.and_eq_true,
    Prod.mk.injEq]
  constructor
  · rintro ⟨e, ⟨he, hj⟩, hu, hv⟩
    exact ⟨e, he, hj, hu, hv⟩
  · rintro ⟨e, he, hj, hu, hv⟩
    exact ⟨e, ⟨he, hj⟩, hu, hv⟩

theorem flow_proper {s : Survey} (h : (s.views.map View.id).Nodup) : s.flow.Proper where
  nodup := h
  source hl := by
    obtain ⟨e, -, hj, rfl, -⟩ := link_iff.mp hl
    exact has_iff.mp hj.1
  target hl := by
    obtain ⟨e, -, hj, -, rfl⟩ := link_iff.mp hl
    exact has_iff.mp hj.2

theorem kindProblems_valid {s : Survey} : isValid s.kindProblems = true ↔
    (∃ v, s.ofKind .start = [v]) ∧ ∃ v, v ∈ s.ofKind .ending := by
  rw [kindProblems, isValid_append]
  refine and_congr ?_ ?_
  · split
    · rename_i h
      simp [h, isValid_iff, isError, severity]
    · rename_i v h
      simp [h, isValid_iff]
    · rename_i h1 h2
      simp only [isValid_iff, List.mem_singleton, forall_eq, isError, severity]
      simp only [beq_self_eq_true, Bool.true_eq_false, false_iff, not_exists]
      exact h2
  · cases h : s.ofKind .ending with
    | nil => simp [isValid_iff, isError, severity]
    | cons v vs =>
      simp only [List.isEmpty_cons, Bool.false_eq_true, ↓reduceIte]
      exact ⟨fun _ => ⟨v, List.mem_cons_self⟩, fun _ => rfl⟩

theorem edgeProblems_valid {s : Survey} : isValid s.edgeProblems = true ↔
    ∀ e ∈ s.edges, s.has e.source = true ∧ s.has e.target = true := by
  simp only [isValid_iff, edgeProblems, List.mem_filterMap]
  constructor
  · intro h e he
    by_cases hs : s.has e.source = true
    · by_cases ht : s.has e.target = true
      · exact ⟨hs, ht⟩
      · have := h (.unknownTarget e) ⟨e, he, by simp [hs, ht]⟩
        simp [isError, severity] at this
    · have := h (.unknownSource e) ⟨e, he, by simp [hs]⟩
      simp [isError, severity] at this
  · rintro h p ⟨e, he, hp⟩
    simp [(h e he).1, (h e he).2] at hp

theorem cycleProblems_cases (s : Survey) : s.cycleProblems = [] ∨ s.cycleProblems = [.cycle] := by
  rw [cycleProblems]
  split
  · exact Or.inr rfl
  · exact Or.inl rfl

theorem cycleProblems_nil {s : Survey} (h : (s.views.map View.id).Nodup) :
    s.cycleProblems = [] ↔ ∀ v, ¬ TransGen s.flow.Link v v := by
  have keys : s.flow.keys.length = s.views.length := by simp [flow]
  rw [← Flow.complete_iff_acyclic (flow_proper h), cycleProblems, keys]
  simp

theorem cycleProblems_valid {s : Survey} (h : (s.views.map View.id).Nodup) :
    isValid s.cycleProblems = true ↔ ∀ v, ¬ TransGen s.flow.Link v v := by
  rw [← cycleProblems_nil h]
  rcases s.cycleProblems_cases with none | one
  · simp [none, isValid_iff]
  · simp [one, isValid_iff, isError, severity]

theorem reachProblems_valid {s : Survey} {start : View} (h : s.ofKind .start = [start]) :
    isValid s.reachProblems = true ↔ ∀ v ∈ s.views, ReflTransGen s.flow.Link start.id v.id := by
  rw [reachProblems, h]
  simp only
  rw [isValid_map fun v => rfl, List.filter_eq_nil_iff]
  refine forall₂_congr fun v _ => ?_
  simp [Flow.mem_reached]

theorem deadEndProblems_valid {s : Survey} : isValid s.deadEndProblems = true ↔
    ∀ v ∈ s.views, ∃ w ∈ s.ofKind .ending, ReflTransGen s.flow.Link v.id w.id := by
  rw [deadEndProblems, isValid_map fun v => rfl, List.filter_eq_nil_iff]
  refine forall₂_congr fun v _ => ?_
  simp [Flow.mem_reached_reversed]

theorem idxOf?_of_mem {order : List String} {v : String} (h : v ∈ order) :
    order.idxOf? v = some (order.idxOf v) := by
  obtain ⟨i, hi⟩ := Option.isSome_iff_exists.mp (List.isSome_idxOf?.mpr h)
  rw [List.idxOf_eq_getD_idxOf?, hi, Option.getD_some]

/-- Not late are the fields in front of the node. -/
theorem mem_lateFields {order : List String} {id field : String} {c : Group} :
    field ∈ lateFields order id (some c) ↔ field ∈ c.fields ∧ ¬ Flow.Before order field id := by
  simp only [lateFields, Option.map_some, Option.getD_some, List.mem_filter]
  refine and_congr_right fun _ => ?_
  by_cases hi : id ∈ order
  · by_cases hf : field ∈ order
    · simp [idxOf?_of_mem hf, idxOf?_of_mem hi, Flow.Before, hi]
    · have hn : ¬ Flow.Before order field id := fun h => hf h.mem
      simp [List.idxOf?_eq_none_iff.mpr hf, hn]
  · have hn : ¬ Flow.Before order field id := fun h => hi h.1
    simp [List.idxOf?_eq_none_iff.mpr hi, hn]

theorem lateFields_nil {order : List String} {id : String} {condition : Option Group} :
    lateFields order id condition = [] ↔
      ∀ c, condition = some c → ∀ field ∈ c.fields, Flow.Before order field id := by
  cases condition with
  | none => simp [lateFields]
  | some c => simp [List.eq_nil_iff_forall_not_mem, mem_lateFields]

theorem endProblems_valid {n : Node} {edges : List Edge} :
    isValid (endProblems (View.ofNode n) edges) = true ↔ Text.allBlank (redirect n) = false := by
  rw [endProblems, isValid_append]
  have outgoing : isValid (if edges.isEmpty then []
      else [.endWithOutgoing (View.ofNode n).subject]) = true := by
    split <;> simp [isValid_iff, isError, severity]
  rw [outgoing, eq_self_iff_true, and_true]
  simp only [View.ofNode]
  split
  · rename_i h
    simp [isValid_iff, isError, severity, h]
  · rename_i h
    simpa [isValid_iff] using h

theorem conditionProblems_valid {n : Node} :
    isValid (conditionProblems (View.ofNode n)) = true ↔
      ∃ c, n.data.condition = some c ∧ ∀ g ∈ c.groups, g.items ≠ [] := by
  simp only [conditionProblems, View.ofNode]
  cases hc : n.data.condition with
  | none => simp [isValid_iff, isError, severity]
  | some c =>
    by_cases he : c.isEmpty = true
    · have hn : c.items = [] := List.isEmpty_iff.mp he
      have hf : (some c).filter (fun c => !c.isEmpty) = none := by simp [he]
      rw [hf]
      simp [isValid_iff, isError, severity, Group.groups, hn]
    · simp only [Option.filter_some, he, Bool.not_false, ↓reduceIte, Option.some.injEq,
        exists_eq_left']
      rw [isValid_map fun _ => rfl, List.filter_eq_nil_iff]
      simp [Group.isEmpty]

/-- Two handles, each on one edge. -/
def Forked (edges : List Edge) : Prop :=
  ∃ t f, edges.Perm [t, f] ∧ t.sourceHandle = some "true" ∧ f.sourceHandle = some "false"

theorem countHandle_perm {edges : List Edge} {t f : Edge} (h : edges.Perm [t, f])
    (ht : t.sourceHandle = some "true") (hf : f.sourceHandle = some "false") :
    countHandle edges "true" = 1 ∧ countHandle edges "false" = 1 := by
  simp [countHandle, h.countP_eq, ht, hf]

/-- Each of the two is the only edge with its handle. -/
theorem filter_forked {edges : List Edge} {t f : Edge} (h : edges.Perm [t, f])
    (ht : t.sourceHandle = some "true") (hf : f.sourceHandle = some "false") :
    edges.filter (·.sourceHandle == some "true") = [t] ∧
      edges.filter (·.sourceHandle == some "false") = [f] := by
  constructor <;> refine List.perm_singleton.mp ((h.filter _).trans ?_)
  · simp [ht, hf]
  · simp [ht, hf]

theorem forked_of_counts {edges : List Edge}
    (known : ∀ e ∈ edges, e.sourceHandle = some "false" ∨ e.sourceHandle = some "true")
    (ht : countHandle edges "true" = 1) (hf : countHandle edges "false" = 1) : Forked edges := by
  have others : edges.countP (fun e => ¬ (e.sourceHandle == some "true") = true)
      = countHandle edges "false" := by
    refine List.countP_congr fun e he => ?_
    rcases known e he with h | h <;> simp [h]
  have two : edges.length = 2 := by
    rw [List.length_eq_countP_add_countP (fun e => e.sourceHandle == some "true"), others, hf]
    exact congrArg (· + 1) ht
  obtain ⟨a, b, rfl⟩ := List.length_eq_two.mp two
  rcases known a (by simp) with ha | ha <;> rcases known b (by simp) with hb | hb
  · simp [countHandle, ha, hb] at ht
  · exact ⟨b, a, .swap b a [], hb, ha⟩
  · exact ⟨a, b, .refl _, ha, hb⟩
  · simp [countHandle, ha, hb] at hf

theorem handleProblems_valid {v : View} {edges : List Edge} :
    isValid (handleProblems v edges) = true ↔ Forked edges := by
  rw [handleProblems, isValid_append, isValid_append, isValid_map fun _ => rfl,
    isValid_map fun _ => rfl, List.filter_eq_nil_iff, List.filter_eq_nil_iff]
  constructor
  · rintro ⟨⟨known, single⟩, missing⟩
    have ht := single "true" (by simp [handles])
    have hf := single "false" (by simp [handles])
    have both : 0 < countHandle edges "false" ∧ 0 < countHandle edges "true" := by
      by_contra hn
      rw [if_neg (by simpa [handles] using hn)] at missing
      simp [isValid_iff, isError, severity] at missing
    refine forked_of_counts ?_ (by simp at ht; omega) (by simp at hf; omega)
    intro e he
    have := known e he
    by_cases hf : e.sourceHandle = some "false"
    · exact Or.inl hf
    · exact Or.inr (by simpa [handles, hf] using this)
  · rintro ⟨t, f, perm, ht, hf⟩
    have counts := countHandle_perm perm ht hf
    refine ⟨⟨?_, by simp [handles, counts]⟩, by simp [handles, counts, isValid_iff]⟩
    intro e he
    rcases List.mem_cons.mp (perm.mem_iff.mp he) with rfl | he
    · simp [handles, ht]
    · obtain rfl := List.mem_singleton.mp he
      simp [handles, hf]

end Survey
end Questionnaire
