import Questionnaire.Proofs.DraftReports

namespace Questionnaire
open Relation

namespace Group

/-- All that the rules name, depth first and as often as they name it. -/
def named (g : Group) : List String := g.rules.flatMap Rule.fields

theorem unseen_order (seen xs : List String) :
    (unseen seen xs).Pairwise fun a b => xs.idxOf a < xs.idxOf b := by
  induction xs generalizing seen with
  | nil => simp [unseen]
  | cons x xs ih =>
    have shifted {seen : List String} (known : x ∈ seen) {a : String} (ha : a ∈ unseen seen xs) :
        (x :: xs).idxOf a = xs.idxOf a + 1 := by
      apply List.idxOf_cons_ne
      rintro rfl
      exact (mem_unseen.mp ha).2 known
    have rest {seen : List String} (known : x ∈ seen) :
        (unseen seen xs).Pairwise fun a b => (x :: xs).idxOf a < (x :: xs).idxOf b := by
      apply (ih seen).imp_of_mem
      intro a b ha hb before
      rw [shifted known ha, shifted known hb]
      omega
    rw [unseen]
    split
    · rename_i known
      exact rest (List.contains_iff_mem.mp known)
    · apply List.pairwise_cons.mpr
      refine ⟨?_, rest List.mem_cons_self⟩
      intro b hb
      rw [List.idxOf_cons_self, shifted List.mem_cons_self hb]
      omega

/-- The fields come in the order in which they are first named. -/
theorem fields_order (g : Group) :
    g.fields.Pairwise fun a b => g.named.idxOf a < g.named.idxOf b := unseen_order [] g.named

end Group

namespace Survey

variable {v : View}

theorem isKind_branch (branch : v.isKind .branch = true) : v.isKind .ending = false := by
  simp only [View.isKind, beq_iff_eq] at branch
  simp [View.isKind, branch, NodeKind.tag]

/-- What is found wrong with a branch. What stands between and after the problems with its condition
and the fields that it depends on too early has other codes. -/
theorem nodeProblems_branch (s : Survey) (order : List String) (branch : v.isKind .branch = true) :
    ∃ between after, s.nodeProblems order v = conditionProblems v ++ between
        ++ (lateFields order v.id v.condition?).map (.lateField v.subject) ++ after ∧
      ∀ p ∈ between ++ after, p.code ∉
        ["BRANCH_MISSING_CONDITION", "EMPTY_CONDITION_GROUP", "CAUSAL_ORDER_VIOLATION"] := by
  have between : ∀ p ∈ handleProblems v (s.outgoing v.id), p.code ∉
      ["BRANCH_MISSING_CONDITION", "EMPTY_CONDITION_GROUP", "CAUSAL_ORDER_VIOLATION"] := by
    intro p hp
    rcases of_handleProblems hp with ⟨e, rfl⟩ | ⟨handle, count, rfl⟩ | rfl <;>
      simp [Problem.code]
  cases node : v.node with
  | none =>
    refine ⟨handleProblems v (s.outgoing v.id), [], ?_, by simpa using between⟩
    rw [nodeProblems, isKind_branch branch, branch, node]
    rfl
  | some n =>
    refine ⟨handleProblems v (s.outgoing v.id), skipProblems order v n ++ operatorProblems v n, ?_,
      List.forall_mem_append.mpr ⟨between, ?_⟩⟩
    · rw [nodeProblems, isKind_branch branch, branch, node]
      rfl
    · intro p hp
      rcases List.mem_append.mp hp with hp | hp
      · obtain ⟨field, rfl⟩ := of_skipProblems hp
        simp [Problem.code]
      · obtain ⟨operator, rfl⟩ := of_operatorProblems hp
        simp [Problem.code]

end Survey

namespace Draft

variable {d : Draft} {v : View}

/-- The problems with this code that are about this node. -/
def told (d : Draft) (code id : String) : List Problem :=
  d.validate.filter fun p => p.code == code && p.nodeId? == some id

/-- Only the check of a node itself tells of it, once for each id. -/
theorem told_eq (given : d.Given) {code : String}
    (own : ∀ p : Problem, p.code = code → p.check = .nodes) (first : d.First v) :
    d.told code v.id
      = (d.survey.nodeProblems d.survey.flow.order v).filter (·.code == code) := by
  obtain ⟨l, r, split⟩ := List.append_of_mem (mem_survey.mpr first)
  have distinct := survey_distinct (d := d)
  rw [split, List.map_append, List.map_cons, List.nodup_middle, List.nodup_cons] at distinct
  have others : ∀ w ∈ l ++ r, (d.survey.nodeProblems d.survey.flow.order w).filter
      (fun p => p.code == code && p.nodeId? == some v.id) = [] := by
    intro w hw
    apply List.filter_eq_nil_iff.mpr
    intro p hp
    have other : w.id ≠ v.id := by
      intro same
      apply distinct.1
      rw [← same, ← List.map_append]
      exact List.mem_map_of_mem hw
    simp [Survey.nodeProblems_nodeId hp, other]
  simp only [List.forall_mem_append] at others
  rw [told, filter_validate given (c := .nodes) (by simp), Survey.found, split,
    List.filter_flatMap, List.flatMap_append, List.flatMap_cons,
    List.flatMap_eq_nil_iff.mpr others.1, List.flatMap_eq_nil_iff.mpr others.2, List.nil_append,
    List.append_nil]
  · apply List.filter_congr
    intro p hp
    simp [Survey.nodeProblems_nodeId hp]
  · intro p hp
    apply own
    simp only [Bool.and_eq_true, beq_iff_eq] at hp
    exact hp.1

/-- What is told of a branch with a code that only its condition can lead to. -/
theorem told_routing (given : d.Given) (first : d.First v) (branch : v.isKind .branch = true)
    {code : String} (own : code ∈
      ["BRANCH_MISSING_CONDITION", "EMPTY_CONDITION_GROUP", "CAUSAL_ORDER_VIOLATION"]) :
    d.told code v.id = (Survey.conditionProblems v).filter (·.code == code)
      ++ ((Survey.lateFields d.survey.flow.order v.id v.condition?).map
        (.lateField v.subject)).filter (·.code == code) := by
  rw [told_eq given ?check first]
  case check =>
    rintro p rfl
    cases p <;> simp [Problem.code, Problem.check] at own ⊢
  obtain ⟨between, after, split, other⟩ := d.survey.nodeProblems_branch d.survey.flow.order branch
  have none {ps : List Problem} (h : ∀ p ∈ ps, p.code ∉
      ["BRANCH_MISSING_CONDITION", "EMPTY_CONDITION_GROUP", "CAUSAL_ORDER_VIOLATION"]) :
      ps.filter (·.code == code) = [] := by
    apply List.filter_eq_nil_iff.mpr
    intro p hp same
    exact h p hp (beq_iff_eq.mp same ▸ own)
  simp only [List.forall_mem_append] at other
  simp only [split, List.filter_append, none other.1, none other.2, List.append_nil]

theorem told_branch (given : d.Given) (first : d.First v) (branch : v.isKind .branch = true) :
    d.told "CAUSAL_ORDER_VIOLATION" v.id
      = (Survey.lateFields d.survey.flow.order v.id v.condition?).map (.lateField v.subject) := by
  have other : (Survey.conditionProblems v).filter (·.code == "CAUSAL_ORDER_VIOLATION") = [] := by
    apply List.filter_eq_nil_iff.mpr
    intro p hp
    rcases Survey.of_conditionProblems hp with rfl | rfl <;> simp [Problem.code]
  rw [told_routing given first branch (by simp), other, List.nil_append]
  apply List.filter_eq_self.mpr
  intro p hp
  obtain ⟨field, -, rfl⟩ := List.mem_map.mp hp
  rfl

/-- Where the edges keep a field from coming before a node, the order does not put it there. -/
theorem not_before_of_forced {field id : String} (forced : field ∉ d.ids ∨ field = id ∨
      ReflTransGen d.Joins id field ∨ Looped d.Joins id) :
    ¬ Flow.Before d.survey.flow.order field id := by
  intro before
  rcases forced with unknown | rfl | path | looped
  · apply unknown
    exact ids_survey.mp (Flow.key_of_mem_order survey_proper before.mem)
  · exact before.irrefl
  · rw [← link_survey] at path
    rcases reflTransGen_iff_eq_or_transGen.mp path with rfl | path
    · exact before.irrefl
    · exact (before.trans (Flow.before_of_path survey_proper path before.mem)).irrefl
  · rw [← link_survey] at looped
    exact ((Flow.mem_order_iff survey_proper).mp before.1).2 looped

theorem before_of_joined {field id : String} (known : id ∈ d.ids) (free : ¬ Looped d.Joins id)
    (path : TransGen d.Joins field id) : Flow.Before d.survey.flow.order field id := by
  rw [← link_survey] at free path
  apply Flow.before_of_path survey_proper path
  exact (Flow.mem_order_iff survey_proper).mpr ⟨ids_survey.mpr known, free⟩

end Draft

/-- Of the fields that the condition of a branch names, these are told to come too late, once each:
every one that is no node, that is the branch itself or that comes after it, and all of them if the
branch is on a cycle or behind one. None is told that leads to a branch that is on no cycle and
behind none. The fields are told in the order in which the condition first names them. Of nodes with
one id this is about the first. -/
theorem causal_reports_exact (d : Draft) (given : d.Given) (v : View) (first : d.First v)
    (branch : v.isKind .branch = true) (c : Group) (parsed : v.condition? = some c) :
    ∃ late : List String,
      d.told "CAUSAL_ORDER_VIOLATION" v.id = late.map (.lateField v.subject) ∧
      late ⊆ c.fields ∧ (late.Pairwise fun f g => c.named.idxOf f < c.named.idxOf g) ∧
      ∀ f ∈ c.fields,
        (f ∉ d.ids ∨ f = v.id ∨ ReflTransGen d.Joins v.id f ∨ Looped d.Joins v.id →
          late.count f = 1) ∧
        (¬ Looped d.Joins v.id → TransGen d.Joins f v.id → late.count f = 0) := by
  have told := Draft.told_branch given first branch
  rw [parsed] at told
  have sub : (Survey.lateFields d.survey.flow.order v.id (some c)).Sublist c.fields :=
    List.filter_sublist
  refine ⟨_, told, sub.subset, c.fields_order.sublist sub, ?_⟩
  intro f hf
  constructor
  · intro forced
    apply List.count_eq_one_of_mem (sub.nodup (Group.nodup_unseen [] _))
    exact Survey.mem_lateFields.mpr ⟨hf, Draft.not_before_of_forced forced⟩
  · intro free path
    have known : v.id ∈ d.ids := List.mem_map_of_mem (List.mem_of_find?_eq_some first)
    apply List.count_eq_zero.mpr
    intro late
    exact (Survey.mem_lateFields.mp late).2 (Draft.before_of_joined known free path)

/-- On the start before the branch, on the branch, on the end after it and on no node. -/
def forkCondition : Group :=
  let rule (field : String) : Item := .rule ⟨none, field, none, "is_set", .null, .static⟩
  ⟨none, .and, [rule "end", .group none .and [rule "fork", rule "start"], rule "gone", rule "end"]⟩

theorem forkCondition_fields : forkCondition.fields = ["end", "fork", "start", "gone"] := by
  decide +kernel

def forkView : View :=
  .ofNode ⟨"fork", ⟨.zero, .zero⟩, .branch, ⟨"", "", some forkCondition, .branch, []⟩⟩

/-- The branch as a document. -/
def forkJson : Json :=
  let rule (field : String) : Json := .obj [("field", .str field), ("operator", .str "is_set")]
  let group (children : List Json) : Json := .obj [("children", .arr children)]
  .obj [("id", .str "fork"), ("type", .str "branch"), ("data", .obj [("condition",
    group [rule "end", group [rule "fork", rule "start"], rule "gone", rule "end"])])]

def forkDraft : Draft :=
  let edge (source target : String) : Json :=
    .obj [("source", .str source), ("target", .str target)]
  .ofRaw ⟨toString, 0⟩ [.obj [("id", .str "start"), ("type", .str "start")], forkJson,
    .obj [("id", .str "end"), ("type", .str "end")]] [edge "start" "fork", edge "fork" "end"]

theorem causal_reports_exact_fork : ∃ late : List String,
    forkDraft.told "CAUSAL_ORDER_VIOLATION" "fork" = late.map (.lateField ⟨"fork", "fork"⟩) ∧
      late.count "end" = 1 ∧ late.count "fork" = 1 ∧ late.count "gone" = 1 ∧
      late.count "start" = 0 := by
  obtain ⟨late, told, -, -, exact⟩ :=
    causal_reports_exact forkDraft (.raw _ _ _) forkView rfl rfl forkCondition rfl
  have before : ("start", "fork") ∈ forkDraft.survey.links := by decide +kernel
  have after : ("fork", "end") ∈ forkDraft.survey.links := by decide +kernel
  have free : ¬ Looped forkDraft.survey.flow.Link "fork" :=
    ((Flow.mem_order_iff Draft.survey_proper).mp (by decide +kernel)).2
  rw [Draft.link_survey] at free
  refine ⟨late, told, ?_, ?_, ?_, ?_⟩
  · apply (exact "end" (by simp [forkCondition_fields])).1
    rw [← Draft.link_survey]
    exact .inr (.inr (.inl (.single after)))
  · exact (exact "fork" (by simp [forkCondition_fields])).1 (.inr (.inl rfl))
  · exact (exact "gone" (by simp [forkCondition_fields])).1 (.inl (by decide +kernel))
  · apply (exact "start" (by simp [forkCondition_fields])).2 free
    rw [← Draft.link_survey]
    exact .single before

/-- A question, and a branch that repeats its id. -/
def shadowed : Draft :=
  .ofRaw ⟨toString, 0⟩ [.obj [("id", .str "fork"), ("type", .str "textInput")], forkJson] []

/-- Of the branch that repeats an id nothing is told, though it depends on nodes that are not
there. -/
theorem causal_reports_shadowed :
    shadowed.Given ∧ forkView ∈ shadowed.views ∧ forkView.isKind .branch = true ∧
      forkView.condition? = some forkCondition ∧ "gone" ∈ forkCondition.fields ∧
      "gone" ∉ shadowed.ids ∧ shadowed.told "CAUSAL_ORDER_VIOLATION" "fork" = [] := by
  refine ⟨.raw _ _ _, ?_, rfl, rfl, by simp [forkCondition_fields], by decide +kernel,
    by decide +kernel⟩
  have views : ∃ w, shadowed.views = [w, forkView] := ⟨_, rfl⟩
  obtain ⟨w, views⟩ := views
  simp [views]

end Questionnaire
