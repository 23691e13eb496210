import Questionnaire.Proofs.DraftReports

namespace Questionnaire
open Relation

namespace Flow

/-- What the order of a flow is to be. -/
structure Sorts (f : Flow) (order : List String) : Prop where
  once : order.Nodup
  sorted : ∀ u v, f.Link u v → v ∈ order → Before order u v
  complete : ∀ v, v ∈ order ↔ v ∈ f.keys ∧ ¬ Looped f.Link v

theorem sorts_order {f : Flow} (h : f.Proper) : f.Sorts f.order where
  once := order_nodup h
  sorted _ _ link := before_of_link h link
  complete _ := mem_order_iff h

/-- A queue that can still be drained runs empty within the fuel, so that more makes no
difference. -/
theorem Drained.enough {f : Flow} (proper : f.Proper) (more fuel : Nat)
    {done queue : List String} {degree : String → Nat} (h : Drained f done queue degree)
    (covers : f.keys.length ≤ done.length + fuel) :
    drain f (fuel + more) queue degree = drain f fuel queue degree := by
  induction fuel generalizing done queue degree with
  | zero =>
    have := h.length_le
    obtain rfl : queue = [] := List.eq_nil_of_length_eq_zero (by omega)
    cases more <;> simp [drain]
  | succ fuel ih =>
    cases queue with
    | nil => rw [Nat.add_right_comm, drain, drain] <;> simp
    | cons v queue =>
      rw [Nat.add_right_comm, drain, drain]
      exact congrArg (v :: ·) (ih (h.take proper) (by simp; omega))

theorem visit_nodup (f : Flow) (visited stack : List String) (h : visited.Nodup) :
    (f.visit visited stack).Nodup := by
  induction visited, stack using visit.induct f with
  | case1 visited => simpa [visit] using h
  | case2 visited u stack seen ih =>
    rw [visit, if_pos seen]
    exact ih h
  | case3 visited u stack fresh ih =>
    rw [visit, if_neg fresh]
    apply ih
    exact List.nodup_cons.mpr ⟨mt List.contains_iff_mem.mpr fresh, h⟩

end Flow

namespace Draft

variable {d : Draft}

/-- Whom the problems with this code are about, in the order in which these are found. -/
def reported (d : Draft) (code : String) : List (Option String) :=
  (d.validate.filter (·.code == code)).map Problem.nodeId?

/-- One problem with this code is about each of these nodes, and there are no others. -/
structure ReportsEach (d : Draft) (code : String) (P : View → Prop) : Prop where
  once : ∀ v, d.First v → P v → (d.reported code).count (some v.id) = 1
  only : ∀ id ∈ d.reported code, ∃ v, d.First v ∧ P v ∧ id = some v.id

/-- This is a start, and it is the only one. -/
def OnlyStart (d : Draft) (s : View) : Prop := ∀ v, d.First v ∧ v.isKind .start = true ↔ v = s

theorem mem_ofKind {k : NodeKind} {v : View} :
    v ∈ d.survey.ofKind k ↔ d.First v ∧ v.isKind k = true := by
  rw [Survey.ofKind, List.mem_filter, mem_survey]

theorem survey_nodup : d.survey.views.Nodup := survey_distinct.of_map

theorem ofKind_start {s : View} : d.survey.ofKind .start = [s] ↔ d.OnlyStart s := by
  have distinct : (d.survey.ofKind .start).Nodup := survey_nodup.filter _
  rw [← List.perm_singleton, List.perm_ext_iff_of_nodup distinct (List.nodup_singleton s)]
  simp [OnlyStart, mem_ofKind]

/-- A check that looks at every node and reports on some of them reports once on each. -/
theorem reportsEach_filter {code : String} {keep : View → Bool} {P : View → Prop}
    (found : d.reported code = (d.survey.views.filter keep).map fun v => some v.id)
    (kept : ∀ v, keep v = true ↔ P v) : d.ReportsEach code P := by
  constructor
  · intro v first holds
    rw [found]
    have ids : ((d.survey.views.filter keep).map View.id).Nodup :=
      (List.filter_sublist.map View.id).nodup survey_distinct
    have distinct := ids.map (Option.some_injective _)
    rw [List.map_map] at distinct
    apply List.count_eq_one_of_mem distinct
    exact List.mem_map_of_mem (List.mem_filter.mpr ⟨mem_survey.mpr first, (kept v).mpr holds⟩)
  · intro id hid
    rw [found] at hid
    obtain ⟨v, hv, rfl⟩ := List.mem_map.mp hid
    obtain ⟨first, holds⟩ := List.mem_filter.mp hv
    exact ⟨v, mem_survey.mp first, (kept v).mp holds, rfl⟩

/-- Where a check has a code of its own, all that it finds is found by the code. -/
theorem filter_code (given : d.Given) {c : Check} (later : c ≠ .reading) {code : String}
    (own : ∀ p : Problem, p.code = code ↔ p.check = c) :
    d.validate.filter (·.code == code) = d.survey.found c := by
  rw [filter_validate given later fun p hp => (own p).mp (by simpa using hp)]
  apply List.filter_eq_self.mpr
  intro p hp
  simpa using (own p).mpr (Survey.found_check hp)

theorem filter_cycle (given : d.Given) :
    d.validate.filter (·.code == "CYCLE_DETECTED") = d.survey.cycleProblems := by
  apply filter_code given (c := .cycles) (by simp)
  intro p
  cases p <;> simp [Problem.code, Problem.check]

theorem filter_unreachable (given : d.Given) :
    d.validate.filter (·.code == "UNREACHABLE_NODE") = d.survey.reachProblems := by
  apply filter_code given (c := .reach) (by simp)
  intro p
  cases p <;> simp [Problem.code, Problem.check]

theorem filter_deadEnd (given : d.Given) :
    d.validate.filter (·.code == "DEAD_END_NODE") = d.survey.deadEndProblems := by
  apply filter_code given (c := .deadEnds) (by simp)
  intro p
  cases p <;> simp [Problem.code, Problem.check]

theorem unreachable_reported (given : d.Given) {s : View} (only : d.OnlyStart s) :
    d.ReportsEach "UNREACHABLE_NODE" fun v => ¬ ReflTransGen d.Joins s.id v.id := by
  apply reportsEach_filter
  · rw [reported, filter_unreachable given, Survey.reachProblems, ofKind_start.mpr only]
    exact List.map_map
  · intro v
    simp [Flow.mem_reached, link_survey]

theorem unreachable_unreported (given : d.Given) (several : ¬ ∃ s, d.OnlyStart s) :
    d.reported "UNREACHABLE_NODE" = [] := by
  rw [reported, filter_unreachable given, Survey.reachProblems]
  split
  · rename_i s single
    exact absurd ⟨s, ofKind_start.mp single⟩ several
  · rfl

theorem deadEnds_reported (given : d.Given) :
    d.ReportsEach "DEAD_END_NODE" fun v =>
      ∀ e, d.First e → e.isKind .ending = true → ¬ ReflTransGen d.Joins v.id e.id := by
  apply reportsEach_filter
  · rw [reported, filter_deadEnd given, Survey.deadEndProblems]
    exact List.map_map
  · intro v
    simp [Flow.mem_reached_reversed, link_survey, mem_ofKind]

end Draft

/-- The order of any flow holds each node once, after all that lead to it, if it is neither on a
cycle nor behind one; and its drain ends because its queue is empty. The checks build such a flow of
every design, and report a cycle, once, exactly when the edges between nodes make one. -/
theorem cycles_reported_exactly :
    (∀ f : Flow, f.Proper → f.Sorts f.order ∧
      ∀ more, f.drain (f.keys.length + more) (f.keys.filter fun v => f.inDegree v == 0) f.inDegree
        = f.order) ∧
    ∀ d : Draft, d.Given → d.survey.flow.Proper ∧ d.survey.flow.Link = d.Joins ∧
      ((∃ v, TransGen d.Joins v v) →
        d.validate.filter (·.code == "CYCLE_DETECTED") = [.cycle]) ∧
      ((¬ ∃ v, TransGen d.Joins v v) →
        d.validate.filter (·.code == "CYCLE_DETECTED") = []) := by
  constructor
  · intro f proper
    refine ⟨Flow.sorts_order proper, ?_⟩
    intro more
    exact (Flow.Drained.initial proper).enough proper more f.keys.length (by simp)
  · intro d given
    refine ⟨Draft.survey_proper, Draft.link_survey, ?_, ?_⟩
    · intro cyclic
      apply (Draft.filter_cycle given ▸ d.survey.cycleProblems_cases).resolve_left
      rw [Draft.filter_cycle given, Survey.cycleProblems_nil Draft.survey_distinct,
        Draft.link_survey]
      exact not_forall_not.mpr cyclic
    · intro acyclic
      rw [Draft.filter_cycle given, Survey.cycleProblems_nil Draft.survey_distinct,
        Draft.link_survey]
      exact not_exists.mp acyclic

/-- Two links from one node to another, and a node that leads to itself and on to a last one. -/
def tangle : Flow := ⟨["a", "b", "c", "d"], [("a", "b"), ("a", "b"), ("c", "c"), ("c", "d")]⟩

/-- Two nodes that lead to each other, behind a start. -/
def loop : List Json × List Json :=
  let edge (source target : String) : Json :=
    .obj [("source", .str source), ("target", .str target)]
  ([.obj [("id", .str "start"), ("type", .str "start")],
    .obj [("id", .str "there"), ("type", .str "textInput")],
    .obj [("id", .str "back"), ("type", .str "textInput")]],
   [edge "start" "there", edge "there" "back", edge "back" "there"])

theorem cycles_reported_exactly_loop :
    tangle.Proper ∧ tangle.Sorts ["a", "b"] ∧ Looped tangle.Link "d" ∧
    (Draft.ofRaw ⟨toString, 0⟩ loop.1 loop.2).validate.filter (·.code == "CYCLE_DETECTED")
      = [.cycle] := by
  obtain ⟨sorts, reports⟩ := cycles_reported_exactly
  have proper : tangle.Proper := by
    refine ⟨by decide, ?_, ?_⟩
    · intro u v link
      exact (by decide : ∀ l ∈ tangle.links, l.1 ∈ tangle.keys) (u, v) link
    · intro u v link
      exact (by decide : ∀ l ∈ tangle.links, l.2 ∈ tangle.keys) (u, v) link
  have order : tangle.order = ["a", "b"] := by decide +kernel
  have sorted := (sorts tangle proper).1
  rw [order] at sorted
  refine ⟨proper, sorted, ?_, ?_⟩
  · by_contra free
    exact absurd ((sorted.complete "d").mpr ⟨by decide, free⟩) (by decide)
  · apply (reports _ (.raw ⟨toString, 0⟩ loop.1 loop.2)).2.2.1
    rw [← Draft.link_survey]
    have forth : ("there", "back") ∈ (Draft.ofRaw ⟨toString, 0⟩ loop.1 loop.2).survey.links := by
      decide +kernel
    have back : ("back", "there") ∈ (Draft.ofRaw ⟨toString, 0⟩ loop.1 loop.2).survey.links := by
      decide +kernel
    exact ⟨"there", .tail (.single forth) back⟩

/-- What is visited is what can be reached, once each. A node is reported as out of reach, once,
exactly when there is one start and it does not lead to the node; and as leading nowhere, once,
exactly when it leads to no end. Of nodes with one id, the checks are about the first. -/
theorem reach_reported_exactly :
    (∀ (f : Flow) (seeds : List String), (f.reached seeds).Nodup ∧
      ∀ v, v ∈ f.reached seeds ↔ ∃ s ∈ seeds, ReflTransGen f.Link s v) ∧
    ∀ d : Draft, d.Given →
      (∀ s, d.OnlyStart s →
        d.ReportsEach "UNREACHABLE_NODE" fun v => ¬ ReflTransGen d.Joins s.id v.id) ∧
      ((¬ ∃ s, d.OnlyStart s) → d.reported "UNREACHABLE_NODE" = []) ∧
      d.ReportsEach "DEAD_END_NODE" fun v =>
        ∀ e, d.First e → e.isKind .ending = true → ¬ ReflTransGen d.Joins v.id e.id := by
  constructor
  · intro f seeds
    exact ⟨f.visit_nodup [] seeds List.nodup_nil, fun v => Flow.mem_reached⟩
  · intro d given
    refine ⟨?_, Draft.unreachable_unreported given, Draft.deadEnds_reported given⟩
    intro s only
    exact Draft.unreachable_reported given only

/-- A start that leads to a question, and an end that nothing leads to. Another end repeats the id
of the question, one node cannot be read, and one edge leads nowhere. -/
def hallway : List Json × List Json :=
  let node (id type : String) : Json := .obj [("id", .str id), ("type", .str type)]
  let edge (source target : String) : Json :=
    .obj [("source", .str source), ("target", .str target)]
  ([node "start" "start", node "name" "textInput", node "name" "end", node "door" "none",
    node "exit" "end"],
   [edge "start" "name", edge "name" "door", edge "name" "window"])

theorem reach_reported_exactly_hallway :
    ∃ s, (Draft.ofRaw ⟨toString, 0⟩ hallway.1 hallway.2).OnlyStart s ∧
      (Draft.ofRaw ⟨toString, 0⟩ hallway.1 hallway.2).reported "UNREACHABLE_NODE" = [some "exit"] ∧
      ¬ ReflTransGen (Draft.ofRaw ⟨toString, 0⟩ hallway.1 hallway.2).Joins s.id "exit" ∧
      (Draft.ofRaw ⟨toString, 0⟩ hallway.1 hallway.2).reported "DEAD_END_NODE"
        = [some "start", some "name", some "door"] := by
  obtain ⟨-, reports⟩ := reach_reported_exactly
  obtain ⟨unreachable, -, -⟩ := reports _ (.raw ⟨toString, 0⟩ hallway.1 hallway.2)
  obtain ⟨s, single⟩ : ∃ s,
      (Draft.ofRaw ⟨toString, 0⟩ hallway.1 hallway.2).survey.ofKind .start = [s] := ⟨_, rfl⟩
  have start := Draft.ofKind_start.mp single
  have away : (Draft.ofRaw ⟨toString, 0⟩ hallway.1 hallway.2).reported "UNREACHABLE_NODE"
      = [some "exit"] := by decide +kernel
  refine ⟨s, start, away, ?_, by decide +kernel⟩
  obtain ⟨v, -, apart, same⟩ := (unreachable s start).only (some "exit") (by simp [away])
  rw [Option.some.inj same]
  exact apart

end Questionnaire
