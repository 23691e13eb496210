import Questionnaire.Proofs.Publishable

namespace Questionnaire
open Relation

/-- What a check looks at. -/
inductive Check where
  | reading
  | kinds
  | edges
  | cycles
  | reach
  | deadEnds
  | nodes
deriving DecidableEq

/-- The check that finds a problem. -/
def Problem.check : Problem → Check
  | .nodeWithoutId | .malformedNode .. | .malformedEdge .. | .duplicateNode _ => .reading
  | .noStart | .manyStarts _ | .noEnd => .kinds
  | .unknownSource _ | .unknownTarget _ => .edges
  | .cycle => .cycles
  | .unreachable _ => .reach
  | .deadEnd _ => .deadEnds
  | _ => .nodes

namespace Survey

/-- What one check finds. -/
def found (s : Survey) : Check → List Problem
  | .reading => []
  | .kinds => s.kindProblems
  | .edges => s.edgeProblems
  | .cycles => s.cycleProblems
  | .reach => s.reachProblems
  | .deadEnds => s.deadEndProblems
  | .nodes => s.views.flatMap (s.nodeProblems s.flow.order)

variable {s : Survey} {p : Problem}

theorem of_endProblems {v : View} {edges : List Edge} (h : p ∈ endProblems v edges) :
    p = .endWithoutRedirect v.subject ∨ p = .endWithOutgoing v.subject := by
  rw [endProblems, List.mem_append] at h
  rcases h with h | h
  · split at h
    · split at h <;> simp_all
    · cases h
  · split at h <;> simp_all

theorem of_conditionProblems {v : View} (h : p ∈ conditionProblems v) :
    p = .branchWithoutCondition v.subject ∨ p = .emptyGroup v.subject := by
  rw [conditionProblems] at h
  split at h
  · cases h
  · split at h
    · exact .inl (List.mem_singleton.mp h)
    · obtain ⟨_, -, rfl⟩ := List.mem_map.mp h
      exact .inr rfl

theorem of_handleProblems {v : View} {edges : List Edge} (h : p ∈ handleProblems v edges) :
    (∃ e, p = .unknownHandle v.subject e) ∨
      (∃ handle count, p = .repeatedHandle v.subject handle count) ∨
      p = .missingRoutes v.subject := by
  rw [handleProblems, List.mem_append, List.mem_append] at h
  rcases h with (h | h) | h
  · obtain ⟨e, -, rfl⟩ := List.mem_map.mp h
    exact .inl ⟨e, rfl⟩
  · obtain ⟨handle, -, rfl⟩ := List.mem_map.mp h
    exact .inr (.inl ⟨handle, _, rfl⟩)
  · split at h
    · cases h
    · exact .inr (.inr (List.mem_singleton.mp h))

theorem of_skipProblems {order : List String} {v : View} {n : Node}
    (h : p ∈ skipProblems order v n) : ∃ field, p = .lateSkipField v.subject field := by
  rw [skipProblems] at h
  split at h
  · obtain ⟨field, -, rfl⟩ := List.mem_map.mp h
    exact ⟨field, rfl⟩
  · cases h

theorem of_operatorProblems {v : View} {n : Node} (h : p ∈ operatorProblems v n) :
    ∃ operator, p = .unknownOperator v.subject operator := by
  obtain ⟨r, -, rfl⟩ := List.mem_map.mp h
  exact ⟨r.operator, rfl⟩

/-- What can be found wrong with a node. All of it is about that node, and two kinds depend on the
order. -/
inductive Arises (order : List String) (v : View) : Problem → Prop where
  | noRedirect : Arises order v (.endWithoutRedirect v.subject)
  | goesOn : Arises order v (.endWithOutgoing v.subject)
  | noCondition : Arises order v (.branchWithoutCondition v.subject)
  | emptyGroup : Arises order v (.emptyGroup v.subject)
  | unknownHandle (e : Edge) : Arises order v (.unknownHandle v.subject e)
  | repeatedHandle (handle : String) (count : Nat) :
    Arises order v (.repeatedHandle v.subject handle count)
  | missingRoutes : Arises order v (.missingRoutes v.subject)
  | late {field : String} (late : field ∈ lateFields order v.id v.condition?) :
    Arises order v (.lateField v.subject field)
  | manyOutgoing (count : Nat) : Arises order v (.manyOutgoing v.subject count)
  | lateSkip {n : Node} {field : String} (node : v.node = some n)
    (late : .lateSkipField v.subject field ∈ skipProblems order v n) :
    Arises order v (.lateSkipField v.subject field)
  | unknownOperator (operator : String) : Arises order v (.unknownOperator v.subject operator)

theorem Arises.of_branchProblems {order : List String} {v : View} {edges : List Edge}
    (h : p ∈ branchProblems order v edges) : Arises order v p := by
  rw [branchProblems, List.mem_append, List.mem_append] at h
  rcases h with (h | h) | h
  · rcases of_conditionProblems h with rfl | rfl
    · exact .noCondition
    · exact .emptyGroup
  · rcases of_handleProblems h with ⟨e, rfl⟩ | ⟨handle, count, rfl⟩ | rfl
    · exact .unknownHandle e
    · exact .repeatedHandle handle count
    · exact .missingRoutes
  · obtain ⟨field, late, rfl⟩ := List.mem_map.mp h
    exact .late late

theorem Arises.of_nodeProblems {order : List String} {v : View} (h : p ∈ s.nodeProblems order v) :
    Arises order v p := by
  rw [nodeProblems, List.mem_append] at h
  rcases h with h | h
  · split at h
    · rcases of_endProblems h with rfl | rfl
      · exact .noRedirect
      · exact .goesOn
    · split at h
      · exact .of_branchProblems h
      · split at h
        · rw [List.mem_singleton.mp h]
          exact .manyOutgoing _
        · cases h
  · split at h
    · rename_i n hn
      rcases List.mem_append.mp h with h | h
      · obtain ⟨field, rfl⟩ := of_skipProblems h
        exact .lateSkip hn h
      · obtain ⟨operator, rfl⟩ := of_operatorProblems h
        exact .unknownOperator operator
    · cases h

theorem nodeProblems_check {order : List String} {v : View} (h : p ∈ s.nodeProblems order v) :
    p.check = .nodes := by
  cases Arises.of_nodeProblems h <;> rfl

theorem nodeProblems_nodeId {order : List String} {v : View} (h : p ∈ s.nodeProblems order v) :
    p.nodeId? = some v.id := by
  cases Arises.of_nodeProblems h <;> rfl

/-- Each check finds problems of its own. -/
theorem found_check {c : Check} (h : p ∈ s.found c) : p.check = c := by
  cases c with
  | reading => cases h
  | kinds =>
    rw [found, kindProblems, List.mem_append] at h
    rcases h with h | h <;> split at h <;> simp_all [Problem.check]
  | edges =>
    obtain ⟨e, -, he⟩ := List.mem_filterMap.mp h
    split at he
    · obtain rfl := Option.some.inj he
      rfl
    · split at he
      · obtain rfl := Option.some.inj he
        rfl
      · cases he
  | cycles =>
    rw [found, cycleProblems] at h
    split at h <;> simp_all [Problem.check]
  | reach =>
    rw [found, reachProblems] at h
    split at h
    · obtain ⟨_, -, rfl⟩ := List.mem_map.mp h
      rfl
    · cases h
  | deadEnds =>
    obtain ⟨_, -, rfl⟩ := List.mem_map.mp h
    rfl
  | nodes =>
    obtain ⟨v, -, hv⟩ := List.mem_flatMap.mp h
    exact nodeProblems_check hv

theorem problems_eq : s.problems = s.found .kinds ++ s.found .edges ++ s.found .cycles
    ++ s.found .reach ++ s.found .deadEnds ++ s.found .nodes := rfl

/-- A problem is found by its own check or not at all. -/
theorem mem_problems : p ∈ s.problems ↔ p ∈ s.found p.check := by
  simp only [problems_eq, List.mem_append]
  constructor
  · rintro (((((h | h) | h) | h) | h) | h) <;> rwa [found_check h]
  · intro h
    cases hc : p.check with
    | reading =>
      rw [hc] at h
      cases h
    | _ => simp [hc ▸ h]

end Survey

/-- Reading aside, a draft has the problems of its survey. -/
theorem Draft.mem_validate {d : Draft} {p : Problem} (h : p ∈ d.survey.found p.check) :
    p ∈ d.validate := List.mem_append_right _ (Survey.mem_problems.mpr h)

/-- A design that was read without fault has no problems but those of its survey. -/
theorem Draft.mem_validate_ofRead {ns : List Node} {es : List Edge}
    (distinct : (ns.map Node.id).Nodup) {p : Problem} :
    p ∈ (Draft.ofRead ns es).validate ↔ p ∈ (Survey.ofNodes ns es).found p.check := by
  have once : repeatedIds [] (ofRead ns es).views = [] :=
    repeatedIds_nil.mpr ⟨views_ofRead ▸ distinct, fun _ _ => List.not_mem_nil⟩
  rw [validate, once, survey_ofRead distinct, ← Survey.mem_problems]
  rfl

end Questionnaire
