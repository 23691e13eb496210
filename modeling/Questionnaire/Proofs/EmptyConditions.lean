import Questionnaire.Proofs.CausalReports
import Questionnaire.Proofs.ConditionFaults
import Questionnaire.Proofs.FailsOpen
import Questionnaire.Proofs.RuleCases

namespace Questionnaire

namespace Evaluator

variable {ev : Evaluator} {responses : Json} {g : Group} {x : ConditionError}

/-- Without answers no rule fails, so only an empty group can. -/
theorem evaluate_unanswered (h : ev.evaluate (.obj []) g = .error x) : x.isEmptiness = true := by
  cases evaluate_error.mp h with
  | empty => rfl
  | rule _ _ fails =>
    rw [rule_no_answer rfl] at fails
    cases fails

theorem evaluate_full (full : ∀ h ∈ g.groups, h.items ≠ [])
    (h : ev.evaluate responses g = .error x) : x.isEmptiness = false := by
  rcases ev.evaluate_settled responses full with ⟨b, value⟩ | ⟨_, _, _, _, failed⟩
  · rw [value] at h
    cases h
  · obtain rfl := Except.error.inj (failed.symm.trans h)
    rfl

theorem evaluate_hollow (hollow : ∃ h ∈ g.groups, h.items = []) :
    ∃ x, ev.evaluate responses g = .error x := by
  cases value : ev.evaluate responses g with
  | error x => exact ⟨x, rfl⟩
  | ok b =>
    obtain ⟨h, inside, empty⟩ := hollow
    exact absurd empty ((evaluate_ok_iff.mp ⟨b, value⟩).1 h inside)

end Evaluator

/-- There is no condition, or one with an empty group in it. -/
def NodeData.Hollow (d : NodeData) : Prop :=
  ∀ c, d.condition = some c → ∃ g ∈ c.groups, g.items = []

namespace Engine

variable {e : Engine} {r : Json} {m : CompiledNode} {k : String} {x : ConditionError}

/-- The search fails for a condition only at the branch from which it starts: it passes over no
branch, and other nodes ask for no condition before they have a route. -/
theorem next_condition_error (suited : e.graph.Suited) (found : e.graph.node? k = some m) :
    (e.next r k).result = .error (.condition x) ↔ e.Stuck r m (.condition x) := by
  constructor
  · intro h
    obtain ⟨ks, evs, a, w, passed, settled, hw⟩ := next_cases e r k
    rw [hw] at h
    cases settled with
    | failed move =>
      obtain rfl := Except.error.inj h
      have move := congrArg Walk.result move
      cases passed with
      | here =>
        obtain ⟨n, hn, stuck | ⟨j, -, unusable⟩⟩ := hop_error move
        · obtain rfl := Option.some.inj (found.symm.trans hn)
          exact route_stuck.mp stuck
        · cases (follow_error unusable).1
      | further _ skip _ =>
        obtain ⟨n, j, -, -, unusable⟩ :=
          hop_off_branch (skip_off_branch suited (congrArg Walk.result skip)) move
        cases (follow_error unusable).1
    | round move seen => cases h
    | nowhere move => cases h
    | shown move => cases h
  · intro stuck
    have failed : e.hop r k = ⟨(e.hop r k).events, .error (.condition x)⟩ := by
      rw [← (Hopped.stuck found (route_stuck.mpr stuck)).result]
    rw [(Settles.failed failed).next .here]

theorem Stuck.unanswered (h : e.Stuck (.obj []) m (.condition x)) : x.isEmptiness = true := by
  cases h with
  | unroutable => rfl
  | undecided _ _ _ failed => exact Evaluator.evaluate_unanswered failed

theorem Stuck.full (h : e.Stuck r m (.condition x)) (full : ¬ m.data.Hollow) :
    x.isEmptiness = false := by
  simp only [NodeData.Hollow, not_forall, not_exists, not_and] at full
  obtain ⟨c, hc, full⟩ := full
  cases h with
  | unroutable _ empty =>
    exact absurd (by simpa [Group.isEmpty] using empty c hc) (full c (by simp [Group.groups]))
  | undecided _ hc' _ failed =>
    obtain rfl := Option.some.inj (hc.symm.trans hc')
    exact Evaluator.evaluate_full full failed

theorem stuck_hollow (branch : m.next.isBranch = true) (hollow : m.data.Hollow) (r : Json) :
    ∃ x, e.Stuck r m (.condition x) := by
  cases next : m.next with
  | linear => simp [next, Next.isBranch] at branch
  | branch onTrue onFalse =>
    cases condition : m.data.condition.filter (!·.isEmpty) with
    | none => exact ⟨_, .unroutable next (condition_filter_none.mp condition)⟩
    | some c =>
      obtain ⟨hc, full⟩ := condition_filter_some.mp condition
      obtain ⟨x, failed⟩ := Evaluator.evaluate_hollow (hollow c hc)
      exact ⟨x, .undecided next hc full failed⟩

end Engine

namespace Draft

variable {d : Draft} {n : Node}

/-- Some problem says that the condition of the node wants a rule. -/
def Wanting (d : Draft) (id : String) : Prop :=
  d.told "BRANCH_MISSING_CONDITION" id ≠ [] ∨ d.told "EMPTY_CONDITION_GROUP" id ≠ []

section

variable (given : d.Given) (first : d.First (.ofNode n)) (branch : n.kind = .branch)
include given first branch

theorem told_condition {code : String}
    (own : code ∈ ["BRANCH_MISSING_CONDITION", "EMPTY_CONDITION_GROUP"]) :
    d.told code n.id = (Survey.conditionProblems (.ofNode n)).filter (·.code == code) := by
  have kind : (View.ofNode n).isKind .branch = true := by simp [isKind_ofNode, branch]
  have late : ((Survey.lateFields d.survey.flow.order n.id n.data.condition).map
      (Problem.lateField (View.ofNode n).subject)).filter (·.code == code) = [] := by
    apply List.filter_eq_nil_iff.mpr
    intro p hp same
    obtain ⟨field, -, rfl⟩ := List.mem_map.mp hp
    simp only [Problem.code, beq_iff_eq] at same
    simp [← same] at own
  have told := told_routing given first kind (List.mem_append_left ["CAUSAL_ORDER_VIOLATION"] own)
  rwa [show (View.ofNode n).condition? = n.data.condition from rfl,
    show (View.ofNode n).id = n.id from rfl, late, List.append_nil] at told

theorem told_routable {c : Group} (hc : n.data.condition = some c) (rules : c.isEmpty = false) :
    d.told "BRANCH_MISSING_CONDITION" n.id = [] ∧ d.told "EMPTY_CONDITION_GROUP" n.id
      = (c.groups.filter Group.isEmpty).map fun _ => .emptyGroup (View.ofNode n).subject := by
  rw [told_condition given first branch (by simp), told_condition given first branch (by simp)]
  have problems : Survey.conditionProblems (.ofNode n)
      = (c.groups.filter Group.isEmpty).map fun _ => .emptyGroup (View.ofNode n).subject := by
    simp only [Survey.conditionProblems, View.ofNode,
      Engine.condition_filter_some.mpr ⟨hc, rules⟩]
  rw [problems]
  constructor
  · apply List.filter_eq_nil_iff.mpr
    intro p hp
    obtain ⟨_, -, rfl⟩ := List.mem_map.mp hp
    simp [Problem.code]
  · apply List.filter_eq_self.mpr
    intro p hp
    obtain ⟨_, -, rfl⟩ := List.mem_map.mp hp
    rfl

theorem wanting_iff : d.Wanting n.id ↔ n.data.Hollow := by
  cases condition : n.data.condition.filter (!·.isEmpty) with
  | none =>
    have empty := Engine.condition_filter_none.mp condition
    have told : d.told "BRANCH_MISSING_CONDITION" n.id ≠ [] := by
      rw [told_condition given first branch (by simp)]
      simp [Survey.conditionProblems, View.ofNode, condition, Problem.code]
    refine iff_of_true (.inl told) fun c hc => ⟨c, by simp [Group.groups], ?_⟩
    simpa [Group.isEmpty] using empty c hc
  | some c =>
    obtain ⟨hc, rules⟩ := Engine.condition_filter_some.mp condition
    obtain ⟨missing, empty⟩ := told_routable given first branch hc rules
    simp [Wanting, NodeData.Hollow, missing, empty, hc, Group.isEmpty]

end

theorem first_of_distinct {v : View} (distinct : d.ids.Nodup) (h : v ∈ d.views) : d.First v :=
  Graph.find?_distinct distinct h

/-- What is told of the condition of a branch says how a search from the branch ends. -/
structure Foresees (d : Draft) (e : Engine) (n : Node) : Prop where
  unanswered : d.Wanting n.id ↔
    ∃ x, (e.next (.obj []) n.id).result = .error (.condition x) ∧ x.isEmptiness = true
  spared : ¬ d.Wanting n.id → ∀ (r : Json) (x : ConditionError),
    (e.next r n.id).result = .error (.condition x) → x.isEmptiness = false
  failing : d.Wanting n.id → ∀ r : Json, ∃ x, (e.next r n.id).result = .error (.condition x)
  counted : ∀ c, n.data.condition = some c → c.isEmpty = false →
    (d.told "EMPTY_CONDITION_GROUP" n.id).length = (c.groups.filter Group.isEmpty).length

theorem foresees {e : Engine} {m : CompiledNode} (given : d.Given)
    (first : d.First (.ofNode n)) (branch : n.kind = .branch) (suited : e.graph.Suited)
    (found : e.graph.node? n.id = some m) (kind : m.kind = n.kind) (data : m.data = n.data) :
    d.Foresees e n := by
  have fork : m.next.isBranch = true := (suited.found found).routes.mp (kind.trans branch)
  have hollow : d.Wanting n.id ↔ m.data.Hollow := by
    rw [data]
    exact wanting_iff given first branch
  have fails {r x} := Engine.next_condition_error (r := r) (x := x) suited found
  refine ⟨⟨fun wanting => ?_, ?_⟩, fun full r x failed => ?_, fun wanting r => ?_,
    fun c hc rules => ?_⟩
  · obtain ⟨x, stuck⟩ := Engine.stuck_hollow fork (hollow.mp wanting) (.obj [])
    exact ⟨x, fails.mpr stuck, stuck.unanswered⟩
  · rintro ⟨x, failed, empty⟩
    by_contra full
    rw [(fails.mp failed).full (mt hollow.mpr full)] at empty
    cases empty
  · exact (fails.mp failed).full (mt hollow.mpr full)
  · obtain ⟨x, stuck⟩ := Engine.stuck_hollow fork (hollow.mp wanting) r
    exact ⟨x, fails.mpr stuck⟩
  · rw [(told_routable given first branch hc rules).2, List.length_map]

end Draft

/-- What is told of the condition of a branch is what happens there: the branch wants a rule, says
the check, where without answers the search from it fails for want of one. Then it fails whatever
the answers are, and else never for that reason. Each empty group is told of. This is so for designs
that were read, and for those still to be read if the branch gives an id of its own; where it gives
none the checks leave it out. -/
theorem emptiness_foreseen (evaluator : Evaluator) :
    (∀ (nodes : List Node) (edges : List Edge), (∀ n ∈ nodes, n.Typed) →
      (nodes.map Node.id).Nodup → ∀ n ∈ nodes, n.kind = .branch →
      (Draft.ofRead nodes edges).Foresees ⟨Graph.compile nodes edges, evaluator⟩ n) ∧
    ∀ (ids ids' : IdSupply) (nodes edges : List Json) (g : Graph),
      (Graph.compileRaw ids' nodes edges).result = .ok g →
      ((Node.reader.batch ids' nodes).items.map Node.id).Nodup →
      ∀ j ∈ nodes, ∀ (fresh : String) (n : Node), (Draft.idOf? j).isSome = true →
        Node.ofJson fresh j = .ok n → n.kind = .branch →
        (Draft.ofRaw ids nodes edges).Foresees ⟨g, evaluator⟩ n := by
  constructor
  · intro nodes edges typed distinct n hn branch
    refine Draft.foresees (.read nodes edges) ?_ branch (Graph.suited_compile typed edges)
      (Graph.node?_compiled distinct hn) rfl rfl
    apply Draft.first_of_distinct
    · rwa [Draft.ids, Draft.views_ofRead]
    · exact List.mem_map_of_mem hn
  · intro ids ids' nodes edges g compiled distinct j hj fresh n named read branch
    obtain ⟨batch, es, -, rfl⟩ := Graph.read_of_compileRaw compiled ids
    have whole := Draft.readFrom_of_idOf? named read
    have hn : n ∈ (Node.reader.batch ids' nodes).items := by
      obtain ⟨n', hn', fresh', again⟩ := exists_of_forall₂ batch.flip hj
      obtain ⟨_, _, rfl, -, -, same⟩ := whole
      obtain rfl := Except.ok.inj ((same fresh').symm.trans again)
      exact hn'
    have typed : ∀ n ∈ (Node.reader.batch ids' nodes).items, n.Typed := by
      intro n hn
      obtain ⟨j, -, fresh, hj⟩ := exists_of_forall₂ batch hn
      exact Node.typed_of_ofJson hj
    refine Draft.foresees (.raw ids nodes edges) ?_ branch (Graph.suited_compile typed es)
      (Graph.node?_compiled distinct hn) rfl rfl
    have views := Draft.views_read batch
    apply Draft.first_of_distinct
    · apply (views.map View.id).nodup
      rw [List.map_map]
      exact distinct
    · refine List.mem_filterMap.mpr ⟨_, List.mem_map_of_mem hj, ?_⟩
      rw [Draft.viewNode_read whole]

/-- A branch that asks for an age, or for what an empty group says. -/
def gateJson : Json :=
  .obj [("id", .str "gate"), ("type", .str "branch"), ("data", .obj [("condition",
    .obj [("logicType", .str "OR"), ("children", .arr [
      .obj [("field", .str "age"), ("operator", .str "is_set")],
      .obj [("children", .arr [])]])])])]

/-- The branch fails for the empty group even when the age is given. -/
theorem emptiness_foreseen_gate : ∃ g n,
    (Graph.compileRaw ⟨toString, 7⟩ [gateJson] []).result = .ok g ∧
    Node.ofJson "8" gateJson = .ok n ∧ n.kind = .branch ∧
    (Draft.ofRaw ⟨toString, 0⟩ [gateJson] []).Foresees ⟨g, ⟨[], "other", "Other"⟩⟩ n ∧
    (Draft.ofRead [n] []).Foresees ⟨Graph.compile [n] [], ⟨[], "other", "Other"⟩⟩ n ∧
    (∃ x, (Engine.next ⟨g, ⟨[], "other", "Other"⟩⟩ (.obj [("age", .int 40)]) "gate").result
      = .error (.condition x)) := by
  obtain ⟨ofRead, ofRaw⟩ := emptiness_foreseen ⟨[], "other", "Other"⟩
  obtain ⟨g, compiled⟩ : ∃ g, (Graph.compileRaw ⟨toString, 7⟩ [gateJson] []).result = .ok g :=
    ⟨_, rfl⟩
  obtain ⟨n, read⟩ : ∃ n, Node.ofJson "8" gateJson = .ok n := ⟨_, rfl⟩
  have branch : n.kind = .branch := by
    cases read
    rfl
  have raw := ofRaw ⟨toString, 0⟩ ⟨toString, 7⟩ [gateJson] [] g compiled (by decide +kernel)
    gateJson (by simp) "8" n rfl read branch
  have whole :=
    ofRead [n] [] (by simpa using Node.typed_of_ofJson read) (by simp) n (by simp) branch
  have wanting : (Draft.ofRaw ⟨toString, 0⟩ [gateJson] []).Wanting "gate" :=
    .inr (by decide +kernel)
  have named : n.id = "gate" := by
    cases read
    rfl
  refine ⟨g, n, compiled, read, branch, raw, whole, ?_⟩
  rw [← named] at wanting ⊢
  exact raw.failing wanting _

/-- A branch without an id of its own and without a condition. -/
def nameless : List Json := [.obj [("id", .str ""), ("type", .str "branch")]]

/-- Of a branch that gives no id of its own nothing is told about its condition, though without
answers the search from it fails for want of one. -/
theorem emptiness_unforeseen_nameless :
    ∃ g n x, (Graph.compileRaw ⟨toString, 7⟩ nameless []).result = .ok g ∧
      (Node.reader.batch ⟨toString, 7⟩ nameless).items = [n] ∧ n.kind = .branch ∧
      ¬ (Draft.ofRaw ⟨toString, 0⟩ nameless []).Wanting n.id ∧
      (Engine.next ⟨g, ⟨[], "other", "Other"⟩⟩ (.obj []) n.id).result = .error (.condition x) ∧
      x.isEmptiness = true := by
  refine ⟨_, _, _, rfl, rfl, rfl, ?_, rfl, rfl⟩
  rw [Draft.Wanting]
  decide +kernel

end Questionnaire
