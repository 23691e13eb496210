import Questionnaire.Proofs.Checks
import Questionnaire.Proofs.PublishedGraph
import Questionnaire.Proofs.SessionRuns

namespace Questionnaire
open Relation

/-- Has the walk come round to where it was? -/
def WalkError.isCycle : WalkError → Bool
  | .skipCycle .. | .revisit .. => true
  | _ => false

/-- Some problem with this code is about the node. -/
def Reported (ps : List Problem) (code node : String) : Prop :=
  ∃ p ∈ ps, p.code = code ∧ p.nodeId? = some node

theorem Problem.code_unreachable {p : Problem} (h : p.code = "UNREACHABLE_NODE") :
    ∃ v, p = .unreachable v := by
  cases p <;> simp [Problem.code] at h ⊢

theorem Problem.code_deadEnd {p : Problem} (h : p.code = "DEAD_END_NODE") :
    ∃ v, p = .deadEnd v := by
  cases p <;> simp [Problem.code] at h ⊢

namespace Survey

variable {s : Survey}

theorem unreached_of_found {v : Subject} (h : .unreachable v ∈ s.found .reach) :
    ∃ start, s.ofKind .start = [start] ∧ ¬ ReflTransGen s.flow.Link start.id v.id := by
  rw [found, reachProblems] at h
  split at h
  · rename_i start single
    obtain ⟨w, hw, same⟩ := List.mem_map.mp h
    obtain rfl := Problem.unreachable.inj same
    refine ⟨start, single, fun path => ?_⟩
    have reached := Flow.mem_reached.mpr ⟨start.id, List.mem_singleton_self _, path⟩
    simp only [List.mem_filter, Bool.not_eq_true', List.contains_eq_mem,
      decide_eq_false_iff_not] at hw
    exact hw.2 reached
  · cases h

theorem stranded_of_found {v : Subject} (h : .deadEnd v ∈ s.found .deadEnds) :
    ∀ w ∈ s.ofKind .ending, ¬ ReflTransGen s.flow.Link v.id w.id := by
  obtain ⟨u, hu, same⟩ := List.mem_map.mp h
  obtain rfl := Problem.deadEnd.inj same
  intro w hw path
  have reached := Flow.mem_reached_reversed.mpr ⟨w.id, List.mem_map_of_mem hw, path⟩
  simp only [List.mem_filter, Bool.not_eq_true', List.contains_eq_mem,
    decide_eq_false_iff_not] at hu
  exact hu.2 reached

theorem acyclic_of_not_found (distinct : (s.views.map View.id).Nodup)
    (h : .cycle ∉ s.found .cycles) : ∀ v, ¬ TransGen s.flow.Link v v := by
  apply (cycleProblems_nil distinct).mp
  apply s.cycleProblems_cases.resolve_right
  intro one
  exact h (by simp [found, one])

end Survey

namespace Graph

section

variable {nodes : List Node} {edges : List Edge} (distinct : (nodes.map Node.id).Nodup)
include distinct

/-- Every route of the compiled graph is a link of the flow that is checked. Links that no route
follows may remain: those of edges that were overwritten, that have no known handle, or that leave
an end. -/
theorem routes_link {a b : String} (h : (compile nodes edges).Routes a b) :
    (Survey.ofNodes nodes edges).flow.Link a b := by
  obtain ⟨m, hm, hb, -⟩ := h
  obtain ⟨n, hn, rfl, rfl⟩ := compiled_of_node? distinct hm
  rcases slots_routed hb with unset | ⟨e, he, hj⟩
  · cases slots_unset unset
  · obtain ⟨he, source⟩ := List.mem_filter.mp he
    rw [landing] at hj
    split at hj
    · rename_i known
      obtain rfl := Json.str.inj hj
      have source : e.source = n.id := beq_iff_eq.mp source
      refine Survey.link_iff.mpr ⟨e, he, ⟨?_, ?_⟩, source, rfl⟩
      · rw [Survey.has_iff, Survey.ids_ofNodes, source]
        exact List.mem_map_of_mem hn
      · rw [Survey.has_iff, Survey.ids_ofNodes]
        exact known
    · cases hj

theorem path_link {a b : String} (h : ReflTransGen (compile nodes edges).Routes a b) :
    ReflTransGen (Survey.ofNodes nodes edges).flow.Link a b :=
  ReflTransGen.mono (fun _ _ => routes_link distinct) _ _ h

end

end Graph

namespace Engine

section

variable {e : Engine} {r : Json} {x : WalkError}

theorem hop_error_acyclic {a : String} (h : (e.hop r a).result = .error x) :
    x.isCycle = false := by
  obtain ⟨n, -, stuck | ⟨j, -, unusable⟩⟩ := hop_error h
  · obtain ⟨-, ⟨-, rfl⟩ | ⟨c, y, -, -, rfl⟩⟩ := route_error stuck
    · rfl
    · rfl
  · rw [follow.eq_def] at unusable
    split at unusable <;> cases unusable
    · rfl
    · rfl

variable (loopless : ∀ k, ¬ TransGen e.graph.Routes k k)
include loopless

/-- Where no routes lead round, no search for the next node comes round. -/
theorem next_error_acyclic {k : String} (h : (e.next r k).result = .error x) :
    x.isCycle = false := by
  rcases next_error h with ⟨a, -, failed⟩ | ⟨b, ks, -, round⟩
  · exact hop_error_acyclic failed
  · exact absurd round (loopless b)

theorem trace_error_acyclic (hg : e.graph.Keyed) (h : e.trace r = .error x) :
    x.isCycle = false := by
  rw [trace_error] at h
  rcases walk_cases e r with ⟨y, hs, hw⟩ | ⟨path, evs, n, w, before, last, hw⟩
  · rw [hw] at h
    obtain rfl := Except.error.inj h
    rw [startNode] at hs
    split at hs <;> cases hs <;> rfl
  · rw [hw] at h
    cases last with
    | revisit seen =>
      obtain ⟨m, hm, same⟩ := List.mem_map.mp seen
      have round := before.behind hg m hm
      rw [same] at round
      exact absurd round (loopless _)
    | failed _ _ move =>
      obtain rfl := Except.error.inj h
      exact next_error_acyclic loopless (congrArg Walk.result move)
    | ending _ _ => cases h
    | loose _ _ _ => cases h

theorem advance_error_acyclic (hg : e.graph.Keyed) (hn : e.Named) {start : String} {s : Session}
    {n : CompiledNode} (h : e.Underway start s n) (failed : (e.advance s).result = .error x) :
    x.isCycle = false := by
  have moved := advances (h.here hn)
  rw [failed] at moved
  cases moved with
  | failed _ _ shown => exact next_error_acyclic loopless shown
  | revisit _ _ shown seen => exact absurd ((h.next_ahead hg shown).2 _ seen) (loopless _)

end

/-- The problems found in a design say these things about walks and sessions over its graph. -/
structure Heeds (e : Engine) (ps : List Problem) : Prop where
  /-- What cannot be reached is neither entered nor passed over. -/
  unreached : ∀ id, Reported ps "UNREACHABLE_NODE" id → (∀ r, id ∉ visits (e.walk r).events) ∧
    ∀ initial s₀ k s, e.begin initial = .ok s₀ → e.Runs s₀ k s →
      id ∉ s.history ∧ id ∉ visits (e.advance s).events
  /-- Nor is what leads to no end, on a walk that comes to one. -/
  stranded : ∀ id, Reported ps "DEAD_END_NODE" id → ∀ r t, e.trace r = .ok t →
    t.completed = true → id ∉ visits t.events
  /-- Where no cycle was found, nothing comes round. -/
  acyclic : (∀ p ∈ ps, p.code ≠ "CYCLE_DETECTED") →
    (∀ r x, e.trace r = .error x → x.isCycle = false) ∧
    (∀ r k x, (e.next r k).result = .error x → x.isCycle = false) ∧
    ∀ initial s₀ k s x, e.begin initial = .ok s₀ → e.Runs s₀ k s →
      (e.advance s).result = .error x → x.isCycle = false

section

variable {nodes : List Node} {edges : List Edge} (evaluator : Evaluator)
  (distinct : (nodes.map Node.id).Nodup) (named : ∀ n ∈ nodes, n.id ≠ "")
include distinct

theorem startNode_ofKind {start : View}
    (h : (Survey.ofNodes nodes edges).ofKind .start = [start]) :
    ∃ first, startNode ⟨Graph.compile nodes edges, evaluator⟩ = .ok first ∧
      first.id = start.id := by
  rw [Survey.ofKind_ofNodes] at h
  obtain ⟨n, single, rfl⟩ := List.map_eq_singleton_iff.mp h
  refine ⟨Graph.compiled nodes edges n, ?_, rfl⟩
  have starts : (Graph.compile nodes edges).starts = [Graph.compiled nodes edges n] := by
    rw [Graph.starts, Graph.values_compile distinct, List.filter_map]
    exact congrArg (List.map _) single
  rw [startNode, starts]

include named

/-- The checks look at more links than there are routes, so whatever they exclude for links does not
happen on routes. -/
theorem heeds_compile :
    Heeds ⟨Graph.compile nodes edges, evaluator⟩ (Draft.ofRead nodes edges).validate := by
  have hg := Graph.keyed_compile nodes edges
  have hn := named_compile named edges evaluator
  refine ⟨fun id report => ?_, fun id report r t ht completed seen => ?_, fun clean => ?_⟩
  · obtain ⟨p, hp, code, node⟩ := report
    obtain ⟨v, rfl⟩ := Problem.code_unreachable code
    obtain rfl := Option.some.inj node
    obtain ⟨start, single, away⟩ :=
      Survey.unreached_of_found ((Draft.mem_validate_ofRead distinct).mp hp)
    obtain ⟨first, hs, same⟩ := startNode_ofKind evaluator distinct single
    have off {k : String} (hk : ReflTransGen (Graph.compile nodes edges).Routes first.id k) :
        k ≠ v.id := by
      rintro rfl
      exact away (same ▸ Graph.path_link distinct hk)
    refine ⟨fun r seen => off (walk_visits_reached hg r hs _ seen) rfl, ?_⟩
    intro initial s₀ k s begun run
    obtain ⟨first', n, hs', under, -⟩ := run.underway hg hn begun
    obtain rfl := Except.ok.inj (hs.symm.trans hs')
    refine ⟨fun seen => off (under.reached _ seen) rfl, fun seen => ?_⟩
    have here := under.reached n.id (List.mem_of_getLast? under.last)
    exact off (here.trans (under.visits_ahead hn _ seen).to_reflTransGen) rfl
  · obtain ⟨p, hp, code, node⟩ := report
    obtain ⟨v, rfl⟩ := Problem.code_deadEnd code
    obtain rfl := Option.some.inj node
    have stranded := Survey.stranded_of_found ((Draft.mem_validate_ofRead distinct).mp hp)
    obtain ⟨m, found, final, behind⟩ := completed_visits_lead hg ht completed
    obtain ⟨n, hn', -, rfl⟩ := Graph.compiled_of_node? distinct found
    refine stranded (View.ofNode n) ?_ (Graph.path_link distinct (behind _ seen))
    rw [Survey.ofKind_ofNodes]
    exact List.mem_map_of_mem (List.mem_filter.mpr ⟨hn', final⟩)
  · have acyclic := Survey.acyclic_of_not_found (s := .ofNodes nodes edges)
      (by rwa [Survey.ids_ofNodes])
      fun cycle => clean .cycle ((Draft.mem_validate_ofRead distinct).mpr cycle) rfl
    have loopless (k : String) : ¬ TransGen (Graph.compile nodes edges).Routes k k :=
      fun round => acyclic k (TransGen.mono (fun _ _ => Graph.routes_link distinct) _ _ round)
    refine ⟨fun r x => trace_error_acyclic loopless hg,
      fun r k x => next_error_acyclic loopless, ?_⟩
    intro initial s₀ k s x begun run failed
    obtain ⟨first, n, -, under, -⟩ := run.underway hg hn begun
    exact advance_error_acyclic loopless hg hn under failed

end

end Engine

/-- What is found in a design is true of all that can happen on it, also where it cannot be
published: of a design that was read already, and of one that is still to be read, in which every
node gives an id. The ids are distinct and none is empty. -/
theorem reports_heeded (evaluator : Evaluator) :
    (∀ (nodes : List Node) (edges : List Edge), (nodes.map Node.id).Nodup →
      (∀ n ∈ nodes, n.id ≠ "") →
      Engine.Heeds ⟨Graph.compile nodes edges, evaluator⟩ (Draft.ofRead nodes edges).validate) ∧
    ∀ (ids ids' : IdSupply) (nodes edges : List Json) (g : Graph),
      (∀ j ∈ nodes, (Draft.idOf? j).isSome = true) → (nodes.filterMap Draft.idOf?).Nodup →
      (Graph.compileRaw ids' nodes edges).result = .ok g →
      Engine.Heeds ⟨g, evaluator⟩ (Draft.ofRaw ids nodes edges).validate := by
  constructor
  · intro nodes edges distinct named
    exact Engine.heeds_compile evaluator distinct named
  · intro ids ids' nodes edges g given distinct compiles
    obtain ⟨ns, es, read, attempted, rfl⟩ := Draft.read_of_compiled given compiles ids
    rw [Draft.ids_read read] at distinct
    rw [Draft.ofRaw_eq read attempted]
    exact Engine.heeds_compile evaluator distinct (Draft.named_of_read read)

/-- One question with two edges, of which the first, to a question that leads nowhere, is
overwritten by the other; and a question that nothing leads to. -/
def leaky : List Json × List Json :=
  let question (id : String) : Json := .obj [("id", .str id), ("type", .str "textInput")]
  let edge (source target : String) : Json :=
    .obj [("source", .str source), ("target", .str target)]
  ([.obj [("id", .str "start"), ("type", .str "start")], question "name", question "stuck",
    question "lost", .obj [("id", .str "end"), ("type", .str "end")]],
   [edge "start" "name", edge "name" "stuck", edge "name" "end", edge "lost" "name"])

theorem reports_heeded_leaky : ∃ g,
    (Graph.compileRaw ⟨toString, 7⟩ leaky.1 leaky.2).result = .ok g ∧
      Reported (Draft.ofRaw ⟨toString, 0⟩ leaky.1 leaky.2).validate "UNREACHABLE_NODE" "lost" ∧
      Reported (Draft.ofRaw ⟨toString, 0⟩ leaky.1 leaky.2).validate "DEAD_END_NODE" "stuck" ∧
      Engine.Heeds ⟨g, ⟨[], "other", "Other"⟩⟩
        (Draft.ofRaw ⟨toString, 0⟩ leaky.1 leaky.2).validate := by
  have compiles : (Graph.compileRaw ⟨toString, 7⟩ leaky.1 leaky.2).result.isOk = true := by
    decide +kernel
  match hg : (Graph.compileRaw ⟨toString, 7⟩ leaky.1 leaky.2).result with
  | .error fs =>
    rw [hg] at compiles
    cases compiles
  | .ok g =>
    exact ⟨g, rfl, ⟨.unreachable ⟨"lost", "lost"⟩, by decide +kernel, rfl, rfl⟩,
      ⟨.deadEnd ⟨"stuck", "stuck"⟩, by decide +kernel, rfl, rfl⟩,
      (reports_heeded _).2 ⟨toString, 0⟩ ⟨toString, 7⟩ leaky.1 leaky.2 g (by decide +kernel)
        (by decide +kernel) hg⟩

end Questionnaire
