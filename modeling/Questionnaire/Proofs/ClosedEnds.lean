import Questionnaire.Proofs.ClosedGraph
import Questionnaire.Proofs.PublishGate
import Questionnaire.Proofs.TraceAccount

namespace Questionnaire

/-- What is told of a walk: the ids of the nodes on its path, and its steps. -/
def Trace.account (t : Trace) : List String × List Event := (t.ids, t.steps)

namespace Engine

section Stopping

variable {e : Engine} {r : Json} {k a b : String} {ks : List String} {evs : List Event}
  {path : List CompiledNode} {n : CompiledNode}

theorem mem_visits_of_skip (h : .skip b ∈ evs) : b ∈ visits evs :=
  List.mem_filterMap.mpr ⟨_, h, rfl⟩

theorem Passes.last (h : Passes e r k ks evs a) (hb : b ∈ ks) : ks.getLast? = some a := by
  cases h with
  | here => cases hb
  | further _ _ _ => exact List.getLast?_concat

/-- A node that is passed over and leads nowhere is the last that the search comes to. -/
theorem next_stopped {w : Walk (Option CompiledNode)} (found : e.next r k = w)
    (skipped : .skip b ∈ w.events) (stop : (e.hop r b).result = .ok .nowhere) :
    w.result = .ok none ∧ (visits w.events).getLast? = some b := by
  have visited := mem_visits_of_skip skipped
  obtain ⟨ks, evs, a, v, passed, settled, hv⟩ := next_cases e r k
  rw [← found, hv, visits_append, passed.visits, settled.visits_nothing, List.append_nil]
    at visited ⊢
  rcases (passed.chain.2 b visited).cases_head with rfl | ⟨c, onward, -⟩
  · refine ⟨?_, passed.last visited⟩
    cases settled with
    | nowhere _ => rfl
    | failed move | shown move | round move _ =>
      rw [move] at stop
      cases stop
  · unfold Skips at onward
    rw [stop] at onward
    cases onward

theorem Enters.not_stopped (h : Enters e r path evs n) (stop : (e.hop r b).result = .ok .nowhere) :
    .skip b ∉ evs := by
  induction h with
  | start _ => simp
  | @next path evs more n m _ _ _ move ih =>
    intro skipped
    have later : .skip b ∈ more := by simpa [ih] using skipped
    cases (next_stopped move later stop).1

/-- So a walk that passes over such a node does not fail, and comes to nothing after it. -/
theorem walk_stopped (skipped : .skip b ∈ (e.walk r).events)
    (stop : (e.hop r b).result = .ok .nowhere) : ∃ t, e.trace r = .ok t ∧
      (visits t.steps).getLast? = some b := by
  rcases walk_cases e r with ⟨x, -, hw⟩ | ⟨path, evs, n, w, before, last, hw⟩
  · simp [hw] at skipped
  · rw [hw] at skipped
    have skipped : .skip b ∈ w.events := by simpa [before.not_stopped stop] using skipped
    cases last with
    | revisit _ => simp at skipped
    | ending _ _ => simp at skipped
    | @failed more x _ _ move =>
      have later : .skip b ∈ more := by simpa using skipped
      cases (next_stopped move later stop).1
    | @loose more _ _ move =>
      have later : .skip b ∈ more := by simpa using skipped
      obtain ⟨-, last⟩ := next_stopped move later stop
      refine ⟨⟨_, _⟩, trace_ok.mpr hw, ?_⟩
      rw [Trace.steps, visits_steps, visits_append, visits_enter, List.getLast?_append,
        List.getLast?_cons, last]
      rfl

/-- Conversely a node that is passed over last leads nowhere, on a walk that does not fail. -/
theorem stopped_of_last (hg : e.graph.Keyed) {t : Trace} (h : e.trace r = .ok t)
    (skipped : .skip b ∈ t.steps) (last : (visits t.steps).getLast? = some b) :
    (e.hop r b).result = .ok .nowhere := by
  obtain ⟨once, -, -⟩ := trace_visits hg h
  obtain ⟨before, rest, reported⟩ := List.append_of_mem skipped
  rw [reported, visits_append, visits_skip] at once last
  rcases trace_after h reported rfl with goes | ⟨entered, -, -⟩
  · obtain ⟨move, onward, hm, rfl, first⟩ := goes.moved
    rw [hopSteps_append_visits] at once last
    have alone : visits onward = [] := by
      by_contra more
      rw [List.getLast?_append_cons, List.getLast?_cons_of_ne_nil more] at last
      have again := List.mem_of_getLast? last
      exact (List.nodup_cons.mp (List.nodup_append.mp once).2.1).1 again
    rw [alone] at first
    cases move with
    | nowhere => exact hm
    | _ => cases first
  · cases entered

end Stopping

/-- The engine over the graph in which ends have no way on. -/
def closed (e : Engine) : Engine := ⟨e.graph.mapNodes CompiledNode.closed, e.evaluator⟩

/-- The nodes have the same data, so that as much is known of the answers. -/
theorem ofGraph_closed (g : Graph) (otherValue defaultOtherLabel : String) :
    ofGraph (g.mapNodes CompiledNode.closed) otherValue defaultOtherLabel
      = (ofGraph g otherValue defaultOtherLabel).closed := by
  simp [ofGraph, closed, Graph.mapNodes]

/-- The walk goes on from an end, which has a way on and is passed over. -/
def PastEnd (e : Engine) (r : Json) (k : String) : Prop := .skip k ∈ (e.walk r).events ∧
  ∃ n, e.graph.node? k = some n ∧ n.isEnd = true ∧ n.next ≠ .linear .null

section Closed

variable {e : Engine} {r : Json} {order : List String} {k : String} {n : CompiledNode}

theorem resembles_closed (e : Engine) (r : Json) :
    Resembles e e.closed r r CompiledNode.closed where
  graph := rfl
  id := CompiledNode.closed_id
  kind := CompiledNode.closed_kind
  arrives k n _ := by
    unfold arrive evaluate closed
    rw [CompiledNode.closed_data]
    cases n.data.skipCondition with
    | none => rfl
    | some c =>
      dsimp only
      cases e.evaluator.evaluate r c with
      | error x => rfl
      | ok v => cases v <;> rfl

theorem keeps_closed (h : ∀ n, e.graph.node? k = some n → n.closed = n) :
    Keeps e e.closed r r CompiledNode.closed k := by
  intro n hn
  rw [h n hn]
  rfl

/-- Where no end that has a way on is passed over in both, both walks go the same way. -/
theorem walk_closed (hg : e.graph.Keyed)
    (apart : ∀ k, e.PastEnd r k → .skip k ∉ (e.closed.walk r).events) :
    e.closed.walk r = (e.walk r).map (List.map CompiledNode.closed) := by
  apply (resembles_closed e r).walk
  · intro path evs n entered going
    apply keeps_closed
    intro m hm
    obtain rfl := Option.some.inj ((entered.found hg).symm.trans hm)
    exact CompiledNode.closed_of_going going
  · intro k skipped skipped'
    apply keeps_closed
    intro n found
    cases final : n.isEnd with
    | false => exact CompiledNode.closed_of_going final
    | true =>
      have stop : n.next = .linear .null := by
        by_contra way
        exact apart k ⟨skipped, n, found, final, way⟩ skipped'
      rw [CompiledNode.closed_of_end final, ← stop]

theorem account_closed
    (same : e.closed.walk r = (e.walk r).map (List.map CompiledNode.closed)) :
    (e.closed.trace r).map Trace.account = (e.trace r).map Trace.account := by
  unfold trace
  rw [same]
  rcases e.walk r with ⟨events, x | path⟩
  · rfl
  · simp [Walk.map, Except.map, Trace.account, Trace.ids, Trace.steps]

/-- In a published graph an end leads nowhere only for want of a way on. -/
theorem next_of_nowhere (p : e.graph.Published order) (one : n.next.isBranch = false)
    (found : e.graph.node? k = some n) (stop : (e.hop r k).result = .ok .nowhere) :
    n.next = .linear .null := by
  rcases hop_nowhere stop with missing | ⟨m, j, hm, routed, followed⟩
  · rw [found] at missing
    cases missing
  · obtain rfl := Option.some.inj (found.symm.trans hm)
    cases hn : n.next with
    | branch onTrue onFalse => simp [hn, Next.isBranch] at one
    | linear next =>
      rw [route, hn] at routed
      cases routed
      rcases follow_ok p found (j := j) (by simp [hn, Next.slots]) with ⟨rfl, -, -⟩ | ⟨b, m, led⟩
      · rfl
      · rw [led] at followed
        cases followed

/-- The account of a walk past an end is lost once ends have no way on. -/
theorem account_past_end (p : e.graph.Published order)
    (one : ∀ k n, e.graph.node? k = some n → n.isEnd = true → n.next.isBranch = false)
    (past : e.PastEnd r k) (skipped' : .skip k ∈ (e.closed.walk r).events) :
    (e.closed.trace r).map Trace.account ≠ (e.trace r).map Trace.account := by
  intro same
  obtain ⟨skipped, n, found, final, way⟩ := past
  have found' : e.closed.graph.node? k = some { n with next := .linear .null } := by
    rw [closed, Graph.node?_mapNodes, found, Option.map_some, CompiledNode.closed_of_end final]
  have stop : (e.closed.hop r k).result = .ok .nowhere :=
    Hopped.result (.loose found' rfl rfl)
  obtain ⟨t', ht', last⟩ := walk_stopped skipped' stop
  cases ht : e.trace r with
  | error x => simp [ht', ht, Except.map] at same
  | ok t =>
    rw [ht', ht] at same
    have steps : t'.steps = t.steps := congrArg Prod.snd (Except.ok.inj same)
    rw [steps] at last
    rw [trace_ok.mp ht] at skipped
    have told : .skip k ∈ t.steps := List.mem_filter.mpr ⟨skipped, rfl⟩
    exact way (next_of_nowhere p (one k n found final) found
      (stopped_of_last p.keyed ht told last))

/-- Closing the ends changes the account of a walk exactly if the walk goes on from an end. -/
theorem account_closed_iff (p : e.graph.Published order)
    (one : ∀ k n, e.graph.node? k = some n → n.isEnd = true → n.next.isBranch = false) :
    (e.closed.trace r).map Trace.account = (e.trace r).map Trace.account ↔
      ∀ k, ¬ e.PastEnd r k := by
  constructor
  · intro same k past
    -- an end that both walks pass over would be the last that one of them comes to
    have apart (k : String) (past : e.PastEnd r k) : .skip k ∉ (e.closed.walk r).events :=
      fun skipped' => account_past_end p one past skipped' same
    apply apart k past
    rw [walk_closed p.keyed apart]
    exact past.1
  · intro unpassed
    apply account_closed
    apply walk_closed p.keyed
    intro k past
    exact absurd past (unpassed k)

end Closed

end Engine

/-- In a design that may be published, the edges that leave ends can be removed without a change to
what the answers lead to, exactly if the walk does not go on from an end that is passed over. -/
theorem end_edges_unfollowed_iff (ids ids' ids'' : IdSupply) (nodes edges : List Json)
    (otherValue defaultOtherLabel : String)
    (valid : Problem.isValid (Draft.ofRaw ids nodes edges).validate = true) :
    ∃ g g', (Graph.compileRaw ids' nodes edges).result = .ok g ∧
      (Graph.compileRaw ids'' nodes (edges.filter fun e => !leavesEnd nodes e)).result = .ok g' ∧
      ∀ responses : Entries,
        (((Engine.ofGraph g' otherValue defaultOtherLabel).trace (.obj responses)).map
            Trace.account
          = ((Engine.ofGraph g otherValue defaultOtherLabel).trace (.obj responses)).map
            Trace.account ↔
        ∀ k, ¬ (Engine.ofGraph g otherValue defaultOtherLabel).PastEnd (.obj responses) k) := by
  obtain ⟨ns, es, accepted⟩ := Draft.ofRaw_valid.mp valid
  refine ⟨_, _, accepted.compiled ids', accepted.compiled_closed ids'', ?_⟩
  intro responses
  rw [Engine.ofGraph_closed]
  apply Engine.account_closed_iff accepted.published
  intro k n found final
  have other : n.kind ≠ .branch := by
    intro branch
    simp [CompiledNode.isEnd, branch] at final
  simpa using mt (Graph.isBranch_compile found).mp other

/-- A form for grown-ups. Its end for minors is passed over for all others, and has an edge on. -/
def gated : List Json × List Json :=
  let rule := Json.obj [("field", .str "age"), ("operator", .str "lt"), ("value", .int 18)]
  let edge (source target : String) : Json :=
    .obj [("source", .str source), ("target", .str target)]
  ([.obj [("id", .str "start"), ("type", .str "start")],
    .obj [("id", .str "age"), ("type", .str "numberInput")],
    .obj [("id", .str "minor"), ("type", .str "end"),
      ("data", .obj [("redirectUrl", .str "/sorry"),
        ("condition", .obj [("children", .arr [rule])])])],
    .obj [("id", .str "adult"), ("type", .str "end"),
      ("data", .obj [("redirectUrl", .str "/thanks")])]],
   [edge "start" "age", edge "age" "minor", edge "minor" "adult"])

def gatedEngine : Engine :=
  .ofGraph ((Graph.compileRaw ⟨toString, 7⟩ gated.1 gated.2).result.toOption.getD []) "other"
    "Other"

def gatedClosedEngine : Engine :=
  .ofGraph ((Graph.compileRaw ⟨toString, 7⟩ gated.1
    (gated.2.filter fun e => !leavesEnd gated.1 e)).result.toOption.getD []) "other" "Other"

/-- The walk of an adult goes on from the end for minors, and that of a minor stops there. -/
theorem end_edges_unfollowed_gated :
    (∃ k, gatedEngine.PastEnd (.obj [("age", .int 30)]) k) ∧
      ∀ k, ¬ gatedEngine.PastEnd (.obj [("age", .int 10)]) k := by
  obtain ⟨g, g', hg, hg', unfollowed⟩ := end_edges_unfollowed_iff ⟨toString, 0⟩ ⟨toString, 7⟩
    ⟨toString, 7⟩ gated.1 gated.2 "other" "Other" (by decide +kernel)
  have same : gatedEngine = .ofGraph g "other" "Other" := by rw [gatedEngine, hg]; rfl
  have closed : gatedClosedEngine = .ofGraph g' "other" "Other" := by
    rw [gatedClosedEngine, hg']
    rfl
  rw [← same, ← closed] at unfollowed
  constructor
  · have lost : (gatedClosedEngine.trace (.obj [("age", .int 30)])).map Trace.account
        ≠ (gatedEngine.trace (.obj [("age", .int 30)])).map Trace.account := by decide +kernel
    by_contra unpassed
    exact lost ((unfollowed _).mpr fun k past => unpassed ⟨k, past⟩)
  · apply (unfollowed _).mp
    decide +kernel

/-- The one edge that leaves an end is followed in a design that may be published. Without it the
adult is not led to an end. -/
theorem end_edge_followed :
    Problem.isValid (Draft.ofRaw ⟨toString, 0⟩ gated.1 gated.2).validate = true ∧
      gated.2.filter (leavesEnd gated.1) = [gated.2[2]] ∧
      (gatedEngine.trace (.obj [("age", .int 30)])).map Trace.account
        = .ok (["start", "age", "adult"],
          [.enter "start", .enter "age", .skip "minor", .enter "adult"]) ∧
      (gatedClosedEngine.trace (.obj [("age", .int 30)])).map Trace.account
        = .ok (["start", "age"], [.enter "start", .enter "age", .skip "minor"]) := by
  refine ⟨?_, ?_, ?_, ?_⟩ <;> decide +kernel

end Questionnaire
