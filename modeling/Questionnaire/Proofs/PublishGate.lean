import Questionnaire.Proofs.PublishedGraph
import Questionnaire.Proofs.Representable
import Questionnaire.Proofs.WalkCases

namespace Questionnaire
open Relation

/-- The trace is of a walk through the graph from its one start, over no node twice, and to an end
unless one was passed over. -/
structure Trace.Through (t : Trace) (g : Graph) : Prop where
  start : ∃ n, g.starts = [n] ∧ t.path.head? = some n
  nodup : t.ids.Nodup
  ends : (∀ key n, .skip key ∈ t.events → g.node? key = some n → n.isEnd = false) →
    t.completed = true

namespace Engine

/-- The condition of every branch has a value on these answers. -/
def Decides (e : Engine) (r : Json) : Prop := ∀ k n c, e.graph.node? k = some n →
  n.next.isBranch = true → n.data.condition = some c → ∃ b, e.evaluator.evaluate r c = .ok b

/-- The condition of some branch has no value on these answers, and this is the error. -/
def Undecided (e : Engine) (r : Json) (x : WalkError) : Prop := ∃ k n c y,
  e.graph.node? k = some n ∧ n.next.isBranch = true ∧ n.data.condition = some c ∧
    e.evaluator.evaluate r c = .error y ∧ x = .condition y

section

variable {e : Engine} {r : Json} {order : List String} (p : e.graph.Published order)
include p

theorem follow_ok {k : String} {n : CompiledNode} {j : Json} (hn : e.graph.node? k = some n)
    (hj : j ∈ n.next.slots) : (j = .null ∧ n.isEnd = true ∧ e.follow j = .ok none) ∨
      ∃ b m, e.follow j = .ok (some (b, m)) := by
  rcases p.led k n hn j hj with ⟨rfl, final⟩ | ⟨b, rfl, -, -, -, hb⟩
  · exact Or.inl ⟨rfl, final, rfl⟩
  · obtain ⟨m, hm⟩ := Option.isSome_iff_exists.mp hb
    exact Or.inr ⟨b, m, follow_found.mpr ⟨rfl, p.named b (Graph.mem_keys.mpr hb), hm⟩⟩

theorem route_undecided {k : String} {n : CompiledNode} (hn : e.graph.node? k = some n)
    {x : WalkError} (h : (e.route r n).result = .error x) : e.Undecided r x := by
  obtain ⟨hb, fault⟩ := route_error h
  obtain ⟨c, hc, full, -⟩ := p.conditions k n hn hb
  have given : n.data.condition.filter (!·.isEmpty) = some c := by
    have := full c (by simp [Group.groups])
    simp [hc, Option.filter, Group.isEmpty, this]
  rcases fault with ⟨none, -⟩ | ⟨c', y, hc', he, rfl⟩
  · rw [given] at none
    cases none
  · obtain rfl := Option.some.inj (given.symm.trans hc')
    exact ⟨k, n, c, y, hn, hb, hc, he, rfl⟩

theorem hop_undecided {a : String} {x : WalkError} (h : (e.hop r a).result = .error x) :
    e.Undecided r x := by
  obtain ⟨n, hn, stuck | ⟨j, hr, unusable⟩⟩ := hop_error h
  · exact route_undecided p hn stuck
  · rcases follow_ok p hn (route_slot hr) with ⟨-, -, hg⟩ | ⟨b, m, hg⟩
    · rw [hg] at unusable
      cases unusable
    · rw [hg] at unusable
      cases unusable

/-- The search for the next node fails for want of the value of a condition, or not at all. -/
theorem next_undecided {k : String} {x : WalkError} (h : (e.next r k).result = .error x) :
    e.Undecided r x := by
  rcases next_error h with ⟨a, -, ha⟩ | ⟨b, ks, -, round⟩
  · exact hop_undecided p ha
  · exact absurd round p.loopless

theorem next_ok (d : e.Decides r) (k : String) {x : WalkError} :
    (e.next r k).result ≠ .error x := by
  intro h
  obtain ⟨a, n, c, y, hn, hb, hc, he, -⟩ := next_undecided p h
  obtain ⟨b, hv⟩ := d a n c hn hb hc
  rw [hv] at he
  cases he

/-- Only an end leads nowhere. -/
theorem nowhere_end {a : String} {n : CompiledNode} (hn : e.graph.node? a = some n)
    (h : (e.hop r a).result = .ok .nowhere) : n.isEnd = true := by
  rcases hop_nowhere h with missing | ⟨m, j, hm, hr, hf⟩
  · rw [hn] at missing
    cases missing
  · obtain rfl := Option.some.inj (hn.symm.trans hm)
    rcases follow_ok p hn (route_slot hr) with ⟨-, final, -⟩ | ⟨b, m, hg⟩
    · exact final
    · rw [hg] at hf
      cases hf

theorem next_end {k : String} {n : CompiledNode} (hn : e.graph.node? k = some n)
    (going : n.isEnd = false) (h : (e.next r k).result = .ok none) :
    ∃ a m, .skip a ∈ (e.next r k).events ∧ e.graph.node? a = some m ∧ m.isEnd = true := by
  obtain ⟨a, skipped, path, last⟩ := next_nowhere h
  have found : ∃ m, e.graph.node? a = some m := by
    rcases path.cases_tail with rfl | ⟨b, -, -, -, -, ha⟩
    · exact ⟨n, hn⟩
    · exact Option.isSome_iff_exists.mp ha
  obtain ⟨m, hm⟩ := found
  have final := nowhere_end p hm last
  rcases skipped with rfl | skipped
  · obtain rfl := Option.some.inj (hn.symm.trans hm)
    rw [going] at final
    cases final
  · exact ⟨a, m, skipped, hm, final⟩

end

/-- Every walk over such a graph comes to its end. -/
theorem trace_published {e : Engine} {r : Json} {order : List String}
    (p : e.graph.Published order) (d : e.Decides r) :
    ∃ t, e.trace r = .ok t ∧ t.Through e.graph := by
  obtain ⟨start, hs⟩ := p.start
  rcases walk_cases _ r with ⟨x, hx, -⟩ | ⟨path, evs, n, w, before, last, hw⟩
  · rw [startNode, hs] at hx
    cases hx
  obtain ⟨first, begun, head⟩ := before.started
  cases hs.symm.trans (startNode_ok begun)
  cases last with
  | revisit seen =>
    obtain ⟨m, hm, same⟩ := List.mem_map.mp seen
    exact absurd (same ▸ before.behind p.keyed m hm) p.loopless
  | failed _ _ move => exact absurd (congrArg Walk.result move) (next_ok p d n.id)
  | ending new final =>
    refine ⟨⟨path ++ [n], _⟩, trace_ok.mpr hw, ⟨start, hs, head⟩, nodup_entered before.nodup new,
      fun _ => ?_⟩
    simp [Trace.completed, Trace.endNode?, Option.filter, final]
  | @loose more new going move =>
    refine ⟨⟨path ++ [n], _⟩, trace_ok.mpr hw, ⟨start, hs, head⟩, nodup_entered before.nodup new,
      fun unskipped => ?_⟩
    have found := before.found p.keyed
    obtain ⟨a, m, skipped, hm, final⟩ := next_end p found going (congrArg Walk.result move)
    rw [move] at skipped
    have := unskipped a m (by simp [skipped]) hm
    rw [final] at this
    cases this

theorem definition?_ofGraph (g : Graph) (otherValue defaultOtherLabel field : String) :
    (ofGraph g otherValue defaultOtherLabel).evaluator.definition? field
      = (g.node? field).map CompiledNode.data := by
  rw [ofGraph, Evaluator.definition?]
  induction g with
  | nil => rfl
  | cons entry g ih =>
    obtain ⟨key, n⟩ := entry
    rw [List.map_cons, Ordered.lookup_entry, Graph.node?, Ordered.lookup_entry]
    split
    · rfl
    · exact ih

/-- Where no number is too large, every branch decides. -/
theorem decides_ofGraph {g : Graph} {order : List String} (p : g.Published order)
    (otherValue defaultOtherLabel : String) {responses : Entries}
    (answers : (Json.obj responses).fits = true)
    (values : ∀ k n, g.node? k = some n → ∀ v ∈ n.data.values, v.fits = true) :
    (ofGraph g otherValue defaultOtherLabel).Decides (.obj responses) := by
  intro k n c hn hb hc
  obtain ⟨c', hc', full, -⟩ := p.conditions k n hn hb
  obtain rfl := Option.some.inj (hc'.symm.trans hc)
  refine Evaluator.evaluate_ok ?_ (by simpa only [Json.fits] using answers) full fun rule hr => ?_
  · intro field d hd choice hm
    rw [definition?_ofGraph] at hd
    obtain ⟨m, hm', rfl⟩ := Option.map_eq_some_iff.mp hd
    exact values field m hm' _ (List.mem_append_right _ (List.mem_map_of_mem hm))
  · refine values k n hn _ (List.mem_append_left _ (List.mem_map_of_mem ?_))
    simpa [hc] using hr

end Engine

/-- A design that validates compiles, and whatever is answered, the walk over it ends. Numbers that
are too large are left aside, since a condition has no value on them. -/
theorem published_walks (ids ids' : IdSupply) (nodes edges : List Json) (responses : Entries)
    (otherValue defaultOtherLabel : String)
    (valid : Problem.isValid (Draft.ofRaw ids nodes edges).validate = true)
    (values : ∀ v ∈ (Draft.ofRaw ids nodes edges).views, ∀ n ∈ v.node, ∀ x ∈ n.data.values,
      x.fits = true)
    (answers : (Json.obj responses).fits = true) :
    ∃ g t, (Graph.compileRaw ids' nodes edges).result = .ok g ∧
      (Engine.ofGraph g otherValue defaultOtherLabel).trace (.obj responses) = .ok t ∧
      t.Through g := by
  obtain ⟨ns, es, accepted⟩ := Draft.ofRaw_valid.mp valid
  have p := accepted.published
  have fits (k : String) (m : CompiledNode) (hm : (Graph.compile ns es).node? k = some m) :
      ∀ x ∈ m.data.values, x.fits = true := by
    obtain ⟨n, hn, rfl, rfl⟩ := Graph.compiled_of_node? accepted.2.2.distinct hm
    rw [Draft.ofRaw_eq accepted.1 accepted.2.1] at values
    exact values (View.ofNode n) (List.mem_map_of_mem hn) n rfl
  have d := Engine.decides_ofGraph p otherValue defaultOtherLabel answers fits
  obtain ⟨t, ht, through⟩ := Engine.trace_published (e := .ofGraph _ _ _) p d
  exact ⟨Graph.compile ns es, t, accepted.compiled ids', ht, through⟩

/-- One question and a branch to two ends. -/
def fork : List Json × List Json :=
  let rule := Json.obj [("field", .str "age"), ("operator", .str "gt"), ("value", .int 17)]
  let ending (id : String) : Json :=
    .obj [("id", .str id), ("type", .str "end"), ("data", .obj [("redirectUrl", .str "/thanks")])]
  let edge (source target : String) : Entries :=
    [("source", .str source), ("target", .str target)]
  ([.obj [("id", .str "start"), ("type", .str "start")],
    .obj [("id", .str "age"), ("type", .str "numberInput")],
    .obj [("id", .str "adult"), ("type", .str "branch"),
      ("data", .obj [("condition", .obj [("children", .arr [rule])])])],
    ending "yes", ending "no"],
   [.obj (edge "start" "age"), .obj (edge "age" "adult"),
    .obj (("sourceHandle", .str "true") :: edge "adult" "yes"),
    .obj (("sourceHandle", .str "false") :: edge "adult" "no")])

theorem published_walks_fork : ∃ g t,
    (Graph.compileRaw ⟨toString, 7⟩ fork.1 fork.2).result = .ok g ∧
      (Engine.ofGraph g "other" "Other").trace (.obj [("age", .int 30)]) = .ok t ∧ t.Through g :=
  published_walks ⟨toString, 0⟩ ⟨toString, 7⟩ fork.1 fork.2 [("age", .int 30)] "other" "Other"
    (by decide +kernel) (by decide +kernel) (by decide +kernel)

end Questionnaire
