import Questionnaire.Proofs.DesignRead
import Questionnaire.Proofs.HopCases

namespace Questionnaire
open Relation

namespace Graph

/-- What walks rely on in a graph, where all routes go forward in the order: each node that is no
end leads on whichever way is taken, and each branch has a condition that has a value and is about
nodes that came before. -/
structure Published (g : Graph) (order : List String) : Prop where
  keyed : g.Keyed
  named : ∀ k ∈ Ordered.keys g, k ≠ ""
  start : ∃ n, g.starts = [n]
  before : ∀ a b, g.Routes a b → Flow.Before order a b
  led : ∀ k n, g.node? k = some n → ∀ j ∈ n.next.slots,
    (j = .null ∧ n.isEnd = true) ∨ ∃ b, j = .str b ∧ g.Routes k b
  conditions : ∀ k n, g.node? k = some n → n.next.isBranch = true → ∃ c,
    n.data.condition = some c ∧ (∀ h ∈ c.groups, h.items ≠ []) ∧
    ∀ field ∈ c.fields, Flow.Before order field k

namespace Published

variable {g : Graph} {order : List String}

theorem ahead (p : g.Published order) {a b : String} (h : TransGen g.Routes a b) :
    Flow.Before order a b := by
  induction h with
  | single hl => exact p.before _ _ hl
  | tail _ hl ih => exact ih.trans (p.before _ _ hl)

theorem loopless (p : g.Published order) {a : String} : ¬ TransGen g.Routes a a :=
  fun h => (p.ahead h).irrefl

end Published

theorem find?_distinct {α : Type} {key : α → String} {xs : List α} {x : α}
    (distinct : (xs.map key).Nodup) (h : x ∈ xs) : xs.find? (key · == key x) = some x := by
  cases found : xs.find? (key · == key x) with
  | none => simpa using List.find?_eq_none.mp found x h
  | some y =>
    have same : key y = key x := by simpa using List.find?_some found
    rw [List.inj_on_of_nodup_map distinct (List.mem_of_find?_eq_some found) h same]

variable {nodes : List Node} {edges : List Edge}

/-- A node as it is in the compiled graph. -/
def compiled (nodes : List Node) (edges : List Edge) (n : Node) : CompiledNode :=
  let leaving := edges.filter (·.source == n.id)
  ⟨n.id, n.kind, n.data, routed (nodes.map Node.id) leaving (Next.unset n.kind)⟩

section

variable (distinct : (nodes.map Node.id).Nodup)
include distinct

theorem node?_compiled {n : Node} (hn : n ∈ nodes) :
    (compile nodes edges).node? n.id = some (compiled nodes edges n) := by
  have found : nodes.reverse.find? (·.id == n.id) = some n := by
    apply find?_distinct _ (List.mem_reverse.mpr hn)
    rwa [List.map_reverse, List.nodup_reverse]
  rw [node?_compile, node?_ofNodes, found, keys_ofNodes distinct]
  rfl

theorem compiled_of_node? {k : String} {m : CompiledNode}
    (h : (compile nodes edges).node? k = some m) :
    ∃ n ∈ nodes, n.id = k ∧ m = compiled nodes edges n := by
  have hk := mem_keys.mpr (by rw [h]; rfl)
  rw [keys_compile, keys_ofNodes distinct] at hk
  obtain ⟨n, hn, rfl⟩ := List.mem_map.mp hk
  rw [node?_compiled distinct hn] at h
  exact ⟨n, hn, rfl, (Option.some.inj h).symm⟩

theorem values_compile :
    (compile nodes edges).map Prod.snd = nodes.map (compiled nodes edges) := by
  have hk := (keys_compile nodes edges).trans (keys_ofNodes distinct)
  rw [values_eq (keyed_compile nodes edges).nodup, hk, List.filterMap_map,
    ← List.filterMap_eq_map]
  exact List.filterMap_congr fun n hn => node?_compiled distinct hn

end

/-- With an edge out of it, a node with one route gets that of an edge. -/
theorem routed_last (ids : List String) (h : edges ≠ []) (route : Json) :
    ∃ e ∈ edges, routed ids edges (.linear route) = .linear (landing ids e) := by
  refine ⟨edges.getLast h, List.getLast_mem h, ?_⟩
  rw [routed_linear, lastLanding, List.getLast?_eq_some_getLast h]
  rfl

theorem routed_forked (ids : List String) (h : Survey.Forked edges) (onTrue onFalse : Json) :
    ∃ t ∈ edges, ∃ f ∈ edges,
      routed ids edges (.branch onTrue onFalse) = .branch (landing ids t) (landing ids f) := by
  obtain ⟨t, f, perm, ht, hf⟩ := h
  obtain ⟨trues, falses⟩ := Survey.filter_forked perm ht hf
  refine ⟨t, perm.mem_iff.mpr (by simp), f, perm.mem_iff.mpr (by simp), ?_⟩
  rw [routed_branch, trues, falses]
  rfl

end Graph

namespace Publishable

variable {nodes : List Node} {edges : List Edge}

theorem proper (p : Publishable nodes edges) : (drawn nodes edges).Proper :=
  drawn_proper p.distinct p.joined

/-- Every node has its place in the order. -/
theorem mem_order (p : Publishable nodes edges) {n : Node} (hn : n ∈ nodes) :
    n.id ∈ (drawn nodes edges).order :=
  Flow.mem_order_of_acyclic p.proper (link_drawn ▸ p.acyclic) (List.mem_map_of_mem hn)

theorem before (p : Publishable nodes edges) {e : Edge} (he : e ∈ edges) :
    Flow.Before (drawn nodes edges).order e.source e.target := by
  obtain ⟨n, hn, hi⟩ := List.mem_map.mp (p.joined e he).2
  refine Flow.before_of_link p.proper ?_ (hi ▸ p.mem_order hn)
  rw [link_drawn]
  exact ⟨e, he, rfl, rfl⟩

/-- Only from an end does no edge lead on. -/
theorem leaves (p : Publishable nodes edges) {n : Node} (hn : n ∈ nodes)
    (going : n.kind ≠ .ending) : edges.filter (·.source == n.id) ≠ [] := by
  obtain ⟨m, hm, final, path⟩ := p.ends n hn
  rcases path.cases_head with same | ⟨b, ⟨e, he, source, -⟩, -⟩
  · exact absurd final (List.inj_on_of_nodup_map p.distinct hn hm same ▸ going)
  · exact List.ne_nil_of_mem (List.mem_filter.mpr ⟨he, by simpa using source⟩)

/-- The routes out of a node are those of its edges. -/
theorem slots (p : Publishable nodes edges) {n : Node} (hn : n ∈ nodes) {j : Json}
    (hj : j ∈ (Graph.compiled nodes edges n).next.slots) :
    (j = .null ∧ n.kind = .ending) ∨ ∃ e ∈ edges, e.source = n.id ∧ j = .str e.target := by
  have landed {e : Edge} (he : e ∈ edges.filter (·.source == n.id))
      (hl : j = Graph.landing (nodes.map Node.id) e) :
      ∃ e ∈ edges, e.source = n.id ∧ j = .str e.target := by
    obtain ⟨he, hs⟩ := List.mem_filter.mp he
    exact ⟨e, he, by simpa using hs, by rw [hl, Graph.landing, if_pos (p.joined e he).2]⟩
  simp only [Graph.compiled, Next.unset] at hj
  by_cases hb : n.kind = .branch
  · obtain ⟨t, ht, f, hf, routes⟩ :=
      Graph.routed_forked (nodes.map Node.id) (p.forks n hn hb) .null .null
    rw [if_pos hb, routes] at hj
    rcases List.mem_pair.mp hj with hj | hj
    · exact Or.inr (landed ht hj)
    · exact Or.inr (landed hf hj)
  · rw [if_neg hb] at hj
    by_cases none : edges.filter (·.source == n.id) = []
    · rw [none] at hj
      refine Or.inl ⟨List.mem_singleton.mp hj, ?_⟩
      by_contra going
      exact p.leaves hn going none
    · obtain ⟨e, he, routes⟩ := Graph.routed_last (nodes.map Node.id) none .null
      rw [routes] at hj
      exact Or.inr (landed he (List.mem_singleton.mp hj))

theorem compiled_isBranch {n : Node} :
    (Graph.compiled nodes edges n).next.isBranch = true → n.kind = .branch := by
  intro h
  by_contra hb
  simp only [Graph.compiled, Next.unset, if_neg hb, Graph.routed_linear] at h
  cases h

theorem published (p : Publishable nodes edges) (named : ∀ n ∈ nodes, n.id ≠ "") :
    (Graph.compile nodes edges).Published (drawn nodes edges).order where
  keyed := Graph.keyed_compile nodes edges
  named k hk := by
    rw [Graph.keys_compile, Graph.keys_ofNodes p.distinct] at hk
    obtain ⟨n, hn, rfl⟩ := List.mem_map.mp hk
    exact named n hn
  start := by
    obtain ⟨n, hn⟩ := p.start
    refine ⟨Graph.compiled nodes edges n, ?_⟩
    rw [Graph.starts, Graph.values_compile p.distinct, List.filter_map]
    exact congrArg (List.map _) hn
  before a b := by
    rintro ⟨m, hm, hb, -⟩
    obtain ⟨n, hn, rfl, rfl⟩ := Graph.compiled_of_node? p.distinct hm
    rcases p.slots hn hb with ⟨hj, -⟩ | ⟨e, he, hs, hj⟩
    · cases hj
    · cases hj
      exact hs ▸ p.before he
  led k m hm j hj := by
    have whole := hm
    obtain ⟨n, hn, rfl, rfl⟩ := Graph.compiled_of_node? p.distinct hm
    rcases p.slots hn hj with ⟨rfl, final⟩ | ⟨e, he, hs, rfl⟩
    · exact Or.inl ⟨rfl, by simp [CompiledNode.isEnd, Graph.compiled, final]⟩
    · obtain ⟨t, ht, hi⟩ := List.mem_map.mp (p.joined e he).2
      refine Or.inr ⟨e.target, rfl, _, whole, hj, ?_⟩
      rw [← hi, Graph.node?_compiled p.distinct ht]
      rfl
  conditions k m hm hb := by
    obtain ⟨n, hn, rfl, rfl⟩ := Graph.compiled_of_node? p.distinct hm
    have hb := compiled_isBranch hb
    obtain ⟨c, hc, full⟩ := p.conditions n hn hb
    exact ⟨c, hc, Group.groups_filled.mpr full, Group.forall_fields.mpr (p.causal n hn hb c hc)⟩

end Publishable

theorem Draft.Accepts.published {ids : IdSupply} {nodes edges : List Json} {ns : List Node}
    {es : List Edge} (h : Draft.Accepts ids nodes edges ns es) :
    (Graph.compile ns es).Published (drawn ns es).order :=
  h.2.2.published (Draft.named_of_read h.1)

/-- What was accepted is compiled, whatever ids the edges that give none get this time. -/
theorem Draft.Accepts.compiled {ids : IdSupply} {nodes edges : List Json} {ns : List Node}
    {es : List Edge} (h : Draft.Accepts ids nodes edges ns es) (ids' : IdSupply) :
    (Graph.compileRaw ids' nodes edges).result = .ok (Graph.compile ns es) :=
  Graph.compileRaw_read h.1 h.2.1 ids'

end Questionnaire
