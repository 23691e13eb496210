import Questionnaire.Proofs.WalkCases

namespace Questionnaire

/-- The node with other data. -/
def CompiledNode.mapData (f : NodeData → NodeData) (n : CompiledNode) : CompiledNode :=
  { n with data := f n.data }

namespace Graph

/-- The graph with other nodes under its keys. -/
def mapNodes (f : CompiledNode → CompiledNode) (g : Graph) : Graph :=
  g.map fun (key, n) => (key, f n)

def mapData (f : NodeData → NodeData) (g : Graph) : Graph :=
  g.map fun (key, n) => (key, n.mapData f)

theorem node?_mapNodes (f : CompiledNode → CompiledNode) (g : Graph) (k : String) :
    (g.mapNodes f).node? k = (g.node? k).map f := by
  induction g with
  | nil => rfl
  | cons entry g ih =>
    obtain ⟨l, n⟩ := entry
    rw [node?, node?, mapNodes, List.map_cons, Ordered.lookup_entry, Ordered.lookup_entry]
    split
    · rfl
    · exact ih

theorem node?_mapData (f : NodeData → NodeData) (g : Graph) (k : String) :
    (g.mapData f).node? k = (g.node? k).map (CompiledNode.mapData f) :=
  node?_mapNodes (CompiledNode.mapData f) g k

theorem starts_mapNodes {f : CompiledNode → CompiledNode} (kind : ∀ n, (f n).kind = n.kind)
    (g : Graph) : (g.mapNodes f).starts = g.starts.map f := by
  rw [starts, starts, mapNodes, List.map_map, List.filter_map, List.filter_map, List.map_map]
  simp only [Function.comp_def, kind]

end Graph

/-- The same walk with another result where it comes to one. -/
def Walk.map {α β : Type} (f : α → β) (w : Walk α) : Walk β := ⟨w.events, w.result.map f⟩

/-- Whether a node is shown depends on its condition. -/
theorem NodeData.condition_of_skip {d : NodeData} {c : Group} (h : d.skipCondition = some c) :
    d.condition = some c := by
  rw [skipCondition] at h
  split at h
  · cases h
  · exact (Option.filter_eq_some_iff.mp h).1

namespace Engine

def Hop.map (f : CompiledNode → CompiledNode) : Hop → Hop
  | .nowhere => .nowhere
  | .present n => .present (f n)
  | .over key => .over key

/-- The other engine has a node for each one of this, of the same kind and under the same id, and
passes over the same. -/
structure Resembles (e e' : Engine) (r r' : Json) (f : CompiledNode → CompiledNode) : Prop where
  graph : e'.graph = e.graph.mapNodes f
  id : ∀ n, (f n).id = n.id
  kind : ∀ n, (f n).kind = n.kind
  arrives : ∀ k n, e.graph.node? k = some n →
    e'.arrive r' k (f n) = ((e.arrive r k n).1, (e.arrive r k n).2.map f)

/-- The node under this key has the same way on in both. -/
def Keeps (e e' : Engine) (r r' : Json) (f : CompiledNode → CompiledNode) (k : String) : Prop :=
  ∀ n, e.graph.node? k = some n → e'.route r' (f n) = e.route r n

/-- A node that is entered leads on from what the search for the next node tells. -/
theorem next_events_entered {e : Engine} {r : Json} {path : List CompiledNode} {n : CompiledNode}
    (new : n.id ∉ path.map CompiledNode.id) (going : n.isEnd = false) (fuel : Nat) :
    (e.next r n.id).events ⊆ (e.traceFrom r (fuel + 1) path n).events := by
  have fresh : path.any (·.id == n.id) = false := by simpa using new
  rw [traceFrom, fresh, going]
  intro ev member
  rcases move : e.next r n.id with ⟨events, x | _ | m⟩
  · simpa [move] using Or.inr member
  · simpa [move] using Or.inr member
  · simpa [move] using Or.inr (Or.inl member)

namespace Resembles

variable {e e' : Engine} {r r' : Json} {f : CompiledNode → CompiledNode}
  (s : Resembles e e' r r' f)
include s

theorem startNode : e'.startNode = e.startNode.map f := by
  rw [Engine.startNode, Engine.startNode, s.graph, Graph.starts_mapNodes s.kind]
  rcases e.graph.starts with _ | ⟨n, _ | ⟨n', ns⟩⟩
  · rfl
  · rfl
  · have ids : CompiledNode.id ∘ f = CompiledNode.id := funext s.id
    simp only [List.map_cons, List.map_map, s.id, ids]
    rfl

theorem follow (j : Json) : e'.follow j
    = (e.follow j).map (Option.map fun (key, n) => (key, f n)) := by
  cases j with
  | str id =>
    rw [Engine.follow, Engine.follow, s.graph, Graph.node?_mapNodes]
    cases id.isEmpty with
    | true => rfl
    | false => cases e.graph.node? id <;> rfl
  | arr xs => cases xs <;> rfl
  | obj es => cases es <;> rfl
  | _ => rfl

theorem hop {k : String} (keeps : Keeps e e' r r' f k) :
    e'.hop r' k = (e.hop r k).map (Hop.map f) := by
  rw [Engine.hop, Engine.hop, s.graph, Graph.node?_mapNodes]
  cases hn : e.graph.node? k with
  | none => rfl
  | some n =>
    simp only [Option.map_some, keeps n hn]
    rcases e.route r n with ⟨events, x | j⟩
    · rfl
    · simp only [s.follow j]
      rcases hf : e.follow j with x | _ | ⟨b, n⟩
      · rfl
      · rfl
      · obtain ⟨-, -, found⟩ := follow_found.mp hf
        simp only [Except.map, Option.map_some, s.arrives b n found]
        rfl

/-- The search goes the same way as long as what it passes over has the same way on. -/
theorem nextFrom (fuel : Nat) (skipped : List String) {k : String} (keeps : Keeps e e' r r' f k)
    (keeps_skipped : ∀ b, .skip b ∈ (e.nextFrom r fuel skipped k).events →
      .skip b ∈ (e'.nextFrom r' fuel skipped k).events → Keeps e e' r r' f b) :
    e'.nextFrom r' fuel skipped k
      = (e.nextFrom r fuel skipped k).map (Option.map f) := by
  induction fuel generalizing skipped k with
  | zero => rfl
  | succ fuel ih =>
    rw [Engine.nextFrom, Engine.nextFrom, s.hop keeps] at keeps_skipped ⊢
    rcases move : e.hop r k with ⟨events, x | _ | n | b⟩
    · rfl
    · rfl
    · rfl
    · simp only [move, Walk.map, Except.map, Hop.map] at keeps_skipped ⊢
      split
      · rfl
      · rename_i new
        simp only [new] at keeps_skipped
        have here : Keeps e e' r r' f b := keeps_skipped b (by simp) (by simp)
        rw [ih (skipped ++ [b]) here fun c hc hc' => keeps_skipped c (by simp [hc]) (by simp [hc'])]
        rfl

theorem next {k : String} (keeps : Keeps e e' r r' f k)
    (keeps_skipped : ∀ b, .skip b ∈ (e.next r k).events → .skip b ∈ (e'.next r' k).events →
      Keeps e e' r r' f b) :
    e'.next r' k = (e.next r k).map (Option.map f) := by
  have same : e'.graph.length = e.graph.length := by rw [s.graph, Graph.mapNodes, List.length_map]
  rw [Engine.next, Engine.next, same] at keeps_skipped ⊢
  exact s.nextFrom _ _ keeps keeps_skipped

/-- The walk goes the same way as long as what it enters and goes on from, and what it passes over,
has the same way on. -/
theorem traceFrom
    (keeps : ∀ path evs n, Enters e r path evs n → n.isEnd = false → Keeps e e' r r' f n.id)
    (fuel : Nat) {path : List CompiledNode} {evs : List Event} {n : CompiledNode}
    (before : Enters e r path evs n)
    (keeps_skipped : ∀ b, .skip b ∈ (e.traceFrom r fuel path n).events →
      .skip b ∈ (e'.traceFrom r' fuel (path.map f) (f n)).events → Keeps e e' r r' f b) :
    e'.traceFrom r' fuel (path.map f) (f n) = (e.traceFrom r fuel path n).map (List.map f) := by
  have ids (path : List CompiledNode) : (path.map f).map CompiledNode.id
      = path.map CompiledNode.id := by simp [s.id]
  induction fuel generalizing path evs n with
  | zero =>
    rw [Engine.traceFrom, Engine.traceFrom, ids, s.id]
    rfl
  | succ fuel ih =>
    have seen : (path.map f).any (·.id == (f n).id) = path.any (·.id == n.id) := by
      simp [List.any_map, Function.comp_def, s.id]
    have final : (f n).isEnd = n.isEnd := by simp [CompiledNode.isEnd, s.kind]
    by_cases again : n.id ∈ path.map CompiledNode.id
    · have again : path.any (·.id == n.id) = true := by simpa using again
      rw [Engine.traceFrom, Engine.traceFrom, seen, again, ids, s.id]
      rfl
    · have fresh : path.any (·.id == n.id) = false := by simpa using again
      cases going : n.isEnd with
      | true =>
        rw [Engine.traceFrom, Engine.traceFrom, seen, fresh, final, going, s.id]
        simp [Walk.map, Except.map]
      | false =>
        have again' : (f n).id ∉ (path.map f).map CompiledNode.id := by rwa [ids, s.id]
        have onward : e'.next r' n.id = (e.next r n.id).map (Option.map f) := by
          refine s.next (keeps path evs n before going) fun b hb hb' => ?_
          refine keeps_skipped b (next_events_entered again going fuel hb) ?_
          apply next_events_entered again' (final.trans going) fuel
          rwa [s.id]
        rw [Engine.traceFrom, Engine.traceFrom, seen, fresh, final, going, s.id,
          onward] at keeps_skipped ⊢
        rcases move : e.next r n.id with ⟨events, x | _ | m⟩
        · rfl
        · simp [Walk.map, Except.map]
        · have entered : Enters e r (path ++ [n]) _ m := .next before again going move
          have further := ih entered
          rw [List.map_append, List.map_singleton] at further
          simp only [move, Walk.map, Except.map, Option.map_some] at keeps_skipped ⊢
          rw [further fun b hb hb' => keeps_skipped b (by simp [hb]) (by simp [hb'])]
          rfl

/-- So both walks tell the same, and come to nodes for one another. -/
theorem walk
    (keeps : ∀ path evs n, Enters e r path evs n → n.isEnd = false → Keeps e e' r r' f n.id)
    (keeps_skipped : ∀ b, .skip b ∈ (e.walk r).events → .skip b ∈ (e'.walk r').events →
      Keeps e e' r r' f b) : e'.walk r' = (e.walk r).map (List.map f) := by
  have same : e'.graph.length = e.graph.length := by rw [s.graph, Graph.mapNodes, List.length_map]
  rw [Engine.walk, Engine.walk, s.startNode, same] at keeps_skipped ⊢
  cases begun : e.startNode with
  | error x => rfl
  | ok n =>
    rw [begun] at keeps_skipped
    exact s.traceFrom keeps _ (.start begun) keeps_skipped

theorem trace
    (keeps : ∀ path evs n, Enters e r path evs n → n.isEnd = false → Keeps e e' r r' f n.id)
    (keeps_skipped : ∀ b, .skip b ∈ (e.walk r).events → .skip b ∈ (e'.walk r').events →
      Keeps e e' r r' f b) :
    e'.trace r' = (e.trace r).map fun t => ⟨t.path.map f, t.events⟩ := by
  rw [Engine.trace, Engine.trace, s.walk keeps keeps_skipped]
  rcases e.walk r with ⟨events, x | path⟩
  · rfl
  · rfl

end Resembles

/-- The other engine has the nodes of this one, with other data but the same conditions, and on its
answers every condition in the graph has the value that it has here. -/
structure Mirrors (e e' : Engine) (r r' : Json) (f : NodeData → NodeData) : Prop where
  graph : e'.graph = e.graph.mapData f
  condition : ∀ d, (f d).condition = d.condition
  skips : ∀ d, (f d).skipCondition = d.skipCondition
  evaluates : ∀ k n c, e.graph.node? k = some n → n.data.condition = some c →
    e'.evaluate r' c = e.evaluate r c

namespace Mirrors

variable {e e' : Engine} {r r' : Json} {f : NodeData → NodeData} (m : Mirrors e e' r r' f)
include m

theorem arrive {k : String} {n : CompiledNode} (hn : e.graph.node? k = some n) :
    e'.arrive r' k (n.mapData f)
      = ((e.arrive r k n).1, (e.arrive r k n).2.map (CompiledNode.mapData f)) := by
  have same : (n.mapData f).data.skipCondition = n.data.skipCondition := m.skips n.data
  rw [Engine.arrive, Engine.arrive, same]
  cases hc : n.data.skipCondition with
  | none => rfl
  | some c =>
    simp only [m.evaluates k n c hn (NodeData.condition_of_skip hc)]
    rcases e.evaluate r c with ⟨told, x | b⟩
    · rfl
    · cases b <;> rfl

theorem resembles : Resembles e e' r r' (CompiledNode.mapData f) where
  graph := m.graph
  id _ := rfl
  kind _ := rfl
  arrives _ _ hn := m.arrive hn

theorem keeps (k : String) : Keeps e e' r r' (CompiledNode.mapData f) k := by
  intro n hn
  have same : (n.mapData f).data.condition = n.data.condition := m.condition n.data
  rw [Engine.route, Engine.route, same]
  cases hc : n.data.condition with
  | none => rfl
  | some c =>
    have value := m.evaluates k n c hn hc
    cases hb : c.isEmpty with
    | true => simp [Option.filter, hb, CompiledNode.mapData]
    | false => simp [Option.filter, hb, CompiledNode.mapData, value]

theorem next (k : String) :
    e'.next r' k = (e.next r k).map (Option.map (CompiledNode.mapData f)) :=
  m.resembles.next (m.keeps k) fun b _ _ => m.keeps b

/-- What the answers lead to is the same but for the data of the nodes. -/
theorem trace : e'.trace r' = (e.trace r).map fun t =>
    ⟨t.path.map (CompiledNode.mapData f), t.events⟩ :=
  m.resembles.trace (fun _ _ n _ _ => m.keeps n.id) fun b _ _ => m.keeps b

end Mirrors

/-- On answers on which every condition in its graph has the same value, an engine goes the same
way. -/
theorem trace_of_values {e : Engine} {r r' : Json}
    (values : ∀ k n c, e.graph.node? k = some n → n.data.condition = some c →
      e.evaluate r' c = e.evaluate r c) : e.trace r' = e.trace r := by
  have itself : Mirrors e e r r' id :=
    { graph := by simp [Graph.mapData, CompiledNode.mapData]
      condition := fun _ => rfl
      skips := fun _ => rfl
      evaluates := values }
  have whole : CompiledNode.mapData id = id := rfl
  rw [itself.trace, whole]
  cases e.trace r with
  | error x => rfl
  | ok t => simp [Except.map]

end Engine
end Questionnaire
