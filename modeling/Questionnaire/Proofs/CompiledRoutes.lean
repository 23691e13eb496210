import Mathlib.Data.List.Nodup
import Questionnaire.Graph.Compile

namespace Questionnaire.Graph
open Ordered

/-- Every key stands once, and the node under it has it as id. -/
structure Keyed (g : Graph) : Prop where
  nodup : (keys g).Nodup
  named : ∀ k n, g.node? k = some n → n.id = k

theorem mem_keys {g : Graph} {k : String} : k ∈ keys g ↔ (g.node? k).isSome = true :=
  Ordered.mem_keys

theorem key_of_node? {g : Graph} {k : String} {n : CompiledNode} (h : g.node? k = some n) :
    k ∈ keys g := mem_keys.mpr (by rw [h]; rfl)

/-- Where keys stand once, the nodes of a graph are those that the keys lead to. -/
theorem values_eq {g : Graph} (h : (keys g).Nodup) :
    g.map Prod.snd = (keys g).filterMap g.node? := by
  induction g with
  | nil => rfl
  | cons e g ih =>
    obtain ⟨l, v⟩ := e
    obtain ⟨hl, hg⟩ := List.nodup_cons.mp h
    have own : (keys g).filterMap (node? ((l, v) :: g)) = (keys g).filterMap (node? g) := by
      refine List.filterMap_congr fun k hk => ?_
      have hne : k ≠ l := fun same => hl (same ▸ hk)
      simp [node?, lookup_entry, hne]
    have hv : node? ((l, v) :: g) l = some v := by simp [node?]
    rw [show keys ((l, v) :: g) = l :: keys g from rfl, List.filterMap_cons_some hv, own, ← ih hg]
    rfl

theorem Keyed.value_found {g : Graph} (h : g.Keyed) {n : CompiledNode} (hn : n ∈ g.map Prod.snd) :
    g.node? n.id = some n := by
  rw [values_eq h.nodup] at hn
  obtain ⟨k, -, hk⟩ := List.mem_filterMap.mp hn
  rw [h.named k n hk, hk]

theorem Keyed.addNode {g : Graph} (h : g.Keyed) (n : Node) : (g.addNode n).Keyed where
  nodup := by
    rw [Graph.addNode, keys_put]
    split
    · exact h.nodup
    · rename_i hn
      rw [← List.concat_eq_append]
      exact .concat hn h.nodup
  named k m hm := by
    rw [Graph.addNode, node?, lookup_put] at hm
    split at hm
    · cases hm
      rename_i hk
      exact hk.symm
    · exact h.named k m hm

theorem Keyed.addEdge {g : Graph} (h : g.Keyed) (e : Edge) : (g.addEdge e).Keyed where
  nodup := by
    rw [Graph.addEdge, keys_modify]
    exact h.nodup
  named k m hm := by
    rw [Graph.addEdge, node?, lookup_modify] at hm
    split at hm
    · obtain ⟨n, hn, rfl⟩ := Option.map_eq_some_iff.mp hm
      exact h.named k n hn
    · exact h.named k m hm

theorem keyed_ofNodes (nodes : List Node) : (ofNodes nodes).Keyed := by
  have fold (g : Graph) (h : g.Keyed) : (nodes.foldl addNode g).Keyed := by
    induction nodes generalizing g with
    | nil => exact h
    | cons n ns ih => exact ih _ (h.addNode n)
  exact fold [] ⟨List.nodup_nil, by simp [node?]⟩

theorem keyed_compile (nodes : List Node) (edges : List Edge) : (compile nodes edges).Keyed := by
  have fold (g : Graph) (h : g.Keyed) : (edges.foldl addEdge g).Keyed := by
    induction edges generalizing g with
    | nil => exact h
    | cons e es ih => exact ih _ (h.addEdge e)
  exact fold _ (keyed_ofNodes nodes)

/-- Of several nodes with one id the last is the one that is kept. -/
theorem node?_ofNodes (nodes : List Node) (k : String) :
    (ofNodes nodes).node? k = (nodes.reverse.find? (·.id == k)).map ofNode := by
  have fold (g : Graph) : (nodes.foldl addNode g).node? k
      = ((nodes.reverse.find? (·.id == k)).map ofNode).or (g.node? k) := by
    induction nodes generalizing g with
    | nil => rfl
    | cons n ns ih =>
      rw [List.foldl_cons, ih, List.reverse_cons, List.find?_append]
      cases hf : ns.reverse.find? (·.id == k) with
      | some m => rfl
      | none =>
        by_cases hk : k = n.id
        · simp [node?, Graph.addNode, lookup_put, hk]
        · have hne : ¬ n.id = k := fun same => hk same.symm
          simp [node?, Graph.addNode, lookup_put, hk, hne]
  rw [ofNodes, fold []]
  simp [node?]

/-- Keys come in the order in which ids first come. -/
theorem keys_ofNodes {nodes : List Node} (h : (nodes.map Node.id).Nodup) :
    keys (ofNodes nodes) = nodes.map Node.id := by
  have fold (g : Graph) (hd : (keys g ++ nodes.map Node.id).Nodup) :
      keys (nodes.foldl addNode g) = keys g ++ nodes.map Node.id := by
    induction nodes generalizing g with
    | nil => simp
    | cons n ns ih =>
      have hn : n.id ∉ keys g := fun hk =>
        (List.nodup_append.mp hd).2.2 n.id hk n.id (by simp) rfl
      have hk : keys (g.addNode n) = keys g ++ [n.id] := by
        rw [Graph.addNode, keys_put, if_neg hn]
      have hs : keys (g.addNode n) ++ ns.map Node.id = keys g ++ (n :: ns).map Node.id := by
        rw [hk]
        simp
      rw [List.foldl_cons, ih (List.nodup_cons.mp h).2 _ (by rwa [hs]), hs]
  exact fold [] (by simpa [keys] using h)

theorem keys_compile (nodes : List Node) (edges : List Edge) :
    keys (compile nodes edges) = keys (ofNodes nodes) := by
  have fold (g : Graph) : keys (edges.foldl addEdge g) = keys g := by
    induction edges generalizing g with
    | nil => rfl
    | cons e es ih => rw [List.foldl_cons, ih, Graph.addEdge, keys_modify]
  exact fold _

/-- Where an edge leads to among nodes with these ids. -/
def landing (ids : List String) (e : Edge) : Json :=
  if e.target ∈ ids then .str e.target else .null

/-- What the edges out of one node make of its routes. -/
def routed (ids : List String) (edges : List Edge) (next : Next) : Next :=
  edges.foldl (fun next e => setRoute e.sourceHandle (landing ids e) next) next

theorem target_eq (g : Graph) (e : Edge) : g.target e = landing (keys g) e := by
  have hk : hasKey g e.target = true ↔ e.target ∈ keys g := mem_keys.symm
  by_cases h : e.target ∈ keys g
  · simp [target, landing, h, hk.mpr h]
  · have hn : hasKey g e.target = false := by
      rw [← Bool.not_eq_true, hk]
      exact h
    simp [target, landing, h, hn]

/-- Each node gets its routes from its own edges. -/
theorem node?_compile (nodes : List Node) (edges : List Edge) (k : String) :
    (compile nodes edges).node? k = ((ofNodes nodes).node? k).map fun n =>
      { n with next := routed (keys (ofNodes nodes)) (edges.filter (·.source == k)) n.next } := by
  have fold (g : Graph) : (edges.foldl addEdge g).node? k = (g.node? k).map fun n =>
      { n with next := routed (keys g) (edges.filter (·.source == k)) n.next } := by
    induction edges generalizing g with
    | nil => simp [routed]
    | cons e es ih =>
      rw [List.foldl_cons, ih, show keys (g.addEdge e) = keys g by rw [Graph.addEdge, keys_modify],
        node?, Graph.addEdge, lookup_modify]
      by_cases hk : k = e.source
      · subst hk
        rw [if_pos rfl, Option.map_map, target_eq]
        simp [routed, node?, Function.comp_def]
      · have hne : (e.source == k) = false := beq_false_of_ne fun same => hk same.symm
        rw [if_neg hk]
        simp [hne, node?]
  exact fold _

/-- Where the last of these edges leads to; without edges the route stays. -/
def lastLanding (ids : List String) (edges : List Edge) (route : Json) : Json :=
  (edges.getLast?.map (landing ids)).getD route

theorem lastLanding_cons (ids : List String) (e : Edge) (es : List Edge) (route : Json) :
    lastLanding ids (e :: es) route = lastLanding ids es (landing ids e) := by
  rw [lastLanding, lastLanding, List.getLast?_cons]
  cases es.getLast? <;> rfl

/-- The last edge out of a node with one route sets the route. -/
theorem routed_linear (ids : List String) (edges : List Edge) (route : Json) :
    routed ids edges (.linear route) = .linear (lastLanding ids edges route) := by
  induction edges generalizing route with
  | nil => rfl
  | cons e es ih => rw [routed, List.foldl_cons, ← routed, setRoute, ih, lastLanding_cons]

/-- The last edge with the handle "true" sets the one route of a branch, the last with the handle
"false" the other. -/
theorem routed_branch (ids : List String) (edges : List Edge) (onTrue onFalse : Json) :
    routed ids edges (.branch onTrue onFalse) = .branch
      (lastLanding ids (edges.filter (·.sourceHandle == some "true")) onTrue)
      (lastLanding ids (edges.filter (·.sourceHandle == some "false")) onFalse) := by
  induction edges generalizing onTrue onFalse with
  | nil => rfl
  | cons e es ih =>
    rw [routed, List.foldl_cons, ← routed, setRoute]
    by_cases ht : e.sourceHandle = some "true"
    · rw [if_pos ht, ih]
      simp [ht, lastLanding_cons]
    · by_cases hf : e.sourceHandle = some "false"
      · rw [if_neg ht, if_pos hf, ih]
        simp [hf, lastLanding_cons]
      · rw [if_neg ht, if_neg hf, ih]
        simp [ht, hf]

/-- Branches have two routes, all other nodes have one. -/
theorem isBranch_compile {nodes : List Node} {edges : List Edge} {k : String} {n : CompiledNode}
    (found : (compile nodes edges).node? k = some n) :
    n.next.isBranch = true ↔ n.kind = .branch := by
  rw [node?_compile, node?_ofNodes, Option.map_map] at found
  obtain ⟨m, -, rfl⟩ := Option.map_eq_some_iff.mp found
  by_cases branch : m.kind = .branch
  · simp [ofNode, Next.unset, branch, routed_branch, Next.isBranch]
  · simp [ofNode, Next.unset, branch, routed_linear, Next.isBranch]

/-- Where keys stand once, a graph is known from its keys and what they lead to. -/
theorem eq_of_node? {g g' : Graph} (nodup : (keys g).Nodup) (same : keys g = keys g')
    (h : ∀ k, g.node? k = g'.node? k) : g = g' := by
  have values : g.map Prod.snd = g'.map Prod.snd := by
    rw [values_eq nodup, values_eq (same ▸ nodup), same]
    exact List.filterMap_congr fun k _ => h k
  exact (List.zip_of_prod same values).trans (List.zip_of_prod rfl rfl).symm

end Questionnaire.Graph
