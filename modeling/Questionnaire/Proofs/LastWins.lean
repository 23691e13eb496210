import Questionnaire.Proofs.KeptEdges

namespace Questionnaire

/-- The last of a list with a property. -/
def IsLast {α : Type} (p : α → Prop) (xs : List α) (x : α) : Prop :=
  ∃ before after, xs = before ++ x :: after ∧ p x ∧ ∀ y ∈ after, ¬ p y

section

variable {α : Type} {p : α → Prop} [DecidablePred p] {xs : List α} {x : α}

/-- What is found last is what is found first from the other end. -/
theorem isLast_iff : IsLast p xs x ↔ xs.reverse.find? (p ·) = some x := by
  rw [List.find?_eq_some_iff_append, IsLast]
  constructor
  · rintro ⟨before, after, rfl, here, none⟩
    exact ⟨decide_eq_true here, after.reverse, before.reverse, by simp, by simpa using none⟩
  · rintro ⟨here, after, before, split, none⟩
    refine ⟨before.reverse, after.reverse, ?_, of_decide_eq_true here, by simpa using none⟩
    rw [← xs.reverse_reverse, split]
    simp

end

/-- Routes are known from what the slots hold. -/
theorem Next.eq_of_entries {next next' : Next} (h : next.entries = next'.entries) :
    next = next' := by
  cases next <;> cases next' <;> simp [entries] at h
  · rw [h]
  · rw [h.1, h.2]

namespace Graph
open Ordered

/-- Where a route leads that these edges can set, among nodes with these ids: to the target of the
last of them, if it is one of the nodes, and nowhere otherwise. -/
inductive Sends (ids : List String) (sets : Edge → Prop) (edges : List Edge) : Json → Prop
  | unset : (∀ e ∈ edges, ¬ sets e) → Sends ids sets edges .null
  | lost {e} : IsLast sets edges e → e.target ∉ ids → Sends ids sets edges .null
  | found {e} : IsLast sets edges e → e.target ∈ ids → Sends ids sets edges (.str e.target)

theorem sends_iff {ids : List String} {sets : Edge → Prop} [DecidablePred sets]
    {edges : List Edge} {route : Json} :
    Sends ids sets edges route ↔ route = lastLanding ids (edges.filter (sets ·)) .null := by
  rw [lastLanding, List.getLast?_filter]
  constructor
  · intro sends
    cases sends with
    | unset none_sets =>
      have unfound : edges.reverse.find? (sets ·) = none := by simpa using none_sets
      rw [unfound]
      rfl
    | lost last outside =>
      rw [isLast_iff.mp last, Option.map_some, Option.getD_some, landing, if_neg outside]
    | found last inside =>
      rw [isLast_iff.mp last, Option.map_some, Option.getD_some, landing, if_pos inside]
  · rintro rfl
    cases last : edges.reverse.find? (sets ·) with
    | none => exact .unset (by simpa using last)
    | some e =>
      rw [Option.map_some, Option.getD_some, landing]
      split
      · rename_i inside
        exact .found (isLast_iff.mpr last) inside
      · rename_i outside
        exact .lost (isLast_iff.mpr last) outside

/-- The graph that these nodes and edges stand for: under each id the last node that has it, with
the routes that the last edges set. -/
structure LastWins (nodes : List Node) (edges : List Edge) (g : Graph) : Prop where
  keys : keys g = (nodes.map Node.id).eraseDups
  entry : ∀ k n, g.node? k = some n → ∃ m, IsLast (·.id = k) nodes m ∧
    n.id = k ∧ n.kind = m.kind ∧ n.data = m.data
  linear : ∀ k n, g.node? k = some n → n.kind ≠ .branch → ∃ route, n.next = .linear route ∧
    Sends (nodes.map Node.id) (·.source = k) edges route
  branch : ∀ k n, g.node? k = some n → n.kind = .branch → ∃ onTrue onFalse,
    n.next = .branch onTrue onFalse ∧
    Sends (nodes.map Node.id) (fun e => e.source = k ∧ e.sourceHandle = some "true") edges onTrue ∧
    Sends (nodes.map Node.id) (fun e => e.source = k ∧ e.sourceHandle = some "false") edges onFalse

/-- Ids in the order in which they first come, those that come again left out. -/
theorem keys_eraseDups (nodes : List Node) :
    keys (ofNodes nodes) = (nodes.map Node.id).eraseDups := by
  have fold (g : Graph) : keys (nodes.foldl addNode g) = keys g ++
      ((nodes.map Node.id).filter fun id => !(keys g).contains id).eraseDups := by
    induction nodes generalizing g with
    | nil => simp
    | cons n ns ih =>
      rw [List.foldl_cons, ih, addNode, keys_put]
      by_cases old : n.id ∈ keys g
      · simp [old]
      · have apart : ((ns.map Node.id).filter fun id => !(keys g ++ [n.id]).contains id) =
            ((ns.map Node.id).filter fun id => !(keys g).contains id).filter (!· == n.id) := by
          rw [List.filter_filter]
          exact List.filter_congr fun id _ => by simp [Bool.and_comm, Bool.beq_eq_decide_eq]
        rw [if_neg old, apart]
        simp [old, List.eraseDups_cons]
  rw [ofNodes, fold []]
  simp [keys]

theorem lastLanding_congr {ids ids' : List String} (same : ∀ id, id ∈ ids ↔ id ∈ ids')
    {edges edges' : List Edge} (targets : edges.map Edge.target = edges'.map Edge.target)
    (route : Json) : lastLanding ids edges route = lastLanding ids' edges' route := by
  have landed (ids : List String) (edges : List Edge) : lastLanding ids edges route =
      ((edges.map Edge.target).getLast?.map fun t => if t ∈ ids then .str t else .null).getD
        route := by
    rw [List.getLast?_map, Option.map_map]
    rfl
  rw [landed, landed, targets]
  simp only [same]

theorem mem_keys_ofNodes {nodes : List Node} {id : String} :
    id ∈ keys (ofNodes nodes) ↔ id ∈ nodes.map Node.id := by
  rw [keys_eraseDups, List.mem_eraseDups]

/-- Each route of a node is what the edges that can set it make of it. -/
theorem sends_routed {nodes : List Node} {edges : List Edge} (sets : Edge → Prop)
    [DecidablePred sets] : Sends (nodes.map Node.id) sets edges
      (lastLanding (keys (ofNodes nodes)) (edges.filter (sets ·)) .null) :=
  sends_iff.mpr (lastLanding_congr (fun _ => mem_keys_ofNodes) rfl _)

/-- Under an id stands the last node that has it. -/
theorem node?_last {nodes : List Node} {edges : List Edge} {k : String} {n : CompiledNode} :
    (compile nodes edges).node? k = some n ↔ ∃ m, IsLast (·.id = k) nodes m ∧
      n = ⟨k, m.kind, m.data,
        routed (keys (ofNodes nodes)) (edges.filter (·.source == k)) (Next.unset m.kind)⟩ := by
  rw [node?_compile, node?_ofNodes, Option.map_map, Option.map_eq_some_iff]
  constructor
  · rintro ⟨m, last, rfl⟩
    have last : IsLast (·.id = k) nodes m := isLast_iff.mpr last
    obtain ⟨-, -, -, rfl, -⟩ := id last
    exact ⟨m, last, rfl⟩
  · rintro ⟨m, last, rfl⟩
    obtain ⟨-, -, -, rfl, -⟩ := id last
    exact ⟨m, isLast_iff.mp last, rfl⟩

theorem filter_handle (k handle : String) (edges : List Edge) :
    (edges.filter (·.source == k)).filter (·.sourceHandle == some handle)
      = edges.filter fun e => e.source = k ∧ e.sourceHandle = some handle := by
  rw [List.filter_filter]
  refine List.filter_congr fun e _ => ?_
  rw [Bool.eq_iff_iff]
  simp [and_comm]

theorem lastWins_compile (nodes : List Node) (edges : List Edge) :
    LastWins nodes edges (compile nodes edges) where
  keys := by rw [keys_compile, keys_eraseDups]
  entry k n found := by
    obtain ⟨m, last, rfl⟩ := node?_last.mp found
    exact ⟨m, last, rfl, rfl, rfl⟩
  linear k n found plain := by
    obtain ⟨m, -, rfl⟩ := node?_last.mp found
    refine ⟨_, ?_, sends_routed (·.source = k)⟩
    rw [Next.unset, if_neg plain, routed_linear]
    rfl
  branch k n found forks := by
    obtain ⟨m, -, rfl⟩ := node?_last.mp found
    refine ⟨_, _, ?_, sends_routed fun e => e.source = k ∧ e.sourceHandle = some "true",
      sends_routed fun e => e.source = k ∧ e.sourceHandle = some "false"⟩
    rw [Next.unset, if_pos forks, routed_branch, filter_handle, filter_handle]

/-- What a route leads to is settled by the edges that set it. -/
theorem Sends.unique {ids : List String} {sets : Edge → Prop} {edges : List Edge}
    {route route' : Json} (h : Sends ids sets edges route) (h' : Sends ids sets edges route') :
    route = route' := by
  classical
  rw [sends_iff.mp h, sends_iff.mp h']

/-- What stands under an id is settled by the nodes and edges. -/
theorem LastWins.unique {nodes : List Node} {edges : List Edge} {g g' : Graph}
    (h : LastWins nodes edges g) (h' : LastWins nodes edges g') {k : String}
    {n n' : CompiledNode} (found : g.node? k = some n) (found' : g'.node? k = some n') :
    n = n' := by
  obtain ⟨m, last, id, kind, data⟩ := h.entry k n found
  obtain ⟨m', last', id', kind', data'⟩ := h'.entry k n' found'
  obtain rfl : m = m' := Option.some.inj ((isLast_iff.mp last).symm.trans (isLast_iff.mp last'))
  have next : n.next = n'.next := by
    by_cases forks : m.kind = .branch
    · obtain ⟨onTrue, onFalse, eq, true, false⟩ := h.branch k n found (kind.trans forks)
      obtain ⟨onTrue', onFalse', eq', true', false'⟩ :=
        h'.branch k n' found' (kind'.trans forks)
      rw [eq, eq', true.unique true', false.unique false']
    · obtain ⟨route, eq, sends⟩ := h.linear k n found (kind ▸ forks)
      obtain ⟨route', eq', sends'⟩ := h'.linear k n' found' (kind' ▸ forks)
      rw [eq, eq', sends.unique sends']
  obtain ⟨id₁, kind₁, data₁, next₁⟩ := n
  obtain ⟨id₂, kind₂, data₂, next₂⟩ := n'
  simp_all

theorem lastWins_iff {nodes : List Node} {edges : List Edge} {g : Graph} :
    LastWins nodes edges g ↔ g = compile nodes edges := by
  constructor
  · intro h
    have h' := lastWins_compile nodes edges
    have same : keys g = keys (compile nodes edges) := h.keys.trans h'.keys.symm
    refine eq_of_node? (same ▸ (keyed_compile nodes edges).nodup) same fun k => ?_
    have present : k ∈ keys g ↔ k ∈ keys (compile nodes edges) := by rw [same]
    rw [mem_keys, mem_keys] at present
    cases found : g.node? k with
    | none =>
      rw [found] at present
      exact (Option.not_isSome_iff_eq_none.mp fun some => nomatch present.mpr some).symm
    | some n =>
      rw [found] at present
      obtain ⟨n', found'⟩ := Option.isSome_iff_exists.mp (present.mp rfl)
      rw [found', h.unique h' found found']
  · rintro rfl
    exact lastWins_compile nodes edges

/-- The targets of the edges that are for this slot of the node with this id, in order. -/
def targetsAt (g : Graph) (k : String) (slot : Slot) (edges : List Edge) : List String :=
  (edges.filter fun e => e.source == k && g.slot? e == some slot).map Edge.target

theorem slot?_ofNodes (nodes : List Node) (edges : List Edge) (e : Edge) :
    (compile nodes edges).slot? e = (ofNodes nodes).slot? e := by
  rw [slot?, slot?, node?_compile]
  cases (ofNodes nodes).node? e.source with
  | none => rfl
  | some n => exact slot?_routed _ _ _ _

theorem targetsAt_lane {g : Graph} {k : String} {n : CompiledNode} (found : g.node? k = some n)
    (slot : Slot) (edges : List Edge) :
    g.targetsAt k slot edges =
      (lane n.next slot (edges.filter (·.source == k))).map Edge.target := by
  have lane_eq : (edges.filter fun e => e.source == k && g.slot? e == some slot)
      = lane n.next slot (edges.filter (·.source == k)) := by
    rw [lane, List.filter_filter]
    refine List.filter_congr fun e _ => ?_
    by_cases own : e.source = k
    · rw [own, Bool.and_comm, Graph.slot?, own, found, Option.bind_some]
    · rw [beq_false_of_ne own]
      simp
  rw [targetsAt, lane_eq]

/-- The targets for each slot, in their order, settle the graph. -/
theorem compile_eq_of_targetsAt {nodes : List Node} {edges edges' : List Edge}
    (same : ∀ k slot, (ofNodes nodes).targetsAt k slot edges'
      = (ofNodes nodes).targetsAt k slot edges) :
    compile nodes edges' = compile nodes edges := by
  refine eq_of_node? (keyed_compile nodes edges').nodup
    ((keys_compile nodes edges').trans (keys_compile nodes edges).symm) fun k => ?_
  rw [node?_compile, node?_compile]
  cases found : (ofNodes nodes).node? k with
  | none => rfl
  | some n =>
    have next : routed (keys (ofNodes nodes)) (edges'.filter (·.source == k)) n.next
        = routed (keys (ofNodes nodes)) (edges.filter (·.source == k)) n.next := by
      refine Next.eq_of_entries ?_
      rw [entries_routed, entries_routed]
      refine List.map_congr_left fun x _ => ?_
      have targets := same k x.1
      rw [targetsAt_lane found, targetsAt_lane found] at targets
      rw [lastLanding_congr (fun _ => Iff.rfl) targets]
    rw [Option.map_some, Option.map_some, next]

theorem Sends.known {ids : List String} {sets : Edge → Prop} {edges : List Edge} {route : Json}
    (h : Sends ids sets edges route) : route = .null ∨ ∃ id ∈ ids, route = .str id := by
  cases h with
  | unset => exact .inl rfl
  | lost => exact .inl rfl
  | found _ inside => exact .inr ⟨_, inside, rfl⟩

/-- A slot leads nowhere or to a node of the graph. -/
theorem LastWins.known {nodes : List Node} {edges : List Edge} {g : Graph}
    (h : LastWins nodes edges g) {k : String} {n : CompiledNode} (found : g.node? k = some n)
    {slot : Slot} {route : Json} (entry : (slot, route) ∈ n.next.entries) :
    route = .null ∨ ∃ id ∈ Ordered.keys g, route = .str id := by
  simp only [h.keys, List.mem_eraseDups]
  by_cases forks : n.kind = .branch
  · obtain ⟨onTrue, onFalse, eq, true, false⟩ := h.branch k n found forks
    rw [eq, Next.entries] at entry
    rcases List.mem_pair.mp entry with same | same
    · exact (Prod.mk.inj same).2 ▸ true.known
    · exact (Prod.mk.inj same).2 ▸ false.known
  · obtain ⟨route', eq, sends⟩ := h.linear k n found forks
    rw [eq, Next.entries] at entry
    exact (Prod.mk.inj (List.mem_singleton.mp entry)).2 ▸ sends.known

/-- Compiling gives the one graph in which the last node under an id and the last edge for a slot
count; its slots lead to nodes of the graph or nowhere, and edges that are for no slot could be
left out. Edges can come in any other order, and with other ids, as long as those for one slot lead
to the same targets in the same order. What is compiled from documents is compiled from what they
read as. -/
theorem compiles_last (nodes : List Node) (edges : List Edge) :
    (∀ g, LastWins nodes edges g ↔ g = compile nodes edges) ∧
    (∀ k n slot route, (compile nodes edges).node? k = some n → (slot, route) ∈ n.next.entries →
      route = .null ∨ ∃ id ∈ Ordered.keys (compile nodes edges), route = .str id) ∧
    compile nodes (edges.filter fun e => ((compile nodes edges).slot? e).isSome)
      = compile nodes edges ∧
    (∀ edges', (∀ k slot, (compile nodes edges).targetsAt k slot edges'
      = (compile nodes edges).targetsAt k slot edges) →
        compile nodes edges' = compile nodes edges) ∧
    ∀ (ids ids' ids'' : IdSupply) (docs docs' : List Json),
      Node.reader.batch ids docs = ⟨nodes, none, ids'⟩ →
      Edge.reader.batch ids' docs' = ⟨edges, none, ids''⟩ →
      (compileRaw ids docs docs').result = .ok (compile nodes edges) := by
  have slots : (compile nodes edges).slot? = (ofNodes nodes).slot? :=
    funext (slot?_ofNodes nodes edges)
  refine ⟨fun g => lastWins_iff, ?_, ?_, ?_, ?_⟩
  · intro k n slot route found entry
    exact (lastWins_compile nodes edges).known found entry
  · refine compile_eq_of_targetsAt fun k slot => ?_
    rw [slots, targetsAt, targetsAt, List.filter_filter]
    refine congrArg (List.map Edge.target) (List.filter_congr fun e _ => ?_)
    cases (ofNodes nodes).slot? e <;> simp
  · intro edges' same
    simp only [targetsAt, slots] at same
    exact compile_eq_of_targetsAt same
  · intro ids ids' ids'' docs docs' readNodes readEdges
    simp only [compileRaw, readNodes, readEdges, compileRead]

/-- A question that was drawn anew as a branch, one of whose routes was drawn anew to a node that is
gone. -/
def redrawn : List Json × List Json :=
  let node (id type : String) : Json := .obj [("id", .str id), ("type", .str type)]
  let edge (handle source target : String) : Json :=
    .obj [("source", .str source), ("target", .str target), ("sourceHandle", .str handle)]
  ([node "a" "start", node "q" "textInput", node "z" "end", node "q" "branch"],
   [edge "out" "a" "q", edge "true" "q" "z", edge "maybe" "q" "a", edge "true" "q" "gone",
    edge "false" "q" "z"])

/-- The route to what is gone leads nowhere, the other one to the end. The first two edges could
come in the other order. -/
theorem compiles_last_redrawn :
    let ids : IdSupply := ⟨toString, 0⟩
    let nodes := (Node.reader.batch ids redrawn.1).items
    let edges := (Edge.reader.batch ids redrawn.2).items
    (compileRaw ids redrawn.1 redrawn.2).result = .ok (compile nodes edges) ∧
    LastWins nodes edges (compile nodes edges) ∧
    ((compile nodes edges).node? "q").map CompiledNode.next = some (.branch .null (.str "z")) ∧
    (∃ id ∈ Ordered.keys (compile nodes edges), Json.str "z" = .str id) ∧
    ∀ e e' es, edges = e :: e' :: es → compile nodes (e' :: e :: es) = compile nodes edges := by
  intro ids nodes edges
  obtain ⟨exact, known, -, reordered, read⟩ := compiles_last nodes edges
  have routes : ((compile nodes edges).node? "q").map CompiledNode.next
      = some (.branch .null (.str "z")) := by decide +kernel
  obtain ⟨n, found, next⟩ := Option.map_eq_some_iff.mp routes
  refine ⟨read ids ids ⟨toString, 5⟩ redrawn.1 redrawn.2 rfl rfl, (exact _).mpr rfl, routes, ?_, ?_⟩
  · have entry : (Slot.onFalse, Json.str "z") ∈ n.next.entries := by rw [next]; decide
    exact (known "q" n .onFalse (.str "z") found entry).resolve_left nofun
  · intro e e' es first
    refine reordered _ fun k slot => ?_
    have sources : edges.map Edge.source = ["a", "q", "q", "q", "q"] := by decide +kernel
    rw [first, List.map_cons, List.map_cons] at sources
    obtain ⟨source, source', -⟩ : e.source = "a" ∧ e'.source = "q" ∧ _ := by simpa using sources
    have apart : e.source ≠ k ∨ e'.source ≠ k := by
      by_cases h : k = "a"
      · exact .inr (by rw [source', h]; decide)
      · exact .inl (by rw [source]; exact fun same => h same.symm)
    rw [first, targetsAt, targetsAt]
    rcases apart with other | other <;> simp [List.filter_cons, other]

end Graph
end Questionnaire
