import Mathlib.Data.List.Chain
import Questionnaire.Proofs.NextCases
import Questionnaire.Route.Trace

namespace Questionnaire
open Relation

/-- The ids of the nodes, which need not be their keys. -/
def Graph.ids (g : Graph) : List String := g.map fun (_, n) => n.id

theorem Graph.id_mem_ids {g : Graph} {n : CompiledNode} (h : n ∈ g.map Prod.snd) :
    n.id ∈ g.ids := by
  obtain ⟨entry, member, rfl⟩ := List.mem_map.mp h
  exact List.mem_map.mpr ⟨entry, member, rfl⟩

theorem Graph.id_mem_ids_of_node? {g : Graph} {k : String} {n : CompiledNode}
    (h : g.node? k = some n) : n.id ∈ g.ids :=
  id_mem_ids (List.mem_map.mpr ⟨(k, n), Ordered.mem_of_lookup h, rfl⟩)

namespace Engine

/-- The walk entered the nodes of the path one after another, with these events, and the last of
these nodes led on to the node that comes now. -/
inductive Enters (e : Engine) (r : Json) : List CompiledNode → List Event → CompiledNode → Prop
  | start {n} : e.startNode = .ok n → Enters e r [] [] n
  | next {path evs more n m} (before : Enters e r path evs n)
      (new : n.id ∉ path.map CompiledNode.id) (going : n.isEnd = false)
      (move : e.next r n.id = ⟨more, .ok (some m)⟩) :
      Enters e r (path ++ [n]) (evs ++ .enter n.id :: more) m

/-- How a walk ends at the node that comes after this path. -/
inductive Ends (e : Engine) (r : Json) (path : List CompiledNode) (n : CompiledNode) :
    Walk (List CompiledNode) → Prop
  | revisit : n.id ∈ path.map CompiledNode.id →
      Ends e r path n ⟨[], .error (.revisit n.id (path.map CompiledNode.id))⟩
  | ending : n.id ∉ path.map CompiledNode.id → n.isEnd = true →
      Ends e r path n ⟨[.enter n.id], .ok (path ++ [n])⟩
  | loose {more} : n.id ∉ path.map CompiledNode.id → n.isEnd = false →
      e.next r n.id = ⟨more, .ok none⟩ → Ends e r path n ⟨.enter n.id :: more, .ok (path ++ [n])⟩
  | failed {more x} : n.id ∉ path.map CompiledNode.id → n.isEnd = false →
      e.next r n.id = ⟨more, .error x⟩ → Ends e r path n ⟨.enter n.id :: more, .error x⟩

theorem startNode_ok {e : Engine} {n : CompiledNode} (h : e.startNode = .ok n) :
    e.graph.starts = [n] := by
  rw [startNode] at h
  split at h
  · cases h
  · rename_i m hm
    cases h
    exact hm
  · cases h

theorem startNode_mem {e : Engine} {n : CompiledNode} (h : e.startNode = .ok n) :
    n ∈ e.graph.map Prod.snd := by
  have started : n ∈ e.graph.starts := by simp [startNode_ok h]
  exact List.mem_of_mem_filter started

/-- Only nodes of the graph are shown next. -/
theorem next_id_mem {e : Engine} {r : Json} {k : String} {m : CompiledNode}
    (h : (e.next r k).result = .ok (some m)) : m.id ∈ e.graph.ids := by
  obtain ⟨b, -, hb⟩ := next_ahead h
  exact Graph.id_mem_ids_of_node? hb

theorem trace_ok {e : Engine} {r : Json} {t : Trace} :
    e.trace r = .ok t ↔ e.walk r = ⟨t.events, .ok t.path⟩ := by
  rw [trace]
  obtain ⟨path, evs⟩ := t
  match e.walk r with
  | ⟨more, .error x⟩ => simp [Except.map]
  | ⟨more, .ok p⟩ => simp [Except.map, and_comm]

theorem trace_error {e : Engine} {r : Json} {x : WalkError} :
    e.trace r = .error x ↔ (e.walk r).result = .error x := by
  rw [trace]
  cases (e.walk r).result <;> simp [Except.map]

section

variable {e : Engine} {r : Json} {path : List CompiledNode} {evs : List Event} {n : CompiledNode}

theorem nodup_entered (h : (path.map CompiledNode.id).Nodup)
    (new : n.id ∉ path.map CompiledNode.id) : ((path ++ [n]).map CompiledNode.id).Nodup := by
  rw [List.map_append, List.map_singleton, ← List.concat_eq_append]
  exact .concat new h

theorem Enters.nodup (h : Enters e r path evs n) : (path.map CompiledNode.id).Nodup := by
  induction h with
  | start => exact List.nodup_nil
  | next _ new _ _ ih => exact nodup_entered ih new

theorem Enters.started (h : Enters e r path evs n) : ∃ start, e.startNode = .ok start ∧
    (path ++ [n]).head? = some start := by
  induction h with
  | start hs => exact ⟨_, hs, rfl⟩
  | next _ _ _ _ ih =>
    obtain ⟨start, hs, first⟩ := ih
    exact ⟨start, hs, by rw [List.head?_append, first, Option.some_or]⟩

/-- Each node of the path is the one that the search finds after the node before. -/
def Onward (e : Engine) (r : Json) (path : List CompiledNode) : Prop :=
  path.IsChain fun n m => (e.next r n.id).result = .ok (some m)

theorem Enters.onward (h : Enters e r path evs n) : e.Onward r (path ++ [n]) := by
  induction h with
  | start => exact List.isChain_singleton _
  | next _ _ _ move ih =>
    refine List.IsChain.append ih (List.isChain_singleton _) ?_
    intro a ha b hb
    simp only [List.getLast?_concat, List.head?_cons, Option.mem_some_iff] at ha hb
    subst ha hb
    exact congrArg Walk.result move

/-- Each node that comes is one of the graph, under its own id. -/
theorem Enters.found (hg : e.graph.Keyed) (h : Enters e r path evs n) :
    e.graph.node? n.id = some n := by
  cases h with
  | start hs => exact hg.value_found (startNode_mem hs)
  | next _ _ _ move =>
    obtain ⟨b, -, hb⟩ := next_ahead (congrArg Walk.result move)
    rw [hg.named b n hb, hb]

theorem Enters.path_found (hg : e.graph.Keyed) (h : Enters e r path evs n) :
    ∀ m ∈ path ++ [n], e.graph.node? m.id = some m := by
  induction h with
  | start hs =>
    intro m hm
    exact List.mem_singleton.mp hm ▸ (Enters.start (r := r) hs).found hg
  | next before new going move ih =>
    intro m hm
    rcases List.mem_append.mp hm with hm | hm
    · exact ih m hm
    · exact List.mem_singleton.mp hm ▸ (Enters.next before new going move).found hg

/-- Each node of the path is one of the graph, and the one that comes too. -/
theorem Enters.id_mem (h : Enters e r path evs n) :
    n.id ∈ e.graph.ids ∧ path.map CompiledNode.id ⊆ e.graph.ids := by
  induction h with
  | start hs => exact ⟨Graph.id_mem_ids (startNode_mem hs), by simp⟩
  | next _ _ _ move ih =>
    refine ⟨next_id_mem (congrArg Walk.result move), fun k hk => ?_⟩
    rw [List.map_append, List.mem_append] at hk
    rcases hk with hk | hk
    · exact ih.2 hk
    · exact List.mem_singleton.mp hk ▸ ih.1

/-- All nodes before lead to the one that comes. -/
theorem Enters.behind (hg : e.graph.Keyed) (h : Enters e r path evs n) :
    ∀ m ∈ path, TransGen e.graph.Routes m.id n.id := by
  induction h with
  | start => simp
  | next _ _ _ move ih =>
    obtain ⟨b, route, hb⟩ := next_ahead (congrArg Walk.result move)
    obtain rfl := hg.named b _ hb
    intro m hm
    rcases List.mem_append.mp hm with hm | hm
    · exact (ih m hm).trans route
    · exact List.mem_singleton.mp hm ▸ route

/-- No more nodes are entered than there are. -/
theorem Enters.length_le (h : Enters e r path evs n) : path.length ≤ e.graph.length := by
  have := (List.subperm_of_subset h.nodup h.id_mem.2).length_le
  simpa [Graph.ids] using this

/-- The walk with its fuel is where the relation says it is. -/
theorem Enters.walk (h : Enters e r path evs n) : e.walk r =
    ⟨evs ++ (e.traceFrom r (e.graph.length + 1 - path.length) path n).events,
      (e.traceFrom r (e.graph.length + 1 - path.length) path n).result⟩ := by
  induction h with
  | start hs =>
    rw [Engine.walk, hs]
    rfl
  | @next path evs more n m before new going move ih =>
    have full := (Enters.next before new going move).length_le
    have step : e.graph.length + 1 - path.length
        = (e.graph.length + 1 - (path ++ [n]).length) + 1 := by
      simp at full ⊢
      omega
    have fresh : path.any (·.id == n.id) = false := by simpa using new
    rw [ih, step, traceFrom, move]
    simp [fresh, going]

theorem Ends.walk {w : Walk (List CompiledNode)} (h : Enters e r path evs n)
    (he : Ends e r path n w) : e.walk r = ⟨evs ++ w.events, w.result⟩ := by
  have hl := h.length_le
  have step : e.graph.length + 1 - path.length = (e.graph.length - path.length) + 1 := by omega
  rw [h.walk, step, traceFrom]
  have fresh (new : n.id ∉ path.map CompiledNode.id) : path.any (·.id == n.id) = false := by
    simpa using new
  cases he with
  | revisit seen =>
    have seen : path.any (·.id == n.id) = true := by simpa using seen
    simp only [seen, ↓reduceIte]
  | ending new final => simp [fresh new, final]
  | loose new going move => simp [fresh new, going, move]
  | failed new going move => simp [fresh new, going, move]

theorem Enters.ends (h : Enters e r path evs n) :
    ∃ path evs n w, Enters e r path evs n ∧ Ends e r path n w := by
  generalize hk : e.graph.length - path.length = k
  induction k using Nat.strongRecOn generalizing path evs n with
  | ind k ih =>
    by_cases new : n.id ∈ path.map CompiledNode.id
    · exact ⟨path, evs, n, _, h, .revisit new⟩
    · cases going : n.isEnd with
      | true => exact ⟨path, evs, n, _, h, .ending new going⟩
      | false =>
        match move : e.next r n.id with
        | ⟨more, .error x⟩ => exact ⟨path, evs, n, _, h, .failed new going move⟩
        | ⟨more, .ok none⟩ => exact ⟨path, evs, n, _, h, .loose new going move⟩
        | ⟨more, .ok (some m)⟩ =>
          have further := Enters.next h new going move
          have := further.length_le
          simp only [List.length_append, List.length_singleton] at this
          exact ih _ (by simp; omega) further rfl

end

/-- A walk that has a start enters nodes until it ends. -/
theorem walk_cases (e : Engine) (r : Json) :
    (∃ x, e.startNode = .error x ∧ e.walk r = ⟨[], .error x⟩) ∨
      ∃ path evs n w, Enters e r path evs n ∧ Ends e r path n w ∧
        e.walk r = ⟨evs ++ w.events, w.result⟩ := by
  cases hs : e.startNode with
  | error x => exact Or.inl ⟨x, rfl, by rw [walk, hs]⟩
  | ok n =>
    obtain ⟨path, evs, n, w, h, he⟩ := (Enters.start (r := r) hs).ends
    exact Or.inr ⟨path, evs, n, w, h, he, he.walk h⟩

/-- A walk that does not fail enters nodes one after another, and stops after the last one at once,
at an end, or because the search finds no node. -/
theorem trace_cases {e : Engine} {r : Json} {t : Trace} (h : e.trace r = .ok t) :
    ∃ path evs n more, Enters e r path evs n ∧ n.id ∉ path.map CompiledNode.id ∧
      t.path = path ++ [n] ∧ t.events = evs ++ .enter n.id :: more ∧
      ((n.isEnd = true ∧ more = []) ∨ (n.isEnd = false ∧ e.next r n.id = ⟨more, .ok none⟩)) := by
  rw [trace_ok] at h
  rcases walk_cases e r with ⟨x, -, hw⟩ | ⟨path, evs, n, w, before, last, hw⟩
  · rw [h] at hw
    cases congrArg Walk.result hw
  · rw [h] at hw
    have events := congrArg Walk.events hw
    have result := congrArg Walk.result hw
    cases last with
    | revisit _ => cases result
    | failed _ _ _ => cases result
    | ending new final =>
      exact ⟨path, evs, n, [], before, new, Except.ok.inj result, events, .inl ⟨final, rfl⟩⟩
    | loose new going move =>
      exact ⟨path, evs, n, _, before, new, Except.ok.inj result, events, .inr ⟨going, move⟩⟩

end Engine
end Questionnaire
