import Questionnaire.Proofs.PublishedGraph
import Questionnaire.Proofs.SameWalk

namespace Questionnaire

/-- The node without a way on, if it is an end. -/
def CompiledNode.closed (n : CompiledNode) : CompiledNode :=
  if n.isEnd then { n with next := .linear .null } else n

namespace CompiledNode

@[simp] theorem closed_id (n : CompiledNode) : n.closed.id = n.id := by
  unfold closed
  split <;> rfl

@[simp] theorem closed_kind (n : CompiledNode) : n.closed.kind = n.kind := by
  unfold closed
  split <;> rfl

@[simp] theorem closed_data (n : CompiledNode) : n.closed.data = n.data := by
  unfold closed
  split <;> rfl

theorem closed_of_going {n : CompiledNode} (h : n.isEnd = false) : n.closed = n := by
  simp [closed, h]

theorem closed_of_end {n : CompiledNode} (h : n.isEnd = true) :
    n.closed = { n with next := .linear .null } := by
  simp [closed, h]

end CompiledNode

/-- Some end among the nodes has this id. -/
def endsAt (nodes : List Node) (id : String) : Bool :=
  nodes.any fun n => n.kind == .ending && n.id == id

theorem endsAt_id {nodes : List Node} (distinct : (nodes.map Node.id).Nodup) {n : Node}
    (hn : n ∈ nodes) : endsAt nodes n.id = true ↔ n.kind = .ending := by
  simp only [endsAt, List.any_eq_true, Bool.and_eq_true, beq_iff_eq]
  constructor
  · intro ⟨m, hm, final, same⟩
    rw [← List.inj_on_of_nodup_map distinct hm hn same]
    exact final
  · intro final
    exact ⟨n, hn, final, rfl⟩

namespace Graph

theorem keys_mapNodes (f : CompiledNode → CompiledNode) (g : Graph) :
    Ordered.keys (g.mapNodes f) = Ordered.keys g := by
  simp [Ordered.keys, mapNodes]

section

variable {nodes : List Node} (distinct : (nodes.map Node.id).Nodup) (edges : List Edge)
include distinct

theorem compiled_closed {n : Node} (hn : n ∈ nodes) :
    compiled nodes (edges.filter fun e => !endsAt nodes e.source) n
      = (compiled nodes edges n).closed := by
  have ends := endsAt_id distinct hn
  unfold compiled
  rw [List.filter_filter]
  by_cases final : n.kind = .ending
  · have left : (edges.filter fun e => e.source == n.id && !endsAt nodes e.source) = [] := by
      apply List.filter_eq_nil_iff.mpr
      intro e _
      by_cases source : e.source = n.id <;> simp [source, ends.mpr final]
    rw [left, CompiledNode.closed_of_end (by simp [CompiledNode.isEnd, final])]
    simp [routed, Next.unset, final]
  · have going : endsAt nodes n.id = false := by simpa using mt ends.mp final
    have kept : (edges.filter fun e => e.source == n.id && !endsAt nodes e.source)
        = edges.filter (·.source == n.id) := by
      apply List.filter_congr
      intro e _
      by_cases source : e.source = n.id <;> simp [source, going]
    rw [kept, CompiledNode.closed_of_going (by simp [CompiledNode.isEnd, final])]

/-- Without the edges that leave ends, ends have no way on, and all else stays as it is. -/
theorem compile_closed : compile nodes (edges.filter fun e => !endsAt nodes e.source)
    = (compile nodes edges).mapNodes CompiledNode.closed := by
  have listed (edges : List Edge) : Ordered.keys (compile nodes edges) = nodes.map Node.id :=
    (keys_compile nodes edges).trans (keys_ofNodes distinct)
  apply eq_of_node? (keyed_compile _ _).nodup
  · rw [keys_mapNodes, listed, listed]
  · intro k
    rw [node?_mapNodes]
    by_cases known : k ∈ nodes.map Node.id
    · obtain ⟨n, hn, rfl⟩ := List.mem_map.mp known
      rw [node?_compiled distinct hn, node?_compiled distinct hn, compiled_closed distinct _ hn]
      rfl
    · have missing (edges : List Edge) : (compile nodes edges).node? k = none :=
        Ordered.lookup_eq_none.mpr (by rwa [listed])
      rw [missing, missing]
      rfl

end

end Graph

namespace Node

theorem ReadFrom.named {j : Json} {n : Node} (h : ReadFrom j n) :
    j.getD "type" = .str n.kind.tag ∧ j.getD "id" = .str n.id := by
  obtain ⟨es, id, rfl, hid, -, read⟩ := h
  have own := ofJson_id hid (read id)
  have read := read id
  rw [ofJson] at read
  split at read
  · rename_i kind hk
    rw [Checked.within_ok, ofEntries, Checked.both_ok] at read
    obtain ⟨⟨id', position⟩, data, -, -, rfl⟩ := read
    rw [kindOf] at hk
    split at hk
    · cases hk
    · rename_i v hv
      dsimp only at hk
      split at hk
      · rename_i t
        cases ht : NodeKind.ofTag? t with
        | none => simp [ht] at hk
        | some k =>
          rw [ht] at hk
          cases hk
          have tag : kind.tag = t := by simpa using List.find?_some ht
          refine ⟨?_, ?_⟩
          · rw [tag]
            simp [Json.getD, Json.get?, hv]
          · simp [Json.getD, Json.get?, hid, ← own]
      · cases hk
  · cases read

end Node

/-- Some document among these describes an end, and the edge leaves it. -/
def leavesEnd (nodes : List Json) (edge : Json) : Bool :=
  nodes.any fun n => n.getD "type" == .str "end" && n.getD "id" == edge.getD "source"

theorem Edge.RoutedFrom.source {j : Json} {route : String × String × Option String}
    (h : Edge.RoutedFrom j route) : j.getD "source" = .str route.1 := by
  obtain ⟨e, he, rfl⟩ := h ""
  cases j with
  | obj es =>
    obtain ⟨⟨id, source, target, handle, targetHandle, type⟩, read, rfl⟩ := Checked.map_ok.mp he
    obtain ⟨_, _, -, read, same⟩ := Checked.both_ok.mp read
    cases same
    obtain ⟨_, _, read, -, same⟩ := Checked.both_ok.mp read
    cases same
    have used : (Spelling.plain "source").used es = "source" := ite_self _
    simp only [Part.required, Part.fieldOr, used] at read
    split at read
    · rename_i v hv
      have text := Checked.within_ok.mp read
      cases v <;> cases text
      simp [Json.getD, Json.get?, hv, Edge.route]
    · cases read
  | _ => cases he

theorem leavesEnd_read {nodes : List Json} {ns : List Node} {j : Json}
    {route : String × String × Option String} (hn : List.Forall₂ Node.ReadFrom nodes ns)
    (hj : Edge.RoutedFrom j route) : leavesEnd nodes j = endsAt ns route.1 := by
  unfold leavesEnd endsAt
  rw [hj.source]
  induction hn with
  | nil => rfl
  | @cons _ n _ _ h _ ih =>
    obtain ⟨type, id⟩ := h.named
    have final : n.kind.tag = "end" ↔ n.kind = .ending :=
      ⟨fun same => NodeKind.tag_injective same, fun same => by rw [same]; rfl⟩
    rw [List.any_cons, List.any_cons, ih, type, id]
    congr 1
    rw [Bool.eq_iff_iff]
    simp [final]

/-- What is read of a design without those of its edges that leave ends is compiled to the graph in
which ends have no way on. -/
theorem Draft.Accepts.compiled_closed {ids : IdSupply} {nodes edges : List Json} {ns : List Node}
    {es : List Edge} (h : Draft.Accepts ids nodes edges ns es) (ids' : IdSupply) :
    (Graph.compileRaw ids' nodes (edges.filter fun e => !leavesEnd nodes e)).result
      = .ok ((Graph.compile ns es).mapNodes CompiledNode.closed) := by
  obtain ⟨read, attempted, p⟩ := h
  have kept : List.Forall₂ Edge.RoutedFrom (edges.filter fun e => !leavesEnd nodes e)
      ((es.map Edge.route).filter fun route => !endsAt ns route.1) := by
    refine List.rel_filter ?_ (Reader.routes_attempted attempted)
    intro j route hj
    dsimp only
    rw [leavesEnd_read read hj]
  obtain ⟨es', attempted', same⟩ := Reader.attempts_routed kept ids
  rw [Graph.compileRaw_read read attempted' ids', ← Graph.compile_closed p.distinct]
  congr 1
  apply Graph.compile_congr
  rw [same, List.filter_map]
  rfl

end Questionnaire
