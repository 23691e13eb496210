import Questionnaire.Proofs.DesignRead

namespace Questionnaire

namespace Reader

variable {α : Type} {r : Reader α}

/-- A list of results is a result where each of them is. -/
theorem go_ok {i : Nat} {results : List (Checked α)} {as : List α} :
    list.go i results = .ok as ↔ results = as.map .ok := by
  induction results generalizing i as with
  | nil =>
    rw [list.go, List.nil_eq, List.map_eq_nil_iff]
    exact ⟨fun h => (Except.ok.inj h).symm, fun h => h ▸ rfl⟩
  | cons x xs ih =>
    rw [list.go, Checked.both_ok]
    constructor
    · rintro ⟨a, as, first, rest, rfl⟩
      rw [Checked.within_ok.mp first, ih.mp rest, List.map_cons]
    · intro h
      obtain ⟨a, as, rfl, first, rest⟩ := List.map_eq_cons_iff.mp h.symm
      exact ⟨a, as, Checked.within_ok.mpr first.symm, ih.mpr rest.symm, rfl⟩

/-- Documents that all read one by one are read as a batch, and take the same new ids. -/
theorem batch_attempts {ids ids' : IdSupply} {js : List Json} {as : List α}
    (h : r.attempts ids js = (as.map .ok, ids')) : r.batch ids js = ⟨as, none, ids'⟩ := by
  induction js generalizing ids as with
  | nil =>
    obtain ⟨none, rfl⟩ := Prod.mk.inj h
    rw [List.map_eq_nil_iff.mp none.symm]
    rfl
  | cons j js ih =>
    rw [attempts] at h
    obtain ⟨results, taken⟩ := Prod.mk.inj h
    obtain ⟨a, as, rfl, first, rest⟩ := List.map_eq_cons_iff.mp results.symm
    have rest := ih (Prod.ext rest.symm taken)
    rw [batch, ← first]
    simp only [rest]

end Reader

namespace Design

/-- The documents of a list under a name that was read are those that the document is split into. -/
theorem listAt_ok {α : Type} {r : Reader α} {name : String} {ids ids' : IdSupply} {es : Entries}
    {as : List α} (h : listAt r name ids es = (.ok as, ids')) :
    ∃ js, listed ((Json.obj es).getD name) = .ok js ∧ r.attempts ids js = (as.map .ok, ids') := by
  rw [listAt] at h
  have entry : (Json.obj es).getD name = (es.lookup name).getD .null := rfl
  rw [entry]
  cases found : es.lookup name with
  | none =>
    rw [found] at h
    obtain ⟨none, rfl⟩ := Prod.mk.inj h
    obtain rfl := Except.ok.inj none
    exact ⟨[], rfl, rfl⟩
  | some v =>
    rw [found] at h
    obtain ⟨read, taken⟩ := Prod.mk.inj h
    cases v with
    | arr js =>
      refine ⟨js, ?_, Prod.ext (Reader.go_ok.mp (Checked.within_ok.mp read)) taken⟩
      cases js <;> rfl
    | _ => cases Checked.within_ok.mp read

/-- A design that was read is split into documents that are read as its nodes and edges. -/
theorem ofJson_ok {ids ids' : IdSupply} {j : Json} {d : Design}
    (h : ofJson ids j = (.ok d, ids')) : ∃ nodes edges taken, split j = .ok (nodes, edges) ∧
      Node.reader.attempts ids nodes = (d.nodes.map .ok, taken) ∧
      Edge.reader.attempts taken edges = (d.edges.map .ok, ids') := by
  cases j with
  | obj es =>
    rw [ofJson] at h
    obtain ⟨read, rfl⟩ := Prod.mk.inj h
    obtain ⟨⟨ns, es'⟩, viewport, lists, -, rfl⟩ := Checked.both_ok.mp read
    obtain ⟨_, _, nodes, edges, same⟩ := Checked.both_ok.mp lists
    obtain ⟨rfl, rfl⟩ := Prod.mk.inj same
    obtain ⟨js, split, nodes⟩ := listAt_ok (Prod.ext nodes rfl)
    obtain ⟨js', split', edges⟩ := listAt_ok (Prod.ext edges rfl)
    refine ⟨js, js', _, ?_, nodes, edges⟩
    rw [Design.split, split, split']
    rfl
  | _ => cases (Prod.mk.inj h).1

end Design

/-- Nodes that give ids take no new ones. -/
theorem Node.attempts_given {ids ids' : IdSupply} {nodes : List Json} {ns : List Node}
    (given : ∀ j ∈ nodes, (Draft.idOf? j).isSome = true)
    (h : Node.reader.attempts ids nodes = (ns.map .ok, ids')) :
    List.Forall₂ Node.ReadFrom nodes ns ∧ ids' = ids := by
  induction nodes generalizing ns with
  | nil =>
    obtain ⟨none, rfl⟩ := Prod.mk.inj h
    rw [List.map_eq_nil_iff.mp none.symm]
    exact ⟨.nil, rfl⟩
  | cons j js ih =>
    obtain ⟨here, given⟩ := List.forall_mem_cons.mp given
    have kept : Node.reader.after ids j = ids := by
      obtain ⟨id, hid⟩ := Option.isSome_iff_exists.mp here
      obtain ⟨es, rfl, found, -⟩ := Draft.idOf?_eq.mp hid
      simp [Reader.after, Node.reader, Node.takesId, found]
    rw [Reader.attempts, kept] at h
    obtain ⟨results, taken⟩ := Prod.mk.inj h
    obtain ⟨n, ns, rfl, first, rest⟩ := List.map_eq_cons_iff.mp results.symm
    obtain ⟨read, same⟩ := ih given (Prod.ext rest.symm taken)
    exact ⟨.cons (Draft.readFrom_of_idOf? here first.symm) read, same⟩

/-- A design that is accepted as a whole is checked and compiled alike as it was read and as the
documents that it is split into, where each node gives an id: with the same problems, the same graph
and records, and the same new ids for edges. -/
theorem parsed_agrees {ids ids' : IdSupply} {j : Json} {d : Design}
    (accepted : Design.ofJson ids j = (.ok d, ids')) :
    ∃ nodes edges, Design.split j = .ok (nodes, edges) ∧
      ((∀ n ∈ nodes, (Draft.idOf? n).isSome = true) →
        (Draft.ofRaw ids nodes edges).validate = (Draft.ofRead d.nodes d.edges).validate ∧
        Graph.compileRaw ids nodes edges = Graph.compileRead ids' d.nodes d.edges) := by
  obtain ⟨nodes, edges, taken, split, attempted, attempted'⟩ := Design.ofJson_ok accepted
  refine ⟨nodes, edges, split, fun given => ?_⟩
  obtain ⟨read, rfl⟩ := Node.attempts_given given attempted
  constructor
  · rw [Draft.ofRaw_eq read (congrArg Prod.fst attempted')]
  · simp only [Graph.compileRaw, Reader.batch_attempts attempted, Reader.batch_attempts attempted']

/-- A start with an edge to an end and one to a node that is gone, neither of which has an id. -/
def loose : Json :=
  let edge (target : String) : Json := .obj [("source", .str "a"), ("target", .str target)]
  .obj [("nodes", .arr [.obj [("id", .str "a"), ("type", .str "start")],
      .obj [("id", .str "z"), ("type", .str "end"), ("data", .obj [("label", .str "Bye")])]]),
    ("edges", .arr [edge "z", edge "gone"])]

theorem parsed_agrees_loose : ∃ d ids' nodes edges,
    Design.ofJson ⟨toString, 0⟩ loose = (.ok d, ids') ∧
    Design.split loose = .ok (nodes, edges) ∧
    (Draft.ofRaw ⟨toString, 0⟩ nodes edges).validate = (Draft.ofRead d.nodes d.edges).validate ∧
    Problem.unknownTarget ⟨"2", "a", "gone", none, none, none⟩
      ∈ (Draft.ofRaw ⟨toString, 0⟩ nodes edges).validate ∧
    Graph.compileRaw ⟨toString, 0⟩ nodes edges = Graph.compileRead ids' d.nodes d.edges := by
  obtain ⟨d, ids', accepted⟩ : ∃ d ids', Design.ofJson ⟨toString, 0⟩ loose = (.ok d, ids') :=
    ⟨_, _, rfl⟩
  obtain ⟨nodes, edges, split, agree⟩ := parsed_agrees accepted
  obtain ⟨rfl, rfl⟩ := Prod.mk.inj (Except.ok.inj (split.symm.trans rfl))
  obtain ⟨problems, graph⟩ := agree (by decide +kernel)
  exact ⟨d, ids', _, _, accepted, split, problems, by decide +kernel, graph⟩

end Questionnaire
