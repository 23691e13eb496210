import Questionnaire.Graph.Compile
import Questionnaire.Proofs.Publishable

namespace Questionnaire

/-- What counts of an edge when it is compiled. -/
def Edge.route (e : Edge) : String × String × Option String := (e.source, e.target, e.sourceHandle)

namespace Graph

theorem addEdge_congr {e e' : Edge} (h : e.route = e'.route) (g : Graph) :
    g.addEdge e = g.addEdge e' := by
  obtain ⟨hs, ht, hh⟩ : e.source = e'.source ∧ e.target = e'.target ∧
      e.sourceHandle = e'.sourceHandle := by simpa [Edge.route] using h
  simp only [addEdge, target, hs, ht, hh]

/-- The ids of edges do not matter to the graph. -/
theorem compile_congr {nodes : List Node} {edges edges' : List Edge}
    (h : edges.map Edge.route = edges'.map Edge.route) :
    compile nodes edges = compile nodes edges' := by
  have fold (g : Graph) : edges.foldl addEdge g = edges'.foldl addEdge g := by
    induction edges generalizing edges' g with
    | nil => rw [List.map_eq_nil_iff.mp h.symm]
    | cons e es ih =>
      obtain ⟨e', es', rfl, he, hs⟩ := List.map_eq_cons_iff.mp h.symm
      rw [List.foldl_cons, List.foldl_cons, addEdge_congr he, ih hs.symm]
  exact fold _

end Graph

/-- With another new id an edge is read as one with the same routes. -/
theorem Edge.ofJson_again {j : Json} {fresh : String} {e : Edge} (h : Edge.ofJson fresh j = .ok e)
    (fresh' : String) : ∃ e', Edge.ofJson fresh' j = .ok e' ∧ e'.route = e.route := by
  cases j with
  | obj es =>
    obtain ⟨x, hx, rfl⟩ := Checked.map_ok.mp h
    obtain ⟨id, ⟨source, target, handle, targetHandle, type⟩, hi, hr, rfl⟩ := Checked.both_ok.mp hx
    have again : ∃ id', (Part.field (.plain "id") .string fresh').read es = .ok id' := by
      simp only [Part.field, Part.fieldOr] at hi ⊢
      split
      · rename_i v hv
        rw [hv] at hi
        exact ⟨id, hi⟩
      · exact ⟨fresh', rfl⟩
    obtain ⟨id', hi'⟩ := again
    exact ⟨⟨id', source, target, handle, targetHandle, type⟩,
      Checked.map_ok.mpr ⟨_, Checked.both_ok.mpr ⟨id', _, hi', hr, rfl⟩, rfl⟩, rfl⟩
  | _ => cases h

/-- The document reads as an edge with this route, whatever new ids are like. -/
def Edge.RoutedFrom (j : Json) (route : String × String × Option String) : Prop :=
  ∀ fresh, ∃ e, Edge.ofJson fresh j = .ok e ∧ e.route = route

namespace Reader

theorem routes_attempted {edges : List Json} {ids : IdSupply} {es : List Edge}
    (h : (Edge.reader.attempts ids edges).1 = es.map .ok) :
    List.Forall₂ Edge.RoutedFrom edges (es.map Edge.route) := by
  induction edges generalizing ids es with
  | nil =>
    obtain rfl := List.map_eq_nil_iff.mp h.symm
    exact .nil
  | cons j js ih =>
    simp only [attempts] at h
    obtain ⟨e, es, rfl, he, hs⟩ := List.map_eq_cons_iff.mp h.symm
    exact .cons (Edge.ofJson_again he.symm) (ih hs.symm)

theorem attempts_routed {edges : List Json} {routes : List (String × String × Option String)}
    (h : List.Forall₂ Edge.RoutedFrom edges routes) (ids : IdSupply) :
    ∃ es : List Edge, (Edge.reader.attempts ids edges).1 = es.map .ok ∧
      es.map Edge.route = routes := by
  induction h generalizing ids with
  | nil => exact ⟨[], rfl, rfl⟩
  | @cons j _ _ _ hj _ ih =>
    obtain ⟨e, he, hr⟩ := hj ids.fresh
    obtain ⟨es, hs, same⟩ := ih (Edge.reader.after ids j)
    refine ⟨e :: es, ?_, by rw [List.map_cons, hr, same]⟩
    have he : Edge.reader.read ids j = .ok e := he
    simp only [attempts, he, hs, List.map_cons]

/-- Edges that read whatever new ids are like are read one after another. -/
theorem batch_routed {edges : List Json} {routes : List (String × String × Option String)}
    (h : List.Forall₂ Edge.RoutedFrom edges routes) (ids : IdSupply) :
    ∃ es rest, Edge.reader.batch ids edges = ⟨es, none, rest⟩ ∧ es.map Edge.route = routes := by
  induction h generalizing ids with
  | nil => exact ⟨[], ids, rfl, rfl⟩
  | @cons j _ _ _ hj _ ih =>
    obtain ⟨e, he, hr⟩ := hj ids.fresh
    obtain ⟨es, rest, hs, same⟩ := ih (Edge.reader.after ids j)
    have he : Edge.reader.read ids j = .ok e := he
    exact ⟨e :: es, rest, by simp only [batch, he, hs], by rw [List.map_cons, hr, same]⟩

/-- So are nodes. -/
theorem batch_nodes {nodes : List Json} {ns : List Node}
    (h : List.Forall₂ Node.ReadFrom nodes ns) (ids : IdSupply) :
    ∃ rest, Node.reader.batch ids nodes = ⟨ns, none, rest⟩ := by
  induction h generalizing ids with
  | nil => exact ⟨ids, rfl⟩
  | @cons j n js ns hn _ ih =>
    obtain ⟨rest, hs⟩ := ih (Node.reader.after ids j)
    obtain ⟨es, id, rfl, -, -, hn⟩ := hn
    refine ⟨rest, ?_⟩
    have hn : Node.reader.read ids (.obj es) = .ok n := hn ids.fresh
    simp only [batch, hn, hs]

/-- A batch without faults has read every document, each with some new id. -/
theorem batch_read {α : Type} {r : Reader α} {ids : IdSupply} {js : List Json}
    (h : (r.batch ids js).faults = none) :
    List.Forall₂ (fun j a => ∃ fresh, r.ofJson fresh j = .ok a) js (r.batch ids js).items := by
  induction js generalizing ids with
  | nil => exact .nil
  | cons j js ih =>
    rw [batch] at h ⊢
    split at h
    · rename_i a ha
      exact .cons ⟨ids.fresh, ha⟩ (ih h)
    · cases h

end Reader

namespace Graph

/-- What can be read is compiled, whatever ids the edges that give none get. -/
theorem compileRaw_read {ids : IdSupply} {nodes edges : List Json} {ns : List Node}
    {es : List Edge} (hn : List.Forall₂ Node.ReadFrom nodes ns)
    (he : (Edge.reader.attempts ids edges).1 = es.map .ok) (ids' : IdSupply) :
    (compileRaw ids' nodes edges).result = .ok (compile ns es) := by
  obtain ⟨rest, hb⟩ := Reader.batch_nodes hn ids'
  obtain ⟨es', more, hb', same⟩ := Reader.batch_routed (Reader.routes_attempted he) rest
  simp only [compileRaw, hb, hb', compileRead, compile_congr same]

/-- What was compiled could be read. -/
theorem read_of_compileRaw {ids' : IdSupply} {nodes edges : List Json} {g : Graph}
    (h : (compileRaw ids' nodes edges).result = .ok g) (ids : IdSupply) :
    List.Forall₂ (fun j n => ∃ fresh, Node.ofJson fresh j = .ok n) nodes
      (Node.reader.batch ids' nodes).items ∧
    ∃ es : List Edge, (Edge.reader.attempts ids edges).1 = es.map .ok ∧
      g = compile (Node.reader.batch ids' nodes).items es := by
  rw [compileRaw] at h
  split at h
  · cases h
  · rename_i hn
    dsimp only at h
    split at h
    · cases h
    · rename_i he
      obtain rfl := Except.ok.inj h
      have routed : List.Forall₂ Edge.RoutedFrom edges
          ((Edge.reader.batch (Node.reader.batch ids' nodes).ids edges).items.map Edge.route) := by
        refine List.forall₂_map_right_iff.mpr ((Reader.batch_read he).imp ?_)
        rintro j e ⟨fresh, hj⟩
        exact Edge.ofJson_again hj
      obtain ⟨es, attempted, same⟩ := Reader.attempts_routed routed ids
      exact ⟨Reader.batch_read hn, es, attempted, compile_congr same.symm⟩

end Graph

namespace Draft

theorem ids_read {nodes : List Json} {ns : List Node} (h : List.Forall₂ Node.ReadFrom nodes ns) :
    nodes.filterMap idOf? = ns.map Node.id := by
  induction h with
  | nil => rfl
  | cons hn _ ih => rw [List.filterMap_cons_some (idOf?_read hn), ih, List.map_cons]

theorem named_of_read {nodes : List Json} {ns : List Node}
    (h : List.Forall₂ Node.ReadFrom nodes ns) : ∀ n ∈ ns, n.id ≠ "" :=
  ((List.forall₂_and_left ns nodes).mp (h.flip.imp fun _ _ hn => ⟨Node.ReadFrom.id_ne hn, hn⟩)).1

theorem survey_ofRaw {ids : IdSupply} {nodes edges : List Json} {ns : List Node} {es : List Edge}
    (read : List.Forall₂ Node.ReadFrom nodes ns)
    (attempted : (Edge.reader.attempts ids edges).1 = es.map .ok)
    (distinct : (ns.map Node.id).Nodup) :
    (ofRaw ids nodes edges).survey = Survey.ofNodes ns es := by
  rw [ofRaw_eq read attempted, survey_ofRead distinct]

/-- Nodes that could be compiled are seen by the checks, except those that give no id. -/
theorem views_read {nodes : List Json} {ns : List Node}
    (h : List.Forall₂ (fun j n => ∃ fresh, Node.ofJson fresh j = .ok n) nodes ns) :
    ((nodes.map viewNode).filterMap Prod.fst).Sublist (ns.map View.ofNode) := by
  induction h with
  | nil => exact .refl []
  | @cons j n _ _ hj _ ih =>
    obtain ⟨fresh, hn⟩ := hj
    rw [List.map_cons, List.map_cons]
    cases given : idOf? j with
    | none =>
      rw [viewNode, given]
      exact .cons _ ih
    | some id =>
      rw [viewNode_read (readFrom_of_idOf? (by rw [given]; rfl) hn)]
      exact .cons_cons _ ih

/-- Where every node gives an id, what was compiled is what is checked. -/
theorem read_of_compiled {ids' : IdSupply} {nodes edges : List Json} {g : Graph}
    (given : ∀ j ∈ nodes, (idOf? j).isSome = true)
    (h : (Graph.compileRaw ids' nodes edges).result = .ok g) (ids : IdSupply) :
    ∃ (ns : List Node) (es : List Edge), List.Forall₂ Node.ReadFrom nodes ns ∧
      (Edge.reader.attempts ids edges).1 = es.map .ok ∧ g = Graph.compile ns es := by
  obtain ⟨read, es, attempted, rfl⟩ := Graph.read_of_compileRaw h ids
  have both := (List.forall₂_and_left nodes _).mpr ⟨given, read⟩
  refine ⟨_, es, both.imp ?_, attempted, rfl⟩
  rintro j n ⟨hj, fresh, hn⟩
  exact readFrom_of_idOf? hj hn

end Draft
end Questionnaire
