import Questionnaire.Proofs.CleanSurvey
import Questionnaire.Proofs.ConditionFaults

namespace Questionnaire
open Relation Problem

/-- Some edge leads from the one node to the other. -/
def Leads (edges : List Edge) (u v : String) : Prop := ∃ e ∈ edges, e.source = u ∧ e.target = v

/-- The flow that nodes and edges draw. -/
def drawn (nodes : List Node) (edges : List Edge) : Flow :=
  ⟨nodes.map Node.id, edges.map fun e => (e.source, e.target)⟩

/-- What a design must be to be published. Nothing is asked of conditions by which nodes are
skipped, and nothing of edges that leave an end. -/
structure Publishable (nodes : List Node) (edges : List Edge) : Prop where
  distinct : (nodes.map Node.id).Nodup
  start : ∃ n, nodes.filter (·.kind == .start) = [n]
  ending : ∃ n ∈ nodes, n.kind = .ending
  joined : ∀ e ∈ edges, e.source ∈ nodes.map Node.id ∧ e.target ∈ nodes.map Node.id
  acyclic : ∀ v, ¬ TransGen (Leads edges) v v
  reachable : ∀ n ∈ nodes, n.kind = .start → ∀ m ∈ nodes, ReflTransGen (Leads edges) n.id m.id
  ends : ∀ n ∈ nodes, ∃ m ∈ nodes, m.kind = .ending ∧ ReflTransGen (Leads edges) n.id m.id
  redirects : ∀ n ∈ nodes, n.kind = .ending → ∃ message url outcome,
    n.data.payload = .ending message (some url) outcome ∧ ∃ c ∈ url.toList, Text.isBlank c = false
  conditions : ∀ n ∈ nodes, n.kind = .branch →
    ∃ c, n.data.condition = some c ∧ ∀ id k, Item.group id k [] ∉ c.toItem.parts
  forks : ∀ n ∈ nodes, n.kind = .branch → Survey.Forked (edges.filter (·.source == n.id))
  single : ∀ n ∈ nodes, n.kind ≠ .ending → n.kind ≠ .branch →
    (edges.filter (·.source == n.id)).length ≤ 1
  causal : ∀ n ∈ nodes, n.kind = .branch → ∀ c, n.data.condition = some c →
    ∀ r, Item.rule r ∈ c.toItem.parts →
      ∀ field, r.Reads field → Flow.Before (drawn nodes edges).order field n.id

theorem link_drawn {nodes : List Node} {edges : List Edge} :
    (drawn nodes edges).Link = Leads edges := by
  funext u v
  simp [Flow.Link, drawn, Leads]

theorem drawn_proper {nodes : List Node} {edges : List Edge} (distinct : (nodes.map Node.id).Nodup)
    (joined : ∀ e ∈ edges, e.source ∈ nodes.map Node.id ∧ e.target ∈ nodes.map Node.id) :
    (drawn nodes edges).Proper where
  nodup := distinct
  source {u v} h := by
    obtain ⟨e, he, rfl, -⟩ := link_drawn ▸ h
    exact (joined e he).1
  target {u v} h := by
    obtain ⟨e, he, -, rfl⟩ := link_drawn ▸ h
    exact (joined e he).2

theorem allBlank_redirect {n : Node} : Text.allBlank (Survey.redirect n) = false ↔
    ∃ message url outcome, n.data.payload = .ending message (some url) outcome ∧
      ∃ c ∈ url.toList, Text.isBlank c = false := by
  rw [Survey.redirect]
  split
  · rename_i message url outcome h
    cases url with
    | none => simp [h, Text.allBlank]
    | some url => simp [h, Text.allBlank]
  · rename_i h
    simp only [Text.allBlank, String.toList_empty, List.all_nil, Bool.true_eq_false, false_iff,
      not_exists, not_and]
    intro message url outcome he
    exact absurd he (h message (some url) outcome)

theorem isKind_ofNode {k : NodeKind} {n : Node} : (View.ofNode n).isKind k = (n.kind == k) := by
  rw [View.isKind, View.ofNode, Bool.eq_iff_iff, beq_iff_eq, beq_iff_eq]
  exact ⟨NodeKind.tag_injective, fun h => h ▸ rfl⟩

namespace Survey

theorem skipProblems_valid (order : List String) (v : View) (n : Node) :
    isValid (skipProblems order v n) = true := by
  rw [skipProblems]
  split
  · exact isValid_warnings fun _ => rfl
  · rfl

theorem branchProblems_valid {order : List String} {n : Node} {edges : List Edge} :
    isValid (branchProblems order (View.ofNode n) edges) = true ↔
      (∃ c, n.data.condition = some c ∧ ∀ g ∈ c.groups, g.items ≠ []) ∧ Forked edges ∧
      ∀ c, n.data.condition = some c → ∀ field ∈ c.fields, Flow.Before order field n.id := by
  have hc : (View.ofNode n).condition? = n.data.condition := rfl
  rw [branchProblems, isValid_append, isValid_append, conditionProblems_valid,
    handleProblems_valid, isValid_map fun _ => rfl, hc, lateFields_nil, and_assoc]
  rfl

/-- Only the rules for the kind of a node decide about it. -/
theorem nodeProblems_valid {s : Survey} {order : List String} {n : Node} :
    isValid (s.nodeProblems order (View.ofNode n)) = true ↔
      (n.kind = .ending → Text.allBlank (redirect n) = false) ∧
      (n.kind = .branch → (∃ c, n.data.condition = some c ∧ ∀ g ∈ c.groups, g.items ≠ []) ∧
        Forked (s.outgoing n.id) ∧ ∀ c, n.data.condition = some c →
          ∀ field ∈ c.fields, Flow.Before order field n.id) ∧
      (n.kind ≠ .ending → n.kind ≠ .branch → (s.outgoing n.id).length ≤ 1) := by
  have warned : isValid (skipProblems order (View.ofNode n) n ++ operatorProblems (View.ofNode n) n)
      = true :=
    isValid_append.mpr ⟨skipProblems_valid order _ n, isValid_warnings fun _ => rfl⟩
  rw [nodeProblems, isValid_append]
  simp only [show (View.ofNode n).node = some n from rfl, show (View.ofNode n).id = n.id from rfl,
    isKind_ofNode, beq_iff_eq]
  rw [eq_true warned, and_true]
  by_cases he : n.kind = .ending
  · simp [he, endProblems_valid]
  · by_cases hb : n.kind = .branch
    · simp [hb, branchProblems_valid]
    · by_cases hl : 1 < (s.outgoing n.id).length
      · simp [he, hb, hl, isValid_iff, isError, severity]
      · have := Nat.le_of_not_lt hl
        simp [he, hb, hl, this, isValid_iff]

/-- The survey of a design that could be read. -/
def ofNodes (nodes : List Node) (edges : List Edge) : Survey := ⟨nodes.map View.ofNode, edges⟩

variable {nodes : List Node} {edges : List Edge}

theorem ids_ofNodes : (ofNodes nodes edges).views.map View.id = nodes.map Node.id := by
  rw [ofNodes, List.map_map]
  rfl

theorem ofKind_ofNodes (k : NodeKind) :
    (ofNodes nodes edges).ofKind k = (nodes.filter (·.kind == k)).map View.ofNode := by
  rw [ofKind, ofNodes, List.filter_map]
  exact congrArg _ (List.filter_congr fun n _ => isKind_ofNode)

/-- Where every edge joins two nodes, every edge is a link. -/
theorem flow_ofNodes
    (h : ∀ e ∈ edges, e.source ∈ nodes.map Node.id ∧ e.target ∈ nodes.map Node.id) :
    (ofNodes nodes edges).flow = drawn nodes edges := by
  have all : (ofNodes nodes edges).edges.filter (fun e =>
      (ofNodes nodes edges).has e.source && (ofNodes nodes edges).has e.target) = edges := by
    refine List.filter_eq_self.mpr fun e he => ?_
    rw [Bool.and_eq_true, has_iff, has_iff, ids_ofNodes]
    exact h e he
  rw [flow, ids_ofNodes, drawn, links, all]

theorem structure_valid (h : (nodes.map Node.id).Nodup) :
    isValid (ofNodes nodes edges).problems = true ↔
      ((∃ n, nodes.filter (·.kind == .start) = [n]) ∧ ∃ n ∈ nodes, n.kind = .ending) ∧
      (∀ e ∈ edges, e.source ∈ nodes.map Node.id ∧ e.target ∈ nodes.map Node.id) ∧
      (∀ v, ¬ TransGen (ofNodes nodes edges).flow.Link v v) ∧
      isValid (ofNodes nodes edges).reachProblems = true ∧
      (∀ n ∈ nodes, ∃ m ∈ nodes, m.kind = .ending ∧
        ReflTransGen (ofNodes nodes edges).flow.Link n.id m.id) ∧
      ∀ n ∈ nodes, isValid ((ofNodes nodes edges).nodeProblems (ofNodes nodes edges).flow.order
        (View.ofNode n)) = true := by
  have hn : ((ofNodes nodes edges).views.map View.id).Nodup := by rwa [ids_ofNodes]
  have starts : (∃ v, (ofNodes nodes edges).ofKind .start = [v]) ↔
      ∃ n, nodes.filter (·.kind == .start) = [n] := by
    rw [ofKind_ofNodes]
    constructor
    · rintro ⟨v, hv⟩
      obtain ⟨n, hn, -⟩ := List.map_eq_singleton_iff.mp hv
      exact ⟨n, hn⟩
    · rintro ⟨n, hn⟩
      exact ⟨View.ofNode n, by rw [hn]; rfl⟩
  have views : (ofNodes nodes edges).views = nodes.map View.ofNode := rfl
  have listed : (ofNodes nodes edges).edges = edges := rfl
  have ids (n : Node) : (View.ofNode n).id = n.id := rfl
  rw [problems, isValid_append, isValid_append, isValid_append, isValid_append, isValid_append,
    kindProblems_valid, edgeProblems_valid, cycleProblems_valid hn, deadEndProblems_valid,
    isValid_flatMap, starts, ofKind_ofNodes, listed]
  simp [views, ids, has_iff, and_assoc]

end Survey

open Survey

/-- The checks of a design with distinct ids find no error exactly when it can be published. -/
theorem survey_valid {nodes : List Node} {edges : List Edge} (h : (nodes.map Node.id).Nodup) :
    isValid (ofNodes nodes edges).problems = true ↔ Publishable nodes edges := by
  rw [structure_valid h]
  have reach (n : Node) (hn : nodes.filter (·.kind == .start) = [n]) :
      isValid (ofNodes nodes edges).reachProblems = true ↔
        ∀ m ∈ nodes, ReflTransGen (ofNodes nodes edges).flow.Link n.id m.id := by
    rw [reachProblems_valid (by rw [ofKind_ofNodes, hn]; rfl)]
    simp [ofNodes, View.ofNode]
  constructor
  · rintro ⟨⟨⟨n, hn⟩, he⟩, hj, hc, hr, hd, hv⟩
    rw [reach n hn] at hr
    simp only [flow_ofNodes hj, link_drawn, nodeProblems_valid, allBlank_redirect,
      Group.groups_filled, Group.forall_fields] at hc hr hd hv
    refine ⟨h, ⟨n, hn⟩, he, hj, hc, ?_, hd, fun m hm => (hv m hm).1,
      fun m hm hb => ((hv m hm).2.1 hb).1, fun m hm hb => ((hv m hm).2.1 hb).2.1,
      fun m hm => (hv m hm).2.2, fun m hm hb => ((hv m hm).2.1 hb).2.2⟩
    intro m hm hk
    have hs : m ∈ nodes.filter (·.kind == .start) := by simp [hm, hk]
    rw [hn, List.mem_singleton] at hs
    exact hs ▸ hr
  · intro p
    obtain ⟨n, hn⟩ := p.start
    have hs : n ∈ nodes.filter (·.kind == .start) := by rw [hn]; exact List.mem_singleton_self n
    obtain ⟨hm, hk⟩ := List.mem_filter.mp hs
    rw [reach n hn]
    simp only [flow_ofNodes p.joined, link_drawn, nodeProblems_valid, allBlank_redirect,
      Group.groups_filled, Group.forall_fields]
    exact ⟨⟨p.start, p.ending⟩, p.joined, p.acyclic, p.reachable n hm (by simpa using hk), p.ends,
      fun m hm => ⟨p.redirects m hm, fun hb => ⟨p.conditions m hm hb, p.forks m hm hb,
        p.causal m hm hb⟩, p.single m hm⟩⟩

namespace Node

/-- The document is an object with an id that is a text and not empty, and it reads as this node
whatever new ids would be like. -/
def ReadFrom (j : Json) (n : Node) : Prop :=
  ∃ es id, j = .obj es ∧ es.lookup "id" = some (.str id) ∧ id ≠ "" ∧
    ∀ fresh, Node.ofJson fresh j = .ok n

/-- A new id is not looked at where one is given. -/
theorem ofJson_given {es : Entries} {id : String} (h : es.lookup "id" = some (.str id))
    (fresh fresh' : String) : Node.ofJson fresh (.obj es) = Node.ofJson fresh' (.obj es) := by
  simp [Node.ofJson, Node.ofEntries, Part.field, Part.fieldOr, Spelling.plain, Spelling.used, h]

/-- Where an id is given, it is the id of the node. -/
theorem ofJson_id {es : Entries} {id fresh : String} {n : Node}
    (hid : es.lookup "id" = some (.str id)) (hn : Node.ofJson fresh (.obj es) = .ok n) :
    n.id = id := by
  rw [Node.ofJson] at hn
  split at hn
  · rename_i kind _
    rw [Checked.within_ok, Node.ofEntries, Checked.both_ok] at hn
    obtain ⟨⟨id', position⟩, data, head, -, rfl⟩ := hn
    obtain ⟨_, _, hi, -, he⟩ := Checked.both_ok.mp head
    simp only [Part.field, Part.fieldOr, Spelling.plain, Spelling.used, hid, Checked.within_ok,
      ite_self, Shape.string, Except.ok.injEq] at hi
    obtain ⟨rfl, rfl⟩ := Prod.mk.inj he
    exact hi.symm
  · cases hn

theorem ReadFrom.id_ne {j : Json} {n : Node} (h : ReadFrom j n) : n.id ≠ "" := by
  obtain ⟨es, id, rfl, hid, hne, hn⟩ := h
  rw [ofJson_id hid (hn id)]
  exact hne

end Node

namespace Draft

theorem idOf?_eq {j : Json} {id : String} : idOf? j = some id ↔
    ∃ es, j = .obj es ∧ es.lookup "id" = some (.str id) ∧ id ≠ "" := by
  constructor
  · intro h
    cases j with
    | obj es =>
      rw [idOf?] at h
      split at h
      · rename_i s hs
        by_cases he : s.isEmpty = true
        · simp [he] at h
        · simp only [he, Bool.false_eq_true, ↓reduceIte, Option.some.injEq] at h
          subst h
          exact ⟨es, rfl, hs, by simpa using he⟩
      · cases h
    | _ => cases h
  · rintro ⟨es, rfl, hs, hne⟩
    simp [idOf?, hs, hne]

theorem idOf?_read {j : Json} {n : Node} (h : Node.ReadFrom j n) : idOf? j = some n.id := by
  obtain ⟨es, id, rfl, hid, hne, hn⟩ := h
  rw [Node.ofJson_id hid (hn id)]
  exact idOf?_eq.mpr ⟨es, rfl, hid, hne⟩

/-- A document that gives an id and was read with one new id reads as this node with any other. -/
theorem readFrom_of_idOf? {j : Json} {fresh : String} {n : Node} (given : (idOf? j).isSome = true)
    (read : Node.ofJson fresh j = .ok n) : Node.ReadFrom j n := by
  obtain ⟨id, hid⟩ := Option.isSome_iff_exists.mp given
  obtain ⟨es, rfl, hs, hne⟩ := idOf?_eq.mp hid
  exact ⟨es, id, rfl, hs, hne, fun fresh' => (Node.ofJson_given hs fresh' fresh).trans read⟩

theorem viewNode_read {j : Json} {n : Node} (h : Node.ReadFrom j n) :
    viewNode j = (some (View.ofNode n), []) := by
  obtain ⟨es, id, rfl, hid, hne, hn⟩ := h
  simp only [viewNode, idOf?_eq.mpr ⟨es, rfl, hid, hne⟩, hn id]

theorem viewNode_valid {j : Json} : isValid (viewNode j).2 = true ↔ ∃ n, Node.ReadFrom j n := by
  constructor
  · intro h
    rw [viewNode] at h
    split at h
    · simp [isValid_iff, isError, severity] at h
    · rename_i id hid
      split at h
      · rename_i n hn
        exact ⟨n, readFrom_of_idOf? (by rw [hid]; rfl) hn⟩
      · simp [isValid_iff, isError, severity] at h
  · rintro ⟨n, hn⟩
    rw [viewNode_read hn]
    rfl

theorem readEdge_valid {j : Json} {read : Checked Edge} :
    isValid (readEdge j read).2 = true ↔ ∃ e, read = .ok e := by
  cases read with
  | ok e => simp [readEdge, isValid_iff]
  | error fs => simp [readEdge, isValid_iff, isError, severity]

theorem nodes_valid {nodes : List Json} : isValid ((nodes.map viewNode).flatMap Prod.snd) = true ↔
    ∃ ns, List.Forall₂ Node.ReadFrom nodes ns := by
  induction nodes with
  | nil => simp [isValid_iff]
  | cons j js ih =>
    rw [List.map_cons, List.flatMap_cons, isValid_append, viewNode_valid, ih]
    constructor
    · rintro ⟨⟨n, hn⟩, ns, hs⟩
      exact ⟨n :: ns, .cons hn hs⟩
    · rintro ⟨_, _ | ⟨hn, hs⟩⟩
      exact ⟨⟨_, hn⟩, _, hs⟩

/-- The edges that are read, in whatever order ids are taken for them. -/
theorem edges_valid {edges : List Json} {ids : IdSupply} :
    isValid ((List.zipWith readEdge edges (Edge.reader.attempts ids edges).1).flatMap Prod.snd)
      = true ↔ ∃ es : List Edge, (Edge.reader.attempts ids edges).1 = es.map .ok := by
  induction edges generalizing ids with
  | nil =>
    simp only [Reader.attempts, List.zipWith_nil_left, List.flatMap_nil]
    exact ⟨fun _ => ⟨[], rfl⟩, fun _ => rfl⟩
  | cons j js ih =>
    simp only [Reader.attempts, List.zipWith_cons_cons, List.flatMap_cons]
    rw [isValid_append, readEdge_valid, ih]
    constructor
    · rintro ⟨⟨e, he⟩, es, hs⟩
      exact ⟨e :: es, by rw [he, hs]; rfl⟩
    · rintro ⟨es, hs⟩
      obtain ⟨e, es, rfl, he, hs⟩ := List.map_eq_cons_iff.mp hs.symm
      exact ⟨⟨e, he.symm⟩, es, hs.symm⟩

theorem nodes_read {nodes : List Json} {ns : List Node} (h : List.Forall₂ Node.ReadFrom nodes ns) :
    nodes.map viewNode = ns.map fun n => (some (View.ofNode n), []) := by
  induction h with
  | nil => rfl
  | cons hn _ ih => rw [List.map_cons, List.map_cons, viewNode_read hn, ih]

theorem edges_read {edges : List Json} {ids : IdSupply} {es : List Edge}
    (h : (Edge.reader.attempts ids edges).1 = es.map .ok) :
    List.zipWith readEdge edges (Edge.reader.attempts ids edges).1
      = es.map fun e => (some e, []) := by
  induction edges generalizing ids es with
  | nil =>
    obtain rfl := List.map_eq_nil_iff.mp h.symm
    rfl
  | cons j js ih =>
    simp only [Reader.attempts] at h ⊢
    obtain ⟨e, es, rfl, he, hs⟩ := List.map_eq_cons_iff.mp h.symm
    rw [List.zipWith_cons_cons, ih hs.symm, ← he]
    rfl

/-- A design of which everything can be read is checked as what it reads as. -/
theorem ofRaw_eq {ids : IdSupply} {nodes edges : List Json} {ns : List Node} {es : List Edge}
    (hn : List.Forall₂ Node.ReadFrom nodes ns)
    (he : (Edge.reader.attempts ids edges).1 = es.map .ok) :
    ofRaw ids nodes edges = ofRead ns es := by
  rw [ofRaw]
  simp only [nodes_read hn, edges_read he]
  simp [ofRead, List.filterMap_map, List.flatMap_map]

theorem views_ofRead {ns : List Node} {es : List Edge} :
    (ofRead ns es).views.map View.id = ns.map Node.id := by
  simp [ofRead, View.ofNode]

theorem survey_ofRead {ns : List Node} {es : List Edge} (h : (ns.map Node.id).Nodup) :
    (ofRead ns es).survey = ofNodes ns es := by
  rw [survey, firstViews_eq (repeatedIds_nil.mpr ⟨views_ofRead ▸ h, fun _ _ => List.not_mem_nil⟩)]
  rfl

theorem ofRead_valid {ns : List Node} {es : List Edge} :
    isValid (ofRead ns es).validate = true ↔ Publishable ns es := by
  rw [validate, isValid_append, isValid_append, isValid_map fun _ => rfl, repeatedIds_nil,
    views_ofRead]
  constructor
  · rintro ⟨⟨-, hn, -⟩, hs⟩
    rw [survey_ofRead hn] at hs
    exact (survey_valid hn).mp hs
  · intro p
    rw [survey_ofRead p.distinct]
    exact ⟨⟨rfl, p.distinct, fun _ _ => List.not_mem_nil⟩, (survey_valid p.distinct).mpr p⟩

/-- The documents read as these nodes and edges, and these can be published. -/
def Accepts (ids : IdSupply) (nodes edges : List Json) (ns : List Node) (es : List Edge) : Prop :=
  List.Forall₂ Node.ReadFrom nodes ns ∧ (Edge.reader.attempts ids edges).1 = es.map .ok ∧
    Publishable ns es

theorem ofRaw_valid {ids : IdSupply} {nodes edges : List Json} :
    isValid (ofRaw ids nodes edges).validate = true ↔ ∃ ns es, Accepts ids nodes edges ns es := by
  constructor
  · intro h
    have read := (isValid_append.mp (isValid_append.mp h).1).1
    rw [ofRaw, isValid_append, nodes_valid, edges_valid] at read
    obtain ⟨⟨ns, hn⟩, es, he⟩ := read
    rw [ofRaw_eq hn he, ofRead_valid] at h
    exact ⟨ns, es, hn, he, h⟩
  · rintro ⟨ns, es, hn, he, p⟩
    rw [ofRaw_eq hn he, ofRead_valid]
    exact p

end Draft

/-- The codes of the problems that do not stand in the way of publishing. -/
def Problem.warnings : List String := ["END_HAS_OUTGOING", "SKIP_LOGIC_ORDER", "UNKNOWN_OPERATOR"]

theorem Problem.isError_code (p : Problem) : p.isError = !warnings.contains p.code := by
  cases p <;> rfl

theorem Problem.isValid_warned (ps : List Problem) :
    isValid (ps.filter fun p => !warnings.contains p.code) = isValid ps := by
  simp only [← isError_code, isValid, List.any_filter, Bool.and_self]

/-- The verdict on a design as it was saved: what it takes for every node and edge to be readable
and for the whole to be publishable, and that problems with the code of a warning do not count. -/
theorem valid_iff_publishable (ids : IdSupply) (nodes edges : List Json) :
    (isValid (Draft.ofRaw ids nodes edges).validate = true ↔
      ∃ ns es, List.Forall₂ Node.ReadFrom nodes ns ∧
        (Edge.reader.attempts ids edges).1 = es.map .ok ∧ Publishable ns es) ∧
    isValid ((Draft.ofRaw ids nodes edges).validate.filter fun p => !warnings.contains p.code)
      = isValid (Draft.ofRaw ids nodes edges).validate :=
  ⟨Draft.ofRaw_valid, isValid_warned _⟩

end Questionnaire
