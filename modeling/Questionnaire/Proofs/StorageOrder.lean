import Questionnaire.Proofs.OrderLast
import Questionnaire.Proofs.PublishedGraph

namespace Questionnaire
open Relation Problem

section

variable {nodes nodes' : List Node} {edges edges' : List Edge}

theorem mem_of_routes (he : (edges.map Edge.route).Perm (edges'.map Edge.route)) {e : Edge}
    (h : e ∈ edges) : ∃ e' ∈ edges', e'.source = e.source ∧ e'.target = e.target ∧
      e'.sourceHandle = e.sourceHandle := by
  obtain ⟨e', he', same⟩ := List.mem_map.mp (he.mem_iff.mp (List.mem_map_of_mem h))
  simp only [Edge.route, Prod.mk.injEq] at same
  exact ⟨e', he', same⟩

theorem leads_of_routes (he : (edges.map Edge.route).Perm (edges'.map Edge.route)) :
    Leads edges = Leads edges' := by
  have onward {es es' : List Edge} (h : (es.map Edge.route).Perm (es'.map Edge.route))
      {u v : String} : Leads es u v → Leads es' u v := by
    rintro ⟨e, he, rfl, rfl⟩
    obtain ⟨e', he', hs, ht, -⟩ := mem_of_routes h he
    exact ⟨e', he', hs, ht⟩
  funext u v
  exact propext ⟨onward he, onward he.symm⟩

/-- The routes of the edges out of one node are found among the routes of all. -/
theorem leaving_routes (he : (edges.map Edge.route).Perm (edges'.map Edge.route)) (id : String) :
    ((edges.filter (·.source == id)).map Edge.route).Perm
      ((edges'.filter (·.source == id)).map Edge.route) := by
  have split (es : List Edge) : (es.filter (·.source == id)).map Edge.route
      = (es.map Edge.route).filter (·.1 == id) := by
    rw [List.filter_map]
    rfl
  rw [split, split]
  exact he.filter _

namespace Survey

theorem countHandle_of_routes (he : (edges.map Edge.route).Perm (edges'.map Edge.route))
    (handle : String) : countHandle edges handle = countHandle edges' handle := by
  have count (es : List Edge) : countHandle es handle
      = (es.map Edge.route).countP fun r => r.2.2 == some handle := by
    rw [List.countP_map]
    rfl
  rw [count, count, he.countP_eq]

/-- Forks are told by routes alone. -/
theorem Forked.reordered (h : Forked edges)
    (he : (edges.map Edge.route).Perm (edges'.map Edge.route)) : Forked edges' := by
  obtain ⟨t, f, perm, ht, hf⟩ := h
  have counts := countHandle_perm perm ht hf
  refine forked_of_counts ?_ (countHandle_of_routes he _ ▸ counts.1)
    (countHandle_of_routes he _ ▸ counts.2)
  intro e' he'
  obtain ⟨e, hm, -, -, same⟩ := mem_of_routes he.symm he'
  rw [← same]
  rcases List.mem_pair.mp (perm.mem_iff.mp hm) with rfl | rfl
  · exact Or.inr ht
  · exact Or.inl hf

/-- Some branch asks about another node to which the longest way is as long as to the branch. -/
def AsksAside (s : Survey) : Prop :=
  ∃ v ∈ s.views, v.isKind .branch = true ∧ ∃ c, v.condition? = some c ∧
    ∃ field ∈ c.fields, field ≠ v.id ∧ s.has field = true ∧ s.flow.Level field v.id

theorem link_reordered (hn : nodes.Perm nodes')
    (he : (edges.map Edge.route).Perm (edges'.map Edge.route)) {u v : String}
    (h : (ofNodes nodes edges).flow.Link u v) : (ofNodes nodes' edges').flow.Link u v := by
  have known {id : String} (hi : (ofNodes nodes edges).has id = true) :
      (ofNodes nodes' edges').has id = true := by
    rw [has_iff, ids_ofNodes] at hi ⊢
    exact (hn.map _).mem_iff.mp hi
  obtain ⟨e, hm, ⟨hs, ht⟩, rfl, rfl⟩ := link_iff.mp h
  obtain ⟨e', hm', hs', ht', -⟩ := mem_of_routes he hm
  exact link_iff.mpr ⟨e', hm', ⟨hs' ▸ known hs, ht' ▸ known ht⟩, hs', ht'⟩

theorem AsksAside.reordered (hn : nodes.Perm nodes')
    (he : (edges.map Edge.route).Perm (edges'.map Edge.route))
    (h : (ofNodes nodes edges).AsksAside) : (ofNodes nodes' edges').AsksAside := by
  obtain ⟨v, hv, hb, c, hc, field, hf, other, known, level⟩ := h
  refine ⟨v, (hn.map _).mem_iff.mp hv, hb, c, hc, field, hf, other, ?_, ?_⟩
  · rw [has_iff, ids_ofNodes] at known ⊢
    exact (hn.map _).mem_iff.mp known
  · exact level.mono ⟨link_reordered hn he, link_reordered hn.symm he.symm⟩

end Survey

/-- What can be published in one order can be published in every order in which the same nodes come
before each branch among those that it asks about. -/
theorem Publishable.reordered (p : Publishable nodes edges) (hn : nodes.Perm nodes')
    (he : (edges.map Edge.route).Perm (edges'.map Edge.route))
    (straight : ¬ (Survey.ofNodes nodes edges).AsksAside) : Publishable nodes' edges' := by
  have ids := hn.map Node.id
  have leads := leads_of_routes he
  have distinct : (nodes'.map Node.id).Nodup := ids.nodup_iff.mp p.distinct
  have joined : ∀ e ∈ edges', e.source ∈ nodes'.map Node.id ∧ e.target ∈ nodes'.map Node.id := by
    intro e' hm'
    obtain ⟨e, hm, hs, ht, -⟩ := mem_of_routes he.symm hm'
    rw [← hs, ← ht]
    exact ⟨ids.mem_iff.mp (p.joined e hm).1, ids.mem_iff.mp (p.joined e hm).2⟩
  have acyclic : ∀ v, ¬ TransGen (Leads edges') v v := leads ▸ p.acyclic
  have proper := drawn_proper distinct joined
  have placed {id : String} (h : id ∈ nodes.map Node.id) : id ∈ (drawn nodes' edges').order := by
    refine Flow.mem_order_of_acyclic proper ?_ (ids.mem_iff.mp h)
    rw [link_drawn]
    exact acyclic
  refine ⟨distinct, ?_, ?_, joined, acyclic, ?_, ?_, ?_, ?_, ?_, ?_, ?_⟩
  · obtain ⟨n, single⟩ := p.start
    exact ⟨n, List.perm_singleton.mp (single ▸ (hn.filter _).symm)⟩
  · obtain ⟨n, hm, hk⟩ := p.ending
    exact ⟨n, hn.mem_iff.mp hm, hk⟩
  · intro n hm hk m hm'
    rw [← leads]
    exact p.reachable n (hn.mem_iff.mpr hm) hk m (hn.mem_iff.mpr hm')
  · intro n hm
    obtain ⟨m, hm', hk, path⟩ := p.ends n (hn.mem_iff.mpr hm)
    exact ⟨m, hn.mem_iff.mp hm', hk, leads ▸ path⟩
  · exact fun n hm => p.redirects n (hn.mem_iff.mpr hm)
  · exact fun n hm => p.conditions n (hn.mem_iff.mpr hm)
  · intro n hm hb
    exact (p.forks n (hn.mem_iff.mpr hm) hb).reordered (leaving_routes he n.id)
  · intro n hm notEnd notBranch
    have same := (leaving_routes he n.id).length_eq
    rw [List.length_map, List.length_map] at same
    exact same ▸ p.single n (hn.mem_iff.mpr hm) notEnd notBranch
  · intro n hm hb c hc
    refine Group.forall_fields.mp fun field hf => ?_
    have hm := hn.mem_iff.mpr hm
    have front := Group.forall_fields.mpr (p.causal n hm hb c hc) field hf
    have known : field ∈ nodes.map Node.id := Flow.key_of_mem_order p.proper front.mem
    refine front.reordered p.proper proper ?_ ?_ (placed known) (placed (List.mem_map_of_mem hm))
    · simp only [link_drawn, leads, implies_true]
    · intro level
      refine straight ⟨View.ofNode n, List.mem_map_of_mem hm, ?_, c, hc, field, hf, ?_, ?_, ?_⟩
      · rw [isKind_ofNode, hb, beq_self_eq_true]
      · rintro rfl
        exact front.irrefl
      · rw [Survey.has_iff, Survey.ids_ofNodes]
        exact known
      · rw [Survey.flow_ofNodes p.joined]
        exact level

/-- What a branch asks about beside itself can be stored so that it comes behind the branch. -/
theorem Publishable.delayed (p : Publishable nodes edges)
    (aside : (Survey.ofNodes nodes edges).AsksAside) : ∃ nodes' routes, nodes.Perm nodes' ∧
      (edges.map Edge.route).Perm routes ∧
      ∀ edges', edges'.map Edge.route = routes → ¬ Publishable nodes' edges' := by
  obtain ⟨v, hv, hb, c, hc, field, hf, other, known, level⟩ := aside
  obtain ⟨n, hn, rfl⟩ := List.mem_map.mp hv
  rw [isKind_ofNode, beq_iff_eq] at hb
  rw [Survey.has_iff, Survey.ids_ofNodes] at known
  rw [Survey.flow_ofNodes p.joined] at level
  obtain ⟨m, hm, rfl⟩ := List.mem_map.mp known
  obtain ⟨d, deep, most⟩ := Flow.exists_depth p.proper (p.mem_order hm)
  obtain ⟨late, hl, -, trail⟩ := Flow.exists_trail deep most
  have hn' := (Flow.putLast_perm Node.id late nodes).symm
  have he' := (Flow.putLast_perm (fun r => r.2.1) late (edges.map Edge.route)).symm
  refine ⟨_, _, hn', he', fun edges' same p' => ?_⟩
  have links {u v : String} : (drawn nodes edges).Link u v ↔
      (drawn (Flow.putLast Node.id late nodes) edges').Link u v := by
    rw [link_drawn, link_drawn, leads_of_routes (he'.trans (.of_eq same.symm))]
  have stored : Flow.Trailing Edge.target late edges' := by
    have := Flow.putLast_trailing (fun r => r.2.1) late (edges.map Edge.route)
    rw [← same] at this
    exact List.pairwise_map.mp this
  have placed := p'.mem_order (hn'.mem_iff.mp hm)
  have front := Group.forall_fields.mpr (p'.causal n (hn'.mem_iff.mp hn) hb c hc) m.id hf
  have back := (trail.mono links).last p'.proper
    (List.pairwise_map.mpr (Flow.putLast_trailing Node.id late nodes))
    (List.pairwise_map.mpr stored) hl placed (List.mem_map_of_mem (hn'.mem_iff.mp hn))
    (level.mono links).symm (Ne.symm other)
  exact (front.trans back).irrefl

end

namespace Draft

/-- What was read in one order is read in every order, up to the ids of edges that give none. -/
theorem read_reordered {nodes nodes' edges edges' : List Json} (hn : nodes.Perm nodes')
    (he : edges.Perm edges') {ids : IdSupply} {ns : List Node} {es : List Edge}
    (read : List.Forall₂ Node.ReadFrom nodes ns)
    (attempted : (Edge.reader.attempts ids edges).1 = es.map .ok) (ids' : IdSupply) :
    ∃ (ns' : List Node) (es' : List Edge), List.Forall₂ Node.ReadFrom nodes' ns' ∧
      (Edge.reader.attempts ids' edges').1 = es'.map .ok ∧ ns.Perm ns' ∧
      (es.map Edge.route).Perm (es'.map Edge.route) := by
  obtain ⟨ns', read', permuted⟩ := List.perm_comp_forall₂ hn.symm read
  obtain ⟨routes, routed, rerouted⟩ :=
    List.perm_comp_forall₂ he.symm (Reader.routes_attempted attempted)
  obtain ⟨es', attempted', rfl⟩ := Reader.attempts_routed routed ids'
  exact ⟨ns', es', read', attempted', permuted.symm, rerouted.symm⟩

end Draft

/-- What was read can be put in any order by ordering what it was read from. -/
theorem stored_of_perm {α β : Type} {R : α → β → Prop} {xs : List α} {ys ys' : List β}
    (read : List.Forall₂ R xs ys) (perm : ys.Perm ys') :
    ∃ xs', xs.Perm xs' ∧ List.Forall₂ R xs' ys' := by
  have both : Comp (List.Forall₂ R) List.Perm xs ys' := ⟨ys, read, perm⟩
  rwa [List.forall₂_comp_perm_eq_perm_comp_forall₂] at both

theorem verdict_kept {ids : IdSupply} {nodes nodes' edges edges' : List Json}
    (straight : ¬ (Draft.ofRaw ids nodes edges).survey.AsksAside) (hn : nodes.Perm nodes')
    (he : edges.Perm edges') (ids' : IdSupply) : isValid (Draft.ofRaw ids nodes edges).validate
      = isValid (Draft.ofRaw ids' nodes' edges').validate := by
  rw [Bool.eq_iff_iff, Draft.ofRaw_valid, Draft.ofRaw_valid]
  constructor
  · rintro ⟨ns, es, read, attempted, p⟩
    rw [Draft.survey_ofRaw read attempted p.distinct] at straight
    obtain ⟨ns', es', read', attempted', hns, hes⟩ := Draft.read_reordered hn he read attempted ids'
    exact ⟨ns', es', read', attempted', p.reordered hns hes straight⟩
  · rintro ⟨ns', es', read', attempted', p⟩
    obtain ⟨ns, es, read, attempted, hns, hes⟩ :=
      Draft.read_reordered hn.symm he.symm read' attempted' ids
    have distinct : (ns.map Node.id).Nodup := (hns.map Node.id).nodup_iff.mp p.distinct
    rw [Draft.survey_ofRaw read attempted distinct] at straight
    refine ⟨ns, es, read, attempted, p.reordered hns hes fun aside => straight ?_⟩
    exact aside.reordered hns hes

theorem verdict_lost {ids : IdSupply} {nodes edges : List Json}
    (aside : (Draft.ofRaw ids nodes edges).survey.AsksAside)
    (valid : isValid (Draft.ofRaw ids nodes edges).validate = true) :
    ∃ nodes' edges', nodes.Perm nodes' ∧ edges.Perm edges' ∧
      ∀ ids', isValid (Draft.ofRaw ids' nodes' edges').validate = false := by
  obtain ⟨ns, es, read, attempted, p⟩ := Draft.ofRaw_valid.mp valid
  rw [Draft.survey_ofRaw read attempted p.distinct] at aside
  obtain ⟨ns', routes, hns, hes, unfit⟩ := p.delayed aside
  obtain ⟨nodes', hn, read'⟩ := stored_of_perm read hns
  obtain ⟨edges', he, routed⟩ := stored_of_perm (Reader.routes_attempted attempted) hes
  refine ⟨nodes', edges', hn, he, fun ids' => ?_⟩
  obtain ⟨es', attempted', same⟩ := Reader.attempts_routed routed ids'
  rw [Draft.ofRaw_eq read' attempted', ← Bool.not_eq_true, Draft.ofRead_valid]
  exact unfit es' same

/-- The order in which nodes and edges are stored does not matter to the verdict, as long as no
branch asks about another node as deep as itself. Which of two such nodes comes first in the order
is decided by nothing else, so a design with such a branch is not valid in every order. -/
theorem verdict_reordered (ids : IdSupply) (nodes edges : List Json) :
    (¬ (Draft.ofRaw ids nodes edges).survey.AsksAside → ∀ ids' nodes' edges',
      nodes.Perm nodes' → edges.Perm edges' → isValid (Draft.ofRaw ids nodes edges).validate
        = isValid (Draft.ofRaw ids' nodes' edges').validate) ∧
    ((Draft.ofRaw ids nodes edges).survey.AsksAside →
      isValid (Draft.ofRaw ids nodes edges).validate = true →
      ∃ nodes' edges', nodes.Perm nodes' ∧ edges.Perm edges' ∧
        ∀ ids', isValid (Draft.ofRaw ids' nodes' edges').validate = false) :=
  ⟨fun straight ids' _ _ hn he => verdict_kept straight hn he ids',
    fun aside valid => verdict_lost aside valid⟩

/-- A start, a branch, a question and another branch that asks about this field, and an end. -/
def armNodes (field : String) : List Json :=
  let asking (id field : String) : Json :=
    let rule := Json.obj [("field", .str field), ("operator", .str "is_set")]
    .obj [("id", .str id), ("type", .str "branch"),
      ("data", .obj [("condition", .obj [("children", .arr [rule])])])]
  [.obj [("id", .str "start"), ("type", .str "start")], asking "consent" "start",
    .obj [("id", .str "email"), ("type", .str "textInput")], asking "contact" field,
    .obj [("id", .str "end"), ("type", .str "end"), ("data", .obj [("redirectUrl", .str "/bye")])]]

/-- The first branch leads to the question and to the other branch, by edges that are stored in
either order. -/
def armEdges (questionFirst : Bool) : List Json :=
  let edge (source target : String) : Entries :=
    [("source", .str source), ("target", .str target)]
  let toEmail := Json.obj (("sourceHandle", .str "true") :: edge "consent" "email")
  let toContact := Json.obj (("sourceHandle", .str "false") :: edge "consent" "contact")
  [.obj (edge "start" "consent"), .obj (edge "email" "end"),
    .obj (("sourceHandle", .str "true") :: edge "contact" "end"),
    .obj (("sourceHandle", .str "false") :: edge "contact" "end")]
    ++ if questionFirst then [toEmail, toContact] else [toContact, toEmail]

theorem armEdges_perm : (armEdges true).Perm (armEdges false) :=
  (List.Perm.swap _ _ []).append_left _

/-- Both edges are stored with the question first. -/
def armSurvey (field : String) : Survey :=
  (Draft.ofRaw ⟨toString, 0⟩ (armNodes field) (armEdges true)).survey

/-- The start is less deep than every branch. -/
theorem arms_straight : ¬ (armSurvey "start").AsksAside := by
  rintro ⟨v, hv, hb, c, hc, field, hf, -, -, level⟩
  have asked : ∀ v ∈ (armSurvey "start").views, v.isKind .branch = true → ∀ c ∈ v.condition?,
      ∀ field ∈ c.fields, field = "start" ∧ ∃ l ∈ (armSurvey "start").flow.links, l.2 = v.id := by
    decide +kernel
  have first : ∀ l ∈ (armSurvey "start").flow.links, l.2 ≠ "start" := by decide +kernel
  obtain ⟨rfl, ⟨u, w⟩, hl, rfl⟩ := asked v hv hb c hc field hf
  cases (level 1).mpr (.link .here hl) with
  | link _ hs => exact first _ hs rfl

/-- The first branch leads to the question and to the other branch, and nothing else does. -/
theorem arms_aside : (armSurvey "email").AsksAside := by
  have asked : ∃ v ∈ (armSurvey "email").views, v.isKind .branch = true ∧ v.id = "contact" ∧
      ∃ c ∈ v.condition?, "email" ∈ c.fields := by
    decide +kernel
  have toEmail : (armSurvey "email").flow.Link "consent" "email" := by
    simp only [Flow.Link]
    decide +kernel
  have toContact : (armSurvey "email").flow.Link "consent" "contact" := by
    simp only [Flow.Link]
    decide +kernel
  have sources : ∀ l ∈ (armSurvey "email").flow.links, l.2 = "email" ∨ l.2 = "contact" →
      l.1 = "consent" := by
    decide +kernel
  obtain ⟨v, hv, hb, hi, c, hc, hf⟩ := asked
  refine ⟨v, hv, hb, c, hc, "email", hf, hi ▸ by decide, by decide +kernel, hi ▸ .of_sources ?_⟩
  intro u
  constructor
  · intro hl
    obtain rfl : u = "consent" := sources _ hl (Or.inl rfl)
    exact toContact
  · intro hl
    obtain rfl : u = "consent" := sources _ hl (Or.inr rfl)
    exact toEmail

theorem verdict_reordered_arms :
    isValid (Draft.ofRaw ⟨toString, 7⟩ (armNodes "start") (armEdges false)).validate = true ∧
    ∃ nodes edges, (armNodes "email").Perm nodes ∧ (armEdges true).Perm edges ∧
      ∀ ids, isValid (Draft.ofRaw ids nodes edges).validate = false := by
  obtain ⟨kept, -⟩ := verdict_reordered ⟨toString, 0⟩ (armNodes "start") (armEdges true)
  obtain ⟨-, lost⟩ := verdict_reordered ⟨toString, 0⟩ (armNodes "email") (armEdges true)
  refine ⟨?_, lost arms_aside (by decide +kernel)⟩
  rw [← kept arms_straight ⟨toString, 7⟩ _ _ (.refl _) armEdges_perm]
  decide +kernel

/-- Where the other branch asks about the question beside it, the order of two edges decides. -/
theorem verdict_by_storage :
    ((Draft.ofRaw ⟨toString, 0⟩ (armNodes "email") (armEdges true)).views.map View.id).Nodup ∧
    (armEdges true).Perm (armEdges false) ∧
    isValid (Draft.ofRaw ⟨toString, 0⟩ (armNodes "email") (armEdges true)).validate = true ∧
    isValid (Draft.ofRaw ⟨toString, 0⟩ (armNodes "email") (armEdges false)).validate = false :=
  ⟨by decide +kernel, armEdges_perm, by decide +kernel, by decide +kernel⟩

end Questionnaire
