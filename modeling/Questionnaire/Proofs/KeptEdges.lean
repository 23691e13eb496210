import Mathlib.Data.List.Perm.Basic
import Questionnaire.Proofs.Checks
import Questionnaire.Proofs.PublishGate

namespace Questionnaire

/-- What a route out of a node is for: a branch has two, any other node one. -/
inductive Slot where
  | only
  | onTrue
  | onFalse
deriving DecidableEq

namespace Next

/-- The slots with the routes that they hold. -/
def entries : Next → List (Slot × Json)
  | .linear next => [(.only, next)]
  | .branch onTrue onFalse => [(.onTrue, onTrue), (.onFalse, onFalse)]

/-- The slot that an edge with this handle is for. -/
def slot? (handle : Option String) : Next → Option Slot
  | .linear _ => some .only
  | .branch .. =>
    if handle = some "true" then some .onTrue
    else if handle = some "false" then some .onFalse
    else none

theorem entry_of_slot? {handle : Option String} {next : Next} {slot : Slot}
    (h : next.slot? handle = some slot) : ∃ route, (slot, route) ∈ next.entries := by
  cases next with
  | linear route =>
    obtain rfl := Option.some.inj h
    exact ⟨route, List.mem_singleton_self _⟩
  | branch onTrue onFalse =>
    rw [slot?] at h
    split at h
    · obtain rfl := Option.some.inj h
      exact ⟨onTrue, by simp [entries]⟩
    · split at h
      · obtain rfl := Option.some.inj h
        exact ⟨onFalse, by simp [entries]⟩
      · cases h

end Next

namespace Graph

/-- The edges that are for this slot of a node, among those that leave it. -/
def lane (next : Next) (slot : Slot) (edges : List Edge) : List Edge :=
  edges.filter fun e => next.slot? e.sourceHandle == some slot

theorem lane_linear (route : Json) (edges : List Edge) :
    lane (.linear route) .only edges = edges := List.filter_eq_self.mpr fun _ _ => rfl

theorem lane_branch (onTrue onFalse : Json) (edges : List Edge) :
    lane (.branch onTrue onFalse) .onTrue edges = edges.filter (·.sourceHandle == some "true") ∧
    lane (.branch onTrue onFalse) .onFalse edges
      = edges.filter (·.sourceHandle == some "false") := by
  constructor <;> refine List.filter_congr fun e _ => ?_
  all_goals
    rw [Bool.eq_iff_iff, beq_iff_eq, beq_iff_eq, Next.slot?]
    by_cases ht : e.sourceHandle = some "true"
    · simp [ht]
    · by_cases hf : e.sourceHandle = some "false" <;> simp [ht, hf]

/-- Every slot holds where the last of the edges for it leads. -/
theorem entries_routed (ids : List String) (edges : List Edge) (next : Next) :
    (routed ids edges next).entries = next.entries.map fun x =>
      (x.1, lastLanding ids (lane next x.1 edges) x.2) := by
  cases next with
  | linear route =>
    rw [routed_linear, Next.entries, Next.entries, List.map_singleton, lane_linear]
  | branch onTrue onFalse =>
    obtain ⟨trues, falses⟩ := lane_branch onTrue onFalse edges
    rw [routed_branch, Next.entries, Next.entries, ← trues, ← falses]
    rfl

theorem slot?_routed (ids : List String) (edges : List Edge) (next : Next)
    (handle : Option String) : (routed ids edges next).slot? handle = next.slot? handle := by
  cases next with
  | linear route => rw [routed_linear]; rfl
  | branch onTrue onFalse => rw [routed_branch]; rfl

/-- The slot of its source that an edge is for; none if there is no such node, or if it is a branch
and the edge has neither of its handles. -/
def slot? (g : Graph) (e : Edge) : Option Slot :=
  (g.node? e.source).bind (·.next.slot? e.sourceHandle)

/-- The slot that the edge is for holds its target. -/
def Holds (g : Graph) (e : Edge) : Prop :=
  ∃ n slot, g.node? e.source = some n ∧ g.slot? e = some slot ∧
    (slot, .str e.target) ∈ n.next.entries

/-- One of these edges leaves the same node and is for the same slot. -/
def Shared (g : Graph) (e : Edge) (others : List Edge) : Prop :=
  ∃ e' ∈ others, e'.source = e.source ∧ g.slot? e' = g.slot? e

end Graph

/-- The problem is about the edge, or about too many edges out of the node that the edge leaves. -/
def Problem.Blames (p : Problem) (e : Edge) : Prop :=
  (p.code ∈ ["INVALID_EDGE_SOURCE", "INVALID_EDGE_TARGET", "INVALID_BRANCH_HANDLE"] ∧
    p.edgeId? = some e.id) ∨
  (p.code ∈ ["DUPLICATE_BRANCH_HANDLE", "TOO_MANY_OUTGOING", "END_HAS_OUTGOING"] ∧
    p.nodeId? = some e.source)

/-- Each edge that is not kept in the graph, or that a later one takes the place of, is covered by a
problem. -/
def Graph.Accounts (g : Graph) (edges : List Edge) (ps : List Problem) : Prop :=
  ∀ before e after, edges = before ++ e :: after → (¬ g.Holds e ∨ g.Shared e after) →
    ∃ p ∈ ps, p.Blames e

namespace Survey

variable {s : Survey} {n : Node} {e : Edge}

theorem found_at {v : View} (hv : v ∈ s.views) {p : Problem}
    (hp : p ∈ s.nodeProblems s.flow.order v) : p ∈ s.found p.check := by
  rw [nodeProblems_check hp]
  exact List.mem_flatMap.mpr ⟨v, hv, hp⟩

/-- An edge out of a branch has one of two handles or is blamed for its own. Many edges with one
handle are blamed for their number. -/
theorem handleProblems_blame {v : View} {edges : List Edge} (he : e ∈ edges)
    (source : e.source = v.id) : (∃ p ∈ handleProblems v edges, p.Blames e) ∨
      ∃ handle ∈ handles, e.sourceHandle = some handle ∧ countHandle edges handle ≤ 1 := by
  by_cases known : ∃ handle ∈ handles, e.sourceHandle = some handle
  · obtain ⟨handle, hh, same⟩ := known
    by_cases many : 1 < countHandle edges handle
    · refine Or.inl ⟨.repeatedHandle v.subject handle (countHandle edges handle), ?_,
        Or.inr ⟨by simp [Problem.code], congrArg some source.symm⟩⟩
      refine List.mem_append_left _ (List.mem_append_right _ (List.mem_map_of_mem ?_))
      exact List.mem_filter.mpr ⟨hh, decide_eq_true many⟩
    · exact Or.inr ⟨handle, hh, same, Nat.le_of_not_lt many⟩
  · refine Or.inl ⟨.unknownHandle v.subject e, ?_, Or.inl ⟨by simp [Problem.code], rfl⟩⟩
    refine List.mem_append_left _ (List.mem_append_left _ (List.mem_map_of_mem ?_))
    refine List.mem_filter.mpr ⟨he, ?_⟩
    simpa using known

/-- Of the edges out of a node, each is blamed or alone in its slot. -/
theorem nodeProblems_blame (order : List String) (he : e ∈ s.outgoing n.id) :
    (∃ p ∈ s.nodeProblems order (View.ofNode n), p.Blames e) ∨
      ∃ slot, (Next.unset n.kind).slot? e.sourceHandle = some slot ∧
        (Graph.lane (Next.unset n.kind) slot (s.outgoing n.id)).length ≤ 1 := by
  have source : e.source = n.id := beq_iff_eq.mp (List.mem_filter.mp he).2
  by_cases hk : n.kind = .ending
  · refine Or.inl ⟨.endWithOutgoing (View.ofNode n).subject, List.mem_append_left _ ?_,
      Or.inr ⟨by simp [Problem.code], congrArg some source.symm⟩⟩
    rw [isKind_ofNode, if_pos (beq_iff_eq.mpr hk), show (View.ofNode n).id = n.id from rfl,
      endProblems, if_neg (by simpa using List.ne_nil_of_mem he)]
    exact List.mem_append_right _ (List.mem_singleton_self _)
  · by_cases hb : n.kind = .branch
    · rcases handleProblems_blame (v := View.ofNode n) he source with
        ⟨p, hp, blames⟩ | ⟨handle, hh, same, few⟩
      · refine Or.inl ⟨p, List.mem_append_left _ ?_, blames⟩
        rw [isKind_ofNode, isKind_ofNode, if_neg (by simpa using hk),
          if_pos (beq_iff_eq.mpr hb)]
        exact List.mem_append_left _ (List.mem_append_right _ hp)
      · rw [countHandle, List.countP_eq_length_filter] at few
        obtain ⟨trues, falses⟩ := Graph.lane_branch .null .null (s.outgoing n.id)
        rw [Next.unset, if_pos hb]
        rcases List.mem_pair.mp hh with rfl | rfl
        · exact Or.inr ⟨.onFalse, by simp [Next.slot?, same], falses ▸ few⟩
        · exact Or.inr ⟨.onTrue, by simp [Next.slot?, same], trues ▸ few⟩
    · by_cases many : 1 < (s.outgoing n.id).length
      · refine Or.inl ⟨.manyOutgoing (View.ofNode n).subject (s.outgoing n.id).length,
          List.mem_append_left _ ?_,
          Or.inr ⟨by simp [Problem.code], congrArg some source.symm⟩⟩
        rw [isKind_ofNode, isKind_ofNode, if_neg (by simpa using hk), if_neg (by simpa using hb),
          show (View.ofNode n).id = n.id from rfl, if_pos many]
        exact List.mem_singleton_self _
      · rw [Next.unset, if_neg hb]
        refine Or.inr ⟨.only, rfl, ?_⟩
        rw [Graph.lane_linear]
        exact Nat.le_of_not_lt many

end Survey

section

variable {nodes : List Node} {edges : List Edge} (distinct : (nodes.map Node.id).Nodup)
include distinct

theorem Graph.slot?_compile {n : Node} (hn : n ∈ nodes) {e : Edge} (source : e.source = n.id) :
    (compile nodes edges).slot? e = (Next.unset n.kind).slot? e.sourceHandle := by
  rw [slot?, source, node?_compiled distinct hn]
  exact slot?_routed _ _ _ _

/-- An edge that is alone in its slot is kept there. -/
theorem Graph.holds_alone {n : Node} (hn : n ∈ nodes) {e : Edge} (source : e.source = n.id)
    (target : e.target ∈ nodes.map Node.id) {slot : Slot}
    (hs : (Next.unset n.kind).slot? e.sourceHandle = some slot)
    (alone : lane (Next.unset n.kind) slot (edges.filter (·.source == n.id)) = [e]) :
    (compile nodes edges).Holds e := by
  refine ⟨compiled nodes edges n, slot, ?_, ?_, ?_⟩
  · rw [source, node?_compiled distinct hn]
  · rw [slot?_compile distinct hn source, hs]
  · obtain ⟨route, unset⟩ := Next.entry_of_slot? hs
    rw [compiled, entries_routed]
    refine List.mem_map.mpr ⟨_, unset, ?_⟩
    dsimp only
    rw [alone, lastLanding, List.getLast?_singleton, Option.map_some, Option.getD_some, landing,
      if_pos target]

end

/-- Where no more than one of a list passes, one that does is the only one. -/
theorem filter_eq_singleton {α : Type} {p : α → Bool} {before after : List α} {x : α}
    (single : ((before ++ x :: after).filter p).length ≤ 1) (hx : p x = true) :
    (before ++ x :: after).filter p = [x] ∧ ∀ y ∈ after, p y = false := by
  rw [List.filter_append, List.filter_cons_of_pos hx] at single ⊢
  rw [List.length_append, List.length_cons] at single
  have front : before.filter p = [] := List.length_eq_zero_iff.mp (by omega)
  have back : after.filter p = [] := List.length_eq_zero_iff.mp (by omega)
  refine ⟨by rw [front, back, List.nil_append], fun y hy => ?_⟩
  simpa using List.filter_eq_nil_iff.mp back y hy

/-- What the check reads as nodes may leave out some that are compiled, for want of an id, and no
others: edges that join these are then blamed for joining what is not there. -/
theorem Draft.accounts {nodes : List Node} {d : Draft} (distinct : (nodes.map Node.id).Nodup)
    (known : d.views.Sublist (nodes.map View.ofNode)) :
    (Graph.compile nodes d.edges).Accounts d.edges d.validate := by
  have once : (d.views.map View.id).Nodup := by
    refine List.Nodup.sublist (known.map View.id) ?_
    rw [List.map_map]
    exact distinct
  have whole : d.survey = ⟨d.views, d.edges⟩ := by
    rw [survey, firstViews_eq (repeatedIds_nil.mpr ⟨once, fun _ _ => List.not_mem_nil⟩)]
  have viewed {id : String} (h : d.survey.has id = true) :
      ∃ n ∈ nodes, n.id = id ∧ View.ofNode n ∈ d.survey.views := by
    rw [Survey.has_iff, whole] at h
    obtain ⟨v, hv, rfl⟩ := List.mem_map.mp h
    obtain ⟨n, hn, rfl⟩ := List.mem_map.mp (known.subset hv)
    exact ⟨n, hn, rfl, whole ▸ hv⟩
  intro before e after split lost
  have he : e ∈ d.survey.edges := by
    rw [survey, split]
    simp
  by_cases hs : d.survey.has e.source = true
  · by_cases ht : d.survey.has e.target = true
    · obtain ⟨n, hn, source, hv⟩ := viewed hs
      obtain ⟨m, hm, target, -⟩ := viewed ht
      have leaves : e ∈ d.survey.outgoing n.id :=
        List.mem_filter.mpr ⟨he, beq_iff_eq.mpr source.symm⟩
      rcases Survey.nodeProblems_blame d.survey.flow.order leaves with
        ⟨p, hp, blames⟩ | ⟨slot, hslot, few⟩
      · exact ⟨p, mem_validate (Survey.found_at hv hp), blames⟩
      · rw [show d.survey.outgoing n.id = d.edges.filter (·.source == n.id) from rfl, Graph.lane,
          List.filter_filter, split] at few
        obtain ⟨alone, last⟩ := filter_eq_singleton few (by simp [hslot, source])
        have held : (Graph.compile nodes d.edges).Holds e := by
          refine Graph.holds_alone distinct hn source.symm ?_ hslot ?_
          · exact target ▸ List.mem_map_of_mem hm
          · rw [Graph.lane, List.filter_filter, split, alone]
        rcases lost with dropped | ⟨e', he', same, beside⟩
        · exact absurd held dropped
        · rw [Graph.slot?_compile distinct hn source.symm,
            Graph.slot?_compile distinct hn (same.trans source.symm), hslot] at beside
          have other := last e' he'
          rw [same, beside] at other
          simp [source] at other
    · refine ⟨.unknownTarget e, mem_validate ?_, Or.inl ⟨by simp [Problem.code], rfl⟩⟩
      exact List.mem_filterMap.mpr ⟨e, he, by simp [hs, ht]⟩
  · refine ⟨.unknownSource e, mem_validate ?_, Or.inl ⟨by simp [Problem.code], rfl⟩⟩
    exact List.mem_filterMap.mpr ⟨e, he, by simp [hs]⟩

namespace Graph

/-- What the slots of all nodes but ends hold. -/
def readBack (g : Graph) : List (String × Slot × Json) :=
  ((g.map Prod.snd).filter (!·.isEnd)).flatMap fun n => n.next.entries.map fun x => (n.id, x)

/-- The edges out of other nodes than ends. -/
def onward (g : Graph) (edges : List Edge) : List Edge :=
  edges.filter fun e => (g.node? e.source).any (!·.isEnd)

/-- The slot of its source that holds an edge. -/
def kept? (g : Graph) (e : Edge) : Option (String × Slot × Json) :=
  (g.slot? e).map fun slot => (e.source, slot, .str e.target)

/-- What is read back are the edges out of other nodes than ends, each from a slot of its own, and
no slot of these nodes is left without a way on. -/
structure ReadsBack (g : Graph) (edges : List Edge) : Prop where
  exact : (g.readBack.map some).Perm ((g.onward edges).map g.kept?)
  filled : ∀ x ∈ g.readBack, ∃ b, x.2.2 = .str b ∧ (g.node? b).isSome = true

end Graph

/-- A list sorted by keys is the list again, as far as its keys go. -/
theorem perm_flatMap_filter {α : Type} (key : α → String) (xs : List α) {keys : List String}
    (h : keys.Nodup) :
    (keys.flatMap fun k => xs.filter (key · == k)).Perm
      (xs.filter fun x => keys.contains (key x)) := by
  induction keys with
  | nil => simp
  | cons k ks ih =>
    obtain ⟨new, h⟩ := List.nodup_cons.mp h
    have first : (xs.filter fun x => (k :: ks).contains (key x)).filter (key · == k)
        = xs.filter (key · == k) := by
      rw [List.filter_filter]
      exact List.filter_congr fun x _ => by by_cases hx : key x = k <;> simp [hx]
    have others : (xs.filter fun x => (k :: ks).contains (key x)).filter (!key · == k)
        = xs.filter fun x => ks.contains (key x) := by
      rw [List.filter_filter]
      exact List.filter_congr fun x _ => by by_cases hx : key x = k <;> simp [hx, new]
    have split := List.filter_append_perm (key · == k)
      (xs.filter fun x => (k :: ks).contains (key x))
    rw [first, others] at split
    rw [List.flatMap_cons]
    exact ((ih h).append_left _).trans split

namespace Publishable

variable {nodes : List Node} {edges : List Edge} (p : Publishable nodes edges)
include p

/-- The slots of a node that is no end hold the targets of its edges. -/
theorem entries_perm {n : Node} (hn : n ∈ nodes) (going : n.kind ≠ .ending) :
    ((Graph.compiled nodes edges n).next.entries.map fun x => some (n.id, x)).Perm
      ((edges.filter (·.source == n.id)).map (Graph.compile nodes edges).kept?) := by
  have lands {e : Edge} (he : e ∈ edges.filter (·.source == n.id)) :
      Graph.landing (nodes.map Node.id) e = .str e.target ∧ e.source = n.id ∧
        (Graph.compile nodes edges).slot? e = (Next.unset n.kind).slot? e.sourceHandle := by
    obtain ⟨he, source⟩ := List.mem_filter.mp he
    have source : e.source = n.id := beq_iff_eq.mp source
    refine ⟨if_pos (p.joined e he).2, source, Graph.slot?_compile p.distinct hn source⟩
  rw [Graph.compiled, Graph.entries_routed]
  by_cases hb : n.kind = .branch
  · obtain ⟨t, f, perm, ht, hf⟩ := p.forks n hn hb
    have unset : Next.unset n.kind = .branch .null .null := if_pos hb
    obtain ⟨trues, falses⟩ := Survey.filter_forked perm ht hf
    obtain ⟨onTrue, onFalse⟩ := Graph.lane_branch .null .null (edges.filter (·.source == n.id))
    obtain ⟨trueTarget, trueSource, trueSlot⟩ := lands (e := t) (perm.mem_iff.mpr (by simp))
    obtain ⟨falseTarget, falseSource, falseSlot⟩ := lands (e := f) (perm.mem_iff.mpr (by simp))
    refine .trans (.of_eq ?_) (perm.map _).symm
    simp only [unset, Next.entries, List.map_cons, List.map_nil, onTrue, onFalse, trues, falses,
      Graph.kept?, trueSlot, falseSlot, trueSource, falseSource]
    simp [Graph.lastLanding, trueTarget, falseTarget, Next.slot?, ht, hf]
  · have unset : Next.unset n.kind = .linear .null := if_neg hb
    obtain ⟨e, leaving⟩ := List.length_eq_one_iff.mp
      (Nat.le_antisymm (p.single n hn going hb) (List.length_pos_iff.mpr (p.leaves hn going)))
    obtain ⟨target, source, slot⟩ := lands (leaving ▸ List.mem_singleton_self e)
    rw [unset, Next.entries, List.map_singleton, List.map_singleton, Graph.lane_linear, leaving,
      List.map_singleton, Graph.kept?, slot, unset, source]
    simp [Graph.lastLanding, target, Next.slot?]

theorem onward_compile : (Graph.compile nodes edges).onward edges = edges.filter fun e =>
    ((nodes.filter (·.kind != .ending)).map Node.id).contains e.source := by
  refine List.filter_congr fun e he => ?_
  obtain ⟨n, hn, source⟩ := List.mem_map.mp (p.joined e he).1
  rw [← source, Graph.node?_compiled p.distinct hn, Option.any_some, Bool.eq_iff_iff,
    List.contains_iff_mem, List.mem_map]
  constructor
  · intro going
    exact ⟨n, List.mem_filter.mpr ⟨hn, going⟩, rfl⟩
  · rintro ⟨m, hm, same⟩
    obtain ⟨hm, going⟩ := List.mem_filter.mp hm
    obtain rfl := List.inj_on_of_nodup_map p.distinct hm hn same
    exact going

/-- The graph of a design that can be published holds its edges and nothing else. -/
theorem readsBack : (Graph.compile nodes edges).ReadsBack edges := by
  have going : (nodes.filter (·.kind != .ending)).map Node.id |>.Nodup :=
    p.distinct.sublist (List.filter_sublist.map _)
  have sorted := (perm_flatMap_filter Edge.source edges going).map (Graph.compile nodes edges).kept?
  rw [List.map_flatMap, List.flatMap_map, ← p.onward_compile] at sorted
  have exact : ((Graph.compile nodes edges).readBack.map some).Perm
      (((Graph.compile nodes edges).onward edges).map (Graph.compile nodes edges).kept?) := by
    rw [Graph.readBack, Graph.values_compile p.distinct, List.filter_map, List.flatMap_map,
      List.map_flatMap]
    refine .trans (.flatMap_left _ fun n hn => ?_) sorted
    obtain ⟨hn, going⟩ := List.mem_filter.mp hn
    rw [List.map_map]
    exact p.entries_perm hn (by simpa [CompiledNode.isEnd, Graph.compiled] using going)
  refine ⟨exact, fun x hx => ?_⟩
  obtain ⟨e, he, same⟩ := List.mem_map.mp (exact.mem_iff.mp (List.mem_map_of_mem hx))
  obtain ⟨slot, -, rfl⟩ := Option.map_eq_some_iff.mp same
  obtain ⟨n, hn, target⟩ := List.mem_map.mp (p.joined e (List.mem_of_mem_filter he)).2
  exact ⟨e.target, rfl, by rw [← target, Graph.node?_compiled p.distinct hn]; rfl⟩

end Publishable

/-- No edge is lost without a problem to say so, whether the design was read before or is still to
be read, and whatever ids the nodes have, as long as these are distinct. Where a design can be
published, the graph gives its edges back. -/
theorem edges_accounted :
    (∀ (nodes : List Node) (edges : List Edge), (nodes.map Node.id).Nodup →
      (Graph.compile nodes edges).Accounts edges (Draft.ofRead nodes edges).validate) ∧
    (∀ (ids ids' : IdSupply) (nodes edges : List Json) (g : Graph),
      (Graph.compileRaw ids' nodes edges).result = .ok g →
      ((Node.reader.batch ids' nodes).items.map Node.id).Nodup →
      ∃ es : List Edge, (Edge.reader.attempts ids edges).1 = es.map .ok ∧
        g.Accounts es (Draft.ofRaw ids nodes edges).validate) ∧
    ∀ (ids ids' : IdSupply) (nodes edges : List Json),
      Problem.isValid (Draft.ofRaw ids nodes edges).validate = true →
      ∃ g es, (Graph.compileRaw ids' nodes edges).result = .ok g ∧
        (Edge.reader.attempts ids edges).1 = es.map .ok ∧ g.ReadsBack es := by
  refine ⟨fun nodes edges distinct => ?_, fun ids ids' nodes edges g compiles distinct => ?_,
    fun ids ids' nodes edges valid => ?_⟩
  · exact Draft.accounts (d := .ofRead nodes edges) distinct (.refl _)
  · obtain ⟨read, es, attempted, rfl⟩ := Graph.read_of_compileRaw compiles ids
    have edges_eq : (Draft.ofRaw ids nodes edges).edges = es := by
      rw [Draft.ofRaw]
      simp [Draft.edges_read attempted, List.filterMap_map]
    refine ⟨es, attempted, ?_⟩
    have accounts := Draft.accounts (d := .ofRaw ids nodes edges) distinct (Draft.views_read read)
    rwa [edges_eq] at accounts
  · obtain ⟨ns, es, accepted⟩ := Draft.ofRaw_valid.mp valid
    exact ⟨_, es, accepted.compiled ids', accepted.2.1, accepted.2.2.readsBack⟩

/-- A start with two edges, of which the second takes the place of the first. -/
def crossed : List Node × List Edge :=
  ([⟨"a", ⟨.zero, .zero⟩, .start, ⟨"", "", none, .start "", []⟩⟩,
    ⟨"b", ⟨.zero, .zero⟩, .textInput, ⟨"", "", none, .text "" false, []⟩⟩],
   [⟨"1", "a", "b", none, none, none⟩, ⟨"2", "a", "b", some "true", none, none⟩])

theorem edges_accounted_crossed :
    (∃ p ∈ (Draft.ofRead crossed.1 crossed.2).validate,
      p.Blames ⟨"1", "a", "b", none, none, none⟩) ∧
    (∃ g es, (Graph.compileRaw ⟨toString, 7⟩ fork.1 fork.2).result = .ok g ∧
      g.Accounts es (Draft.ofRaw ⟨toString, 0⟩ fork.1 fork.2).validate) ∧
    ∃ g es, (Graph.compileRaw ⟨toString, 7⟩ fork.1 fork.2).result = .ok g ∧ g.ReadsBack es := by
  obtain ⟨read, raw, valid⟩ := edges_accounted
  obtain ⟨g, es, compiles, -, back⟩ := valid ⟨toString, 0⟩ ⟨toString, 7⟩ fork.1 fork.2
    (by decide +kernel)
  obtain ⟨es', -, accounts⟩ := raw ⟨toString, 0⟩ ⟨toString, 7⟩ fork.1 fork.2 g compiles
    (by decide +kernel)
  refine ⟨?_, ⟨g, es', compiles, accounts⟩, g, es, compiles, back⟩
  refine read crossed.1 crossed.2 (by decide) [] _ _ rfl (Or.inr ?_)
  exact ⟨⟨"2", "a", "b", some "true", none, none⟩, List.mem_singleton_self _, rfl,
    by decide +kernel⟩

end Questionnaire
