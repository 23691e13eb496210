import Questionnaire.Proofs.FieldsRead
import Questionnaire.Proofs.PublishedGraph
import Questionnaire.Proofs.Stepping

namespace Questionnaire
open Relation

/-- A node is passed over only for answers to nodes that come before it. -/
def Graph.SkipsCausal (g : Graph) (order : List String) : Prop := ∀ k n c, g.node? k = some n →
  n.data.skipCondition = some c → ∀ field ∈ c.fields, Flow.Before order field k

/-- The two sets of answers give the same answers to all that comes before a node. -/
def AgreeBefore (order : List String) (k : String) (es es' : Entries) : Prop :=
  ∀ field, field = "" ∨ Flow.Before order field k → es.lookup field = es'.lookup field

theorem AgreeBefore.mono {order : List String} {a b : String} {es es' : Entries}
    (h : AgreeBefore order b es es') (hb : Flow.Before order a b) : AgreeBefore order a es es' :=
  fun field hf => h field (hf.imp_right fun hf => hf.trans hb)

theorem AgreeBefore.fields {order : List String} {k : String} {es es' : Entries}
    (h : AgreeBefore order k es es') {c : Group}
    (hc : ∀ field ∈ c.fields, Flow.Before order field k) : Agree c.fields es es' :=
  fun field hf => h field (hf.imp_right (hc field))

namespace Engine

theorem route_congr {e : Engine} {r r' : Json} {n : CompiledNode}
    (h : ∀ c, n.next.isBranch = true → n.data.condition = some c →
      e.evaluator.evaluate r c = e.evaluator.evaluate r' c) :
    (e.route r n).result = (e.route r' n).result := by
  rw [route, route]
  cases hn : n.next with
  | linear => rfl
  | branch onTrue onFalse =>
    dsimp only
    cases hc : n.data.condition.filter (!·.isEmpty) with
    | none => rfl
    | some c =>
      have same := h c (by rw [hn]; rfl) (Option.filter_eq_some_iff.mp hc).1
      simp only [evaluate, same]
      cases e.evaluator.evaluate r' c <;> rfl

theorem arrive_congr {e : Engine} {r r' : Json} {k : String} {n : CompiledNode}
    (h : ∀ c, n.data.skipCondition = some c →
      e.evaluator.evaluate r c = e.evaluator.evaluate r' c) :
    (e.arrive r k n).2 = (e.arrive r' k n).2 := by
  rw [arrive, arrive]
  cases hc : n.data.skipCondition with
  | none => rfl
  | some c =>
    simp only [evaluate, h c hc]
    cases e.evaluator.evaluate r' c with
    | error _ => rfl
    | ok b => cases b <;> rfl

theorem arrive_key {e : Engine} {r : Json} {n : CompiledNode} :
    (e.arrive r n.id n).2.key? = some n.id := by
  match h : (e.arrive r n.id n).2 with
  | .nowhere => exact absurd h arrive_somewhere
  | .present m =>
    obtain ⟨rfl, -⟩ := arrive_present.mp h
    rfl
  | .over b =>
    obtain ⟨rfl, -⟩ := arrive_over.mp h
    rfl

section

variable {e : Engine} {order : List String} (p : e.graph.Published order)
  (causal : e.graph.SkipsCausal order) {es es' : Entries} {k a b : String}
include p causal

/-- A move looks at no answers but those to what comes before the node that it comes to. -/
theorem hop_agree {h : Hop} (hb : h.key? = some b) (hh : (e.hop (.obj es) a).result = .ok h)
    (ag : AgreeBefore order b es es') : (e.hop (.obj es') a).result = .ok h := by
  have somewhere : h ≠ .nowhere := by
    rintro rfl
    cases hb
  obtain ⟨n, j, key, m, hn, hr, hf, rfl⟩ := hop_arrived hh somewhere
  obtain ⟨rfl, -, hm⟩ := follow_found.mp hf
  obtain rfl := p.keyed.named key m hm
  obtain rfl := Option.some.inj (arrive_key.symm.trans hb)
  have route : e.graph.Routes a m.id := ⟨n, hn, route_slot hr, by rw [hm]; rfl⟩
  have routed : (e.route (.obj es) n).result = (e.route (.obj es') n).result := by
    refine route_congr fun c hi hc => ?_
    obtain ⟨c', hc', -, fields⟩ := p.conditions a n hn hi
    obtain rfl := Option.some.inj (hc'.symm.trans hc)
    exact evaluate_congr _ ((ag.mono (p.before a _ route)).fields fields)
  have arrived : (e.arrive (.obj es) m.id m).2 = (e.arrive (.obj es') m.id m).2 :=
    arrive_congr fun c hc => evaluate_congr _ (ag.fields (causal m.id m c hm hc))
  rw [arrived]
  exact Hopped.result (.arrived hn (routed ▸ hr) hf)

theorem Passes.agree {ks : List String} {evs : List Event} (h : Passes e (.obj es) k ks evs a)
    (ag : AgreeBefore order a es es') : ∃ evs', Passes e (.obj es') k ks evs' a := by
  induction h with
  | here => exact ⟨[], .here⟩
  | further before move new ih =>
    have moved := congrArg Walk.result move
    obtain ⟨evs', before'⟩ := ih (ag.mono (p.before _ _ (hop_over moved).1))
    have moved' := hop_agree p causal rfl moved ag
    exact ⟨_, .further before' (by rw [← moved']) new⟩

/-- Which node comes next depends only on answers to nodes that come before it. -/
theorem next_agree {m : CompiledNode} (h : (e.next (.obj es) k).result = .ok (some m))
    (ag : AgreeBefore order m.id es es') : (e.next (.obj es') k).result = .ok (some m) := by
  obtain ⟨ks, evs, a, passed, shown⟩ := next_shown h
  obtain ⟨b, route, hb, -⟩ := hop_present shown
  obtain rfl := p.keyed.named b m hb
  obtain ⟨evs', passed'⟩ := passed.agree p causal (ag.mono (p.before a _ route))
  have shown' := hop_agree p causal rfl shown ag
  have settled : Settles e (.obj es') ks a ⟨(e.hop (.obj es') a).events, .ok (some m)⟩ :=
    .shown (by rw [← shown'])
  rw [settled.next passed']

end

/-- One step in taking a survey: an answer at the node where the session is, or a move on. -/
inductive Moves (e : Engine) : Session → Session → Prop
  | answer {s id} (value : Json) : s.finished = false → s.current = some id →
      Moves e s (s.answer id value)
  | advance {s t} : (e.advance s).result = .ok t → Moves e s t

/-- A session that is not finished stands where a walk comes, whatever is answered from now on. -/
structure Follows (e : Engine) (order : List String) (s : Session) (path : List CompiledNode)
    (n : CompiledNode) : Prop where
  going : s.finished = false
  current : s.current = some n.id
  history : s.history = (path ++ [n]).map CompiledNode.id
  new : n.id ∉ path.map CompiledNode.id
  walks : ∀ es, AgreeBefore order n.id s.responses es → ∃ evs, Enters e (.obj es) path evs n

/-- The walk on the answers of the session comes to the nodes that the session came to. -/
def Replays (e : Engine) (s : Session) : Prop :=
  ∃ t, e.trace (.obj s.responses) = .ok t ∧ t.ids = s.history

/-- What holds of a session throughout. -/
def Faithful (e : Engine) (order : List String) (s : Session) : Prop :=
  (s.finished = true ∧ e.Replays s) ∨ ∃ path n, e.Follows order s path n

section

variable {e : Engine} {order : List String} {s : Session} {path : List CompiledNode}
  {n : CompiledNode}

theorem Follows.enters (h : e.Follows order s path n) :
    ∃ evs, Enters e (.obj s.responses) path evs n := h.walks _ fun _ _ => rfl

theorem Follows.found (p : e.graph.Published order) (h : e.Follows order s path n) :
    e.graph.node? n.id = some n := by
  obtain ⟨evs, entered⟩ := h.enters
  exact entered.found p.keyed

/-- A walk that ends where the session stands goes where the session went. -/
theorem Follows.replays (h : e.Follows order s path n)
    {more : List Event} (last : Ends e (.obj s.responses) path n ⟨more, .ok (path ++ [n])⟩) :
    e.Replays s.finish := by
  obtain ⟨evs, entered⟩ := h.enters
  exact ⟨⟨path ++ [n], evs ++ more⟩, trace_ok.mpr (last.walk entered), h.history.symm⟩

/-- An answer to the node itself changes none that counted on the way to it. -/
theorem Follows.answer (p : e.graph.Published order) (h : e.Follows order s path n)
    (value : Json) : e.Follows order (s.answer n.id value) path n := by
  refine ⟨h.going, h.current, h.history, h.new, ?_⟩
  intro es ag
  apply h.walks
  intro field hf
  have named := p.named n.id (Graph.key_of_node? (h.found p))
  have other : field ≠ n.id := by
    rintro rfl
    rcases hf with empty | before
    · exact named empty
    · exact before.irrefl
  rw [← ag field hf, Session.answer, Ordered.lookup_put, if_neg other]

/-- The search for the next node looked at no answers but those that are settled when the session
comes to it. -/
theorem Follows.moved (p : e.graph.Published order) (causal : e.graph.SkipsCausal order)
    (h : e.Follows order s path n) (going : n.isEnd = false) {m : CompiledNode}
    (shown : (e.next (.obj s.responses) n.id).result = .ok (some m)) (new : m.id ∉ s.history) :
    e.Follows order (s.movedTo m.id) (path ++ [n]) m := by
  obtain ⟨b, route, hb⟩ := next_ahead shown
  obtain rfl := p.keyed.named b m hb
  refine ⟨h.going, rfl, ?_, h.history ▸ new, fun es ag => ?_⟩
  · rw [Session.movedTo, h.history, ← List.map_singleton, ← List.map_append]
  · -- what settles the way to the next node settles the way to this one, which comes before it
    obtain ⟨evs, entered⟩ := h.walks es (ag.mono (p.ahead route))
    have shown' := next_agree p causal shown ag
    exact ⟨_, .next entered h.new going (by rw [← shown'])⟩

theorem Follows.advance (p : e.graph.Published order) (causal : e.graph.SkipsCausal order)
    (h : e.Follows order s path n) {t : Session} (move : (e.advance s).result = .ok t) :
    e.Faithful order t := by
  have moved := advances (Named.currentNode? p.named h.current (h.found p))
  rw [move] at moved
  cases moved with
  | still finished =>
    rw [h.going] at finished
    cases finished
  | ending _ final => exact Or.inl ⟨rfl, h.replays (.ending h.new final)⟩
  | loose _ final found =>
    have whole : e.next (.obj s.responses) n.id
        = ⟨(e.next (.obj s.responses) n.id).events, .ok none⟩ := by rw [← found]
    exact Or.inl ⟨rfl, h.replays (.loose h.new final whole)⟩
  | moved _ final shown new =>
    exact Or.inr ⟨path ++ [n], _, h.moved p causal final shown new⟩

theorem Moves.faithful (p : e.graph.Published order) (causal : e.graph.SkipsCausal order)
    {t : Session} (move : Moves e s t) (h : e.Faithful order s) : e.Faithful order t := by
  cases move with
  | answer value going current =>
    rcases h with ⟨finished, -⟩ | ⟨path, n, h⟩
    · rw [going] at finished
      cases finished
    · obtain rfl := Option.some.inj (current.symm.trans h.current)
      exact Or.inr ⟨path, n, h.answer p value⟩
  | advance move =>
    rcases h with ⟨finished, replays⟩ | ⟨path, n, h⟩
    · rw [Engine.advance, if_pos finished] at move
      obtain rfl := Except.ok.inj move
      exact Or.inl ⟨finished, replays⟩
    · exact h.advance p causal move

theorem begin_faithful {initial : Entries} (h : e.begin initial = .ok s) :
    e.Faithful order s := by
  cases hs : e.startNode with
  | error x =>
    rw [begin, hs] at h
    cases h
  | ok n =>
    rw [begin, hs] at h
    obtain rfl := Except.ok.inj h
    exact Or.inr ⟨[], n, rfl, rfl, rfl, by simp, fun _ _ => ⟨[], .start hs⟩⟩

theorem moves_faithful (p : e.graph.Published order) (causal : e.graph.SkipsCausal order)
    {initial : Entries} {s₀ : Session} (begun : e.begin initial = .ok s₀)
    (moves : ReflTransGen (Moves e) s₀ s) : e.Faithful order s := by
  induction moves with
  | refl => exact begin_faithful begun
  | tail _ move ih => exact move.faithful p causal ih

end

end Engine

/-- Without a warning about conditions by which nodes are passed over, these are about nodes that
come before. -/
theorem skipsCausal_of_unwarned {nodes : List Node} {edges : List Edge}
    (p : Publishable nodes edges)
    (unwarned : ∀ q ∈ (Draft.ofRead nodes edges).validate, q.code ≠ "SKIP_LOGIC_ORDER") :
    (Graph.compile nodes edges).SkipsCausal (drawn nodes edges).order := by
  intro k m c hm hc
  obtain ⟨n, hn, rfl, rfl⟩ := Graph.compiled_of_node? p.distinct hm
  refine Survey.lateFields_nil.mp ?_ c hc
  refine List.eq_nil_iff_forall_not_mem.mpr fun field hf => ?_
  refine unwarned (.lateSkipField (View.ofNode n).subject field) ?_ rfl
  rw [Draft.validate, Draft.survey_ofRead p.distinct, Survey.problems,
    Survey.flow_ofNodes p.joined]
  refine List.mem_append_right _ (List.mem_append_right _ ?_)
  refine List.mem_flatMap.mpr ⟨View.ofNode n, List.mem_map_of_mem hn, ?_⟩
  refine List.mem_append_right _ (List.mem_append_left _ ?_)
  have placed : (drawn nodes edges).order.contains (View.ofNode n).id = true := by
    simpa [View.ofNode] using p.mem_order hn
  rw [Survey.skipProblems, if_pos placed]
  exact List.mem_map_of_mem hf

/-- A survey taken step by step on a design that validates, also without a warning about the order
of conditions, went where a walk on all its answers goes. The answers that the session had from the
beginning are free, also those to nodes that come later. -/
theorem session_replays (ids ids' : IdSupply) (nodes edges : List Json)
    (otherValue defaultOtherLabel : String)
    (valid : Problem.isValid (Draft.ofRaw ids nodes edges).validate = true)
    (unwarned : ∀ q ∈ (Draft.ofRaw ids nodes edges).validate, q.code ≠ "SKIP_LOGIC_ORDER") :
    ∃ g, (Graph.compileRaw ids' nodes edges).result = .ok g ∧
      ∀ (initial : Entries) (s₀ s : Session),
        (Engine.ofGraph g otherValue defaultOtherLabel).begin initial = .ok s₀ →
        ReflTransGen (Engine.ofGraph g otherValue defaultOtherLabel).Moves s₀ s →
        s.finished = true → (Engine.ofGraph g otherValue defaultOtherLabel).Replays s := by
  obtain ⟨ns, es, accepted⟩ := Draft.ofRaw_valid.mp valid
  rw [Draft.ofRaw_eq accepted.1 accepted.2.1] at unwarned
  refine ⟨Graph.compile ns es, accepted.compiled ids', fun initial s₀ s begun moves finished => ?_⟩
  have causal := skipsCausal_of_unwarned accepted.2.2 unwarned
  rcases Engine.moves_faithful (e := .ofGraph _ _ _) accepted.published causal begun moves with
    ⟨-, replays⟩ | ⟨path, n, h⟩
  · exact replays
  · rw [h.going] at finished
    cases finished

/-- Two questions, of which the second is asked only after one answer to the first. -/
def detour : List Json × List Json :=
  let rule := Json.obj [("field", .str "pets"), ("operator", .str "equals"), ("value", .str "yes")]
  let edge (source target : String) : Json :=
    .obj [("source", .str source), ("target", .str target)]
  ([.obj [("id", .str "start"), ("type", .str "start")],
    .obj [("id", .str "pets"), ("type", .str "textInput")],
    .obj [("id", .str "names"), ("type", .str "textInput"),
      ("data", .obj [("condition", .obj [("children", .arr [rule])])])],
    .obj [("id", .str "end"), ("type", .str "end"), ("data", .obj [("redirectUrl", .str "/bye")])]],
   [edge "start" "pets", edge "pets" "names", edge "names" "end"])

/-- The graph that it compiles to. -/
def detourGraph : Graph :=
  (Graph.compileRaw ⟨toString, 7⟩ detour.1 detour.2).result.toOption.getD []

def detourEngine : Engine := .ofGraph detourGraph "other" "Other"

/-- The answer to the first question takes the session past the second. -/
theorem session_replays_detour :
    (Graph.compileRaw ⟨toString, 7⟩ detour.1 detour.2).result = .ok detourGraph ∧
      detourEngine.Replays ⟨[("pets", .str "no")], some "end", ["start", "pets", "end"], true⟩ := by
  obtain ⟨g, hg, replays⟩ := session_replays ⟨toString, 0⟩ ⟨toString, 7⟩ detour.1 detour.2 "other"
    "Other" (by decide +kernel) (by decide +kernel)
  have same : (Graph.compileRaw ⟨toString, 7⟩ detour.1 detour.2).result = .ok detourGraph := by
    decide +kernel
  obtain rfl := Except.ok.inj (hg.symm.trans same)
  have begun : detourEngine.begin [] = .ok ⟨[], some "start", ["start"], false⟩ := by
    decide +kernel
  have first : detourEngine.Moves ⟨[], some "start", ["start"], false⟩
      ⟨[], some "pets", ["start", "pets"], false⟩ := .advance (by decide +kernel)
  have answered : detourEngine.Moves ⟨[], some "pets", ["start", "pets"], false⟩
      ⟨[("pets", .str "no")], some "pets", ["start", "pets"], false⟩ := .answer (.str "no") rfl rfl
  have second : detourEngine.Moves ⟨[("pets", .str "no")], some "pets", ["start", "pets"], false⟩
      ⟨[("pets", .str "no")], some "end", ["start", "pets", "end"], false⟩ :=
    .advance (by decide +kernel)
  have third : detourEngine.Moves
      ⟨[("pets", .str "no")], some "end", ["start", "pets", "end"], false⟩
      ⟨[("pets", .str "no")], some "end", ["start", "pets", "end"], true⟩ :=
    .advance (by decide +kernel)
  have moves := (((ReflTransGen.single first).tail answered).tail second).tail third
  exact ⟨same, replays [] _ _ begun moves rfl⟩

end Questionnaire
