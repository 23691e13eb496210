import Questionnaire.Proofs.Checks
import Questionnaire.Proofs.Progress
import Questionnaire.Proofs.Replay
import Questionnaire.Proofs.RuleCases

namespace Questionnaire
open Relation

namespace Survey

/-- A late field by which a node is passed over is reported by the check of the node's own
condition alone. -/
theorem skip_of_nodeProblems {s : Survey} {order : List String} {v : View} {subject : Subject}
    {field : String} (h : .lateSkipField subject field ∈ s.nodeProblems order v) :
    ∃ n, v.node = some n ∧ .lateSkipField subject field ∈ skipProblems order v n := by
  cases Arises.of_nodeProblems h with
  | lateSkip node late => exact ⟨_, node, late⟩

end Survey

namespace Engine

/-- The next move of the session comes to this key, after others were passed over, and decides
whether the node under it is shown. -/
def Considers (e : Engine) (s : Session) (k : String) : Prop :=
  s.finished = false ∧ ∃ n ks evs a m, e.currentNode? s = some n ∧ n.isEnd = false ∧
    Passes e (.obj s.responses) n.id ks evs a ∧ e.graph.node? a = some m ∧
    (e.route (.obj s.responses) m).result = .ok (.str k)

/-- How a node is decided that has a condition about a question that was reported to come too
late. -/
structure DecidedWithout (e : Engine) (s : Session) (k : String) (c : Group) (field : String) :
    Prop where
  unanswered : s.responses.lookup field = none
  /-- A rule about the question has a value, and holds only if it asks for emptiness. -/
  rules : ∀ r ∈ c.rules, field ∈ r.fields → e.evaluator.rule (.obj s.responses) r =
    .ok ((s.responses.lookup r.field).isNone && Operator.ofWord? r.operator == some .isEmpty)
  shown : (e.advance s).result = .ok (s.movedTo k) ↔
    e.evaluator.evaluate (.obj s.responses) c ≠ .ok false
  skipped : .skip k ∈ (e.advance s).events ↔
    e.evaluator.evaluate (.obj s.responses) c = .ok false

section

variable {e : Engine} {s : Session} {n : CompiledNode}

theorem advance_events (going : s.finished = false) (here : e.currentNode? s = some n)
    (onward : n.isEnd = false) :
    (e.advance s).events = (e.next (.obj s.responses) n.id).events := by
  rw [advance, here, if_neg (by simp [going])]
  dsimp only
  rw [if_neg (by simp [onward])]
  split
  · rename_i move
    rw [move]
  · rename_i move
    rw [move]
  · rename_i move
    rw [move]
    split <;> rfl

/-- A session that moves on moves to the next node. -/
theorem next_of_moved (going : s.finished = false) (here : e.currentNode? s = some n) {k : String}
    (moved : (e.advance s).result = .ok (s.movedTo k)) :
    ∃ m, m.id = k ∧ (e.next (.obj s.responses) n.id).result = .ok (some m) := by
  rcases advance_cases moved with ⟨finished, -⟩ | ⟨-, same⟩ | ⟨n', m, -, here', shown, -, same⟩
  · rw [going] at finished
    cases finished
  · have finished : s.finished = true := congrArg Session.finished same
    rw [going] at finished
    cases finished
  · obtain rfl := Option.some.inj (here.symm.trans here')
    exact ⟨m, (Option.some.inj (congrArg Session.current same)).symm, shown⟩

/-- A move keeps the answers and all that the session has come to. -/
theorem advance_keeps {t : Session} (move : (e.advance s).result = .ok t) :
    t.responses = s.responses ∧ s.history ⊆ t.history := by
  rcases advance_cases move with ⟨-, rfl⟩ | ⟨-, rfl⟩ | ⟨n, m, -, -, -, -, rfl⟩
  · exact ⟨rfl, List.Subset.refl _⟩
  · exact ⟨rfl, List.Subset.refl _⟩
  · exact ⟨rfl, List.subset_append_left _ _⟩

theorem runs_of_moves {s₀ : Session} (moves : ReflTransGen (Moves e) s₀ s) :
    ∃ k, e.Runs s₀ k s := by
  induction moves with
  | refl => exact ⟨0, .begun⟩
  | tail _ move ih =>
    obtain ⟨k, run⟩ := ih
    cases move with
    | answer value _ _ => exact ⟨k, run.answer _ value⟩
    | advance move => exact ⟨k + 1, run.advance move⟩

/-- A session without answers to begin with has answers only to what it came to. -/
theorem answered_visited (hg : e.graph.Keyed) (hn : e.Named) {s₀ : Session}
    (begun : e.begin [] = .ok s₀) (moves : ReflTransGen (Moves e) s₀ s) :
    Ordered.keys s.responses ⊆ s.history := by
  induction moves with
  | refl =>
    obtain ⟨n, -, rfl, -⟩ := begin_underway hg begun
    exact List.nil_subset _
  | @tail s t before move ih =>
    cases move with
    | @answer id value _ current =>
      obtain ⟨k, run⟩ := runs_of_moves before
      obtain ⟨first, n, -, under, -⟩ := run.underway hg hn begun
      obtain rfl := Option.some.inj (current.symm.trans under.current)
      have here : n.id ∈ s.history := List.mem_of_getLast? under.last
      intro field hf
      rw [Session.answer, Ordered.keys_put] at hf
      split at hf
      · exact ih hf
      · rcases List.mem_append.mp hf with hf | hf
        · exact ih hf
        · exact List.mem_singleton.mp hf ▸ here
    | advance move =>
      obtain ⟨same, grown⟩ := advance_keeps move
      rw [same]
      exact fun field hf => grown (ih hf)

end

section

variable {e : Engine} {order : List String} (p : e.graph.Published order) {start k : String}
  {s : Session} {n m : CompiledNode} {c : Group}
include p

/-- The node considered lies ahead of all that the session has come to. -/
theorem Considers.ahead (h : e.Considers s k) (under : e.Underway start s n)
    (found : e.graph.node? k = some m) : ∀ b ∈ s.history, TransGen e.graph.Routes b k := by
  obtain ⟨-, n', ks, evs, a, m', here, -, passed, hm, route⟩ := h
  obtain rfl := Option.some.inj (here.symm.trans (under.here p.named))
  intro b hb
  have last : e.graph.Routes a k := ⟨m', hm, route_slot route, by rw [found]; rfl⟩
  exact .tail' ((under.behind b hb).trans passed.routes.1) last

theorem Considers.passed_over (h : e.Considers s k) (found : e.graph.node? k = some m)
    (hc : m.data.skipCondition = some c)
    (value : e.evaluator.evaluate (.obj s.responses) c = .ok false) :
    .skip k ∈ (e.advance s).events ∧ (e.advance s).result ≠ .ok (s.movedTo k) := by
  obtain ⟨going, n, ks, evs, a, m', here, onward, passed, hm, route⟩ := h
  have named : k ≠ "" := p.named k (Graph.key_of_node? found)
  have move : (e.hop (.obj s.responses) a).result = .ok (.over k) := by
    rw [← arrive_over.mpr ⟨rfl, c, hc, value⟩]
    exact Hopped.result (.arrived hm route (follow_found.mpr ⟨rfl, named, found⟩))
  have last : e.graph.Routes a k := (hop_over move).1
  have new : k ∉ ks := fun seen => p.loopless (.tail' (passed.routes.2 k seen) last)
  have whole : e.hop (.obj s.responses) a
      = ⟨(e.hop (.obj s.responses) a).events, .ok (.over k)⟩ := by rw [← move]
  have further := passed.further whole new
  have skipped : .skip k ∈ (e.next (.obj s.responses) n.id).events := by
    rw [further.next]
    exact List.mem_append_left _ (further.skips.2 k (by simp))
  refine ⟨advance_events going here onward ▸ skipped, fun moved => ?_⟩
  obtain ⟨m, rfl, shown⟩ := next_of_moved going here moved
  have behind := next_visits_behind p.keyed shown m.id
  exact p.loopless (behind (List.mem_filterMap.mpr ⟨_, skipped, rfl⟩))

theorem Considers.presented (h : e.Considers s k) (under : e.Underway start s n)
    (found : e.graph.node? k = some m) (hc : m.data.skipCondition = some c)
    (value : e.evaluator.evaluate (.obj s.responses) c ≠ .ok false) :
    (e.advance s).result = .ok (s.movedTo k) ∧ .skip k ∉ (e.advance s).events := by
  have ahead := h.ahead p under found
  obtain ⟨going, n', ks, evs, a, m', here, onward, passed, hm, route⟩ := h
  have named : k ≠ "" := p.named k (Graph.key_of_node? found)
  have move : (e.hop (.obj s.responses) a).result = .ok (.present m) := by
    have shown : (e.arrive (.obj s.responses) k m).2 = .present m := by
      refine arrive_present.mpr ⟨rfl, fun c' hc' => ?_⟩
      obtain rfl := Option.some.inj (hc.symm.trans hc')
      exact value
    rw [← shown]
    exact Hopped.result (.arrived hm route (follow_found.mpr ⟨rfl, named, found⟩))
  have last : e.graph.Routes a k := ⟨m', hm, route_slot route, by rw [found]; rfl⟩
  have settled : Settles e (.obj s.responses) ks a
      ⟨(e.hop (.obj s.responses) a).events, .ok (some m)⟩ := .shown (by rw [← move])
  have next := settled.next passed
  obtain rfl := p.keyed.named k m found
  constructor
  · have new : m.id ∉ s.history := fun seen => p.loopless (ahead m.id seen)
    rw [advance_at going here, onward, if_neg Bool.false_ne_true, next]
    exact if_neg new
  · rw [advance_events going here onward, next]
    intro skipped
    have visited : m.id ∈ visits (evs ++ (e.hop (.obj s.responses) a).events) :=
      List.mem_filterMap.mpr ⟨_, skipped, rfl⟩
    rw [visits_append, passed.visits, hop_visits_nothing, List.append_nil] at visited
    exact p.loopless (.tail' (passed.routes.2 m.id visited) last)

/-- It is passed over if its condition is false, and shown otherwise. -/
theorem Considers.decided (h : e.Considers s k) (under : e.Underway start s n)
    (found : e.graph.node? k = some m) (hc : m.data.skipCondition = some c) :
    ((e.advance s).result = .ok (s.movedTo k) ↔
        e.evaluator.evaluate (.obj s.responses) c ≠ .ok false) ∧
      (.skip k ∈ (e.advance s).events ↔
        e.evaluator.evaluate (.obj s.responses) c = .ok false) := by
  by_cases value : e.evaluator.evaluate (.obj s.responses) c = .ok false
  · obtain ⟨skipped, other⟩ := h.passed_over p found hc value
    exact ⟨iff_of_false other (not_not.mpr value), iff_of_true skipped value⟩
  · obtain ⟨shown, unskipped⟩ := h.presented p under found hc value
    exact ⟨iff_of_true shown value, iff_of_false unskipped value⟩

end

end Engine

/-- The node that is warned of is one with a condition about a question that does not come before
it. -/
theorem warned_late {ns : List Node} {es : List Edge} (q : Publishable ns es) {subject : Subject}
    {field : String} (warned : .lateSkipField subject field ∈ (Draft.ofRead ns es).validate) :
    ∃ n ∈ ns, n.id = subject.id ∧ ∃ c, n.data.skipCondition = some c ∧ field ∈ c.fields ∧
      ¬ Flow.Before (drawn ns es).order field n.id := by
  rw [Draft.mem_validate_ofRead q.distinct] at warned
  obtain ⟨v, hv, hp⟩ := List.mem_flatMap.mp warned
  obtain ⟨n, hn, rfl⟩ := List.mem_map.mp hv
  obtain ⟨_, same, hp⟩ := Survey.skip_of_nodeProblems hp
  obtain rfl := Option.some.inj same
  rw [Survey.skipProblems] at hp
  split at hp
  · obtain ⟨f, hf, same⟩ := List.mem_map.mp hp
    cases same
    cases hc : n.data.skipCondition with
    | none => simp [hc, Survey.lateFields] at hf
    | some c =>
      rw [hc, Survey.mem_lateFields, Survey.flow_ofNodes q.joined] at hf
      exact ⟨n, hn, rfl, c, hc, hf.1, hf.2⟩
  · cases hp

/-- A node that the check warns of, as depending on a question that is not answered before it, is
not always shown. It is decided without an answer to the question, and passed over if its condition
is false then: rules about the question do not fail, but are false unless they ask for emptiness. If
the check warns of all that the condition is about, the node is decided in every session as if there
were no answers at all. -/
theorem late_skip_decided (ids ids' : IdSupply) (nodes edges : List Json)
    (otherValue defaultOtherLabel : String)
    (valid : Problem.isValid (Draft.ofRaw ids nodes edges).validate = true)
    (subject : Subject) (field : String)
    (warned : .lateSkipField subject field ∈ (Draft.ofRaw ids nodes edges).validate) :
    ∃ g n c, (Graph.compileRaw ids' nodes edges).result = .ok g ∧ g.node? subject.id = some n ∧
      n.data.skipCondition = some c ∧ field ∈ c.fields ∧
      ∀ s₀ s, (Engine.ofGraph g otherValue defaultOtherLabel).begin [] = .ok s₀ →
        ReflTransGen (Engine.ofGraph g otherValue defaultOtherLabel).Moves s₀ s →
        (Engine.ofGraph g otherValue defaultOtherLabel).Considers s subject.id →
        (Engine.ofGraph g otherValue defaultOtherLabel).DecidedWithout s subject.id c field ∧
        ((∀ f ∈ c.fields,
            .lateSkipField subject f ∈ (Draft.ofRaw ids nodes edges).validate) →
          (Engine.ofGraph g otherValue defaultOtherLabel).evaluator.evaluate (.obj s.responses) c
            = (Engine.ofGraph g otherValue defaultOtherLabel).evaluator.evaluate (.obj []) c) := by
  obtain ⟨ns, es, accepted⟩ := Draft.ofRaw_valid.mp valid
  have ⟨read, attempted, q⟩ := accepted
  rw [Draft.ofRaw_eq read attempted] at warned ⊢
  obtain ⟨n, hn, named, c, hc, hf, -⟩ := warned_late q warned
  have found : (Graph.compile ns es).node? subject.id = some (Graph.compiled ns es n) :=
    named ▸ Graph.node?_compiled q.distinct hn
  refine ⟨Graph.compile ns es, Graph.compiled ns es n, c, accepted.compiled ids', found, hc, hf,
    fun s₀ s begun moves considers => ?_⟩
  have p : Graph.Published
      (Engine.ofGraph (Graph.compile ns es) otherValue defaultOtherLabel).graph
      (drawn ns es).order := accepted.published
  obtain ⟨k, run⟩ := Engine.runs_of_moves moves
  obtain ⟨first, m, -, under, -⟩ := run.underway p.keyed p.named begun
  have visited := Engine.answered_visited p.keyed p.named begun moves
  have unanswered (f : String)
      (late : .lateSkipField subject f ∈ (Draft.ofRead ns es).validate) :
      s.responses.lookup f = none := by
    refine Ordered.lookup_eq_none.mpr fun answered => ?_
    obtain ⟨n', -, same, c', -, -, behind⟩ := warned_late q late
    rw [same] at behind
    exact behind (p.ahead (considers.ahead p under found f (visited answered)))
  obtain ⟨shown, skipped⟩ := considers.decided p under found hc
  refine ⟨⟨unanswered field warned, fun r _ hr => ?_, shown, skipped⟩, fun all => ?_⟩
  · exact rule_unanswered _ hr (unanswered field warned)
  · refine evaluate_congr _ fun f hf => ?_
    rcases hf with rfl | hf
    · refine Ordered.lookup_eq_none.mpr fun answered => ?_
      exact p.named "" (under.keys "" (visited answered)) rfl
    · exact unanswered f (all f hf)

/-- Two questions, of which the first is asked only where the second was answered. -/
def hasty : List Json × List Json :=
  let rule := Json.obj [("field", .str "age"), ("operator", .str "is_set")]
  let edge (source target : String) : Json :=
    .obj [("source", .str source), ("target", .str target)]
  ([.obj [("id", .str "start"), ("type", .str "start")],
    .obj [("id", .str "job"), ("type", .str "textInput"),
      ("data", .obj [("condition", .obj [("children", .arr [rule])])])],
    .obj [("id", .str "age"), ("type", .str "numberInput")],
    .obj [("id", .str "end"), ("type", .str "end"), ("data", .obj [("redirectUrl", .str "/bye")])]],
   [edge "start" "job", edge "job" "age", edge "age" "end"])

/-- The graph that it compiles to. -/
def hastyGraph : Graph :=
  (Graph.compileRaw ⟨toString, 7⟩ hasty.1 hasty.2).result.toOption.getD []

def hastyEngine : Engine := .ofGraph hastyGraph "other" "Other"

def ageSet : Group := ⟨none, .and, [.rule ⟨none, "age", none, "is_set", .null, .static⟩]⟩

theorem hasty_considers : hastyEngine.Considers ⟨[], some "start", ["start"], false⟩ "job" := by
  refine ⟨rfl, ⟨"start", .start, ⟨"", "", none, .start "", []⟩, .linear (.str "job")⟩, [], [],
    "start", ⟨"start", .start, ⟨"", "", none, .start "", []⟩, .linear (.str "job")⟩, ?_, rfl,
    .here, ?_, rfl⟩
  · decide +kernel
  · decide +kernel

/-- The first question is decided while the second has no answer, and so it is never asked. -/
theorem late_skip_decided_hasty :
    (Graph.compileRaw ⟨toString, 7⟩ hasty.1 hasty.2).result = .ok hastyGraph ∧
      hastyEngine.DecidedWithout ⟨[], some "start", ["start"], false⟩ "job" ageSet "age" := by
  obtain ⟨g, n, c, hg, found, hc, -, decided⟩ := late_skip_decided ⟨toString, 0⟩ ⟨toString, 7⟩
    hasty.1 hasty.2 "other" "Other" (by decide +kernel) ⟨"job", "job"⟩ "age" (by decide +kernel)
  have same : (Graph.compileRaw ⟨toString, 7⟩ hasty.1 hasty.2).result = .ok hastyGraph := by
    decide +kernel
  obtain rfl := Except.ok.inj (hg.symm.trans same)
  have condition : (hastyGraph.node? "job").bind (·.data.skipCondition) = some ageSet := by
    decide +kernel
  rw [found, Option.bind_some, hc] at condition
  obtain rfl := Option.some.inj condition
  have begun : hastyEngine.begin [] = .ok ⟨[], some "start", ["start"], false⟩ := by
    decide +kernel
  exact ⟨same, (decided _ _ begun .refl hasty_considers).1⟩

/-- The check warns that the first question is always shown, and a session passes it over. -/
theorem late_skip_passed_over :
    Problem.isValid (Draft.ofRaw ⟨toString, 0⟩ hasty.1 hasty.2).validate = true ∧
      .lateSkipField ⟨"job", "job"⟩ "age" ∈ (Draft.ofRaw ⟨toString, 0⟩ hasty.1 hasty.2).validate ∧
      hastyEngine.begin [] = .ok ⟨[], some "start", ["start"], false⟩ ∧
      hastyEngine.Considers ⟨[], some "start", ["start"], false⟩ "job" ∧
      .skip "job" ∈ (hastyEngine.advance ⟨[], some "start", ["start"], false⟩).events ∧
      (hastyEngine.advance ⟨[], some "start", ["start"], false⟩).result
        = .ok ⟨[], some "age", ["start", "age"], false⟩ := by
  refine ⟨?_, ?_, ?_, hasty_considers, ?_, ?_⟩ <;> decide +kernel

end Questionnaire
