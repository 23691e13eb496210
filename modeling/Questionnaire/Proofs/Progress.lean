import Questionnaire.Proofs.PublishGate
import Questionnaire.Proofs.SessionRuns

namespace Questionnaire
open Relation

namespace Engine

section

variable {e : Engine} {order : List String} (p : e.graph.Published order)
include p

/-- No condition is at fault for being empty. -/
theorem undecided_by_rule {r : Json} {x : WalkError} (h : e.Undecided r x) :
    ∃ y, x = .condition y ∧ y.isEmptiness = false := by
  obtain ⟨k, n, c, y, hn, hb, hc, he, rfl⟩ := h
  obtain ⟨c', hc', full, -⟩ := p.conditions k n hn hb
  obtain rfl := Option.some.inj (hc'.symm.trans hc)
  rcases e.evaluator.evaluate_settled r full with
    ⟨b, hv⟩ | ⟨rule, -, f, -, hf⟩
  · rw [hv] at he
    cases he
  · obtain rfl := Except.error.inj (hf.symm.trans he)
    exact ⟨_, rfl, rfl⟩

section

variable {start : String} {s : Session} {n : CompiledNode} (h : e.Underway start s n)
include h

/-- A move cannot come back to where the session was, whatever was answered since. -/
theorem Underway.advance_error {x : WalkError} (failed : (e.advance s).result = .error x) :
    ∃ y, x = .condition y ∧ y.isEmptiness = false := by
  have moved := advances (h.here p.named)
  rw [failed] at moved
  cases moved with
  | failed _ _ shown => exact undecided_by_rule p (next_undecided p shown)
  | revisit _ _ shown seen => exact absurd ((h.next_ahead p.keyed shown).2 _ seen) p.loopless

theorem Underway.climbs : s.history.Pairwise (Flow.Before order) :=
  h.ahead.imp fun route => p.ahead route

theorem Underway.nodup : s.history.Nodup :=
  (h.climbs p).imp fun {_ _} before same => (same ▸ before).irrefl

theorem Underway.length_le : s.history.length ≤ e.graph.length := by
  have := (List.subperm_of_subset (h.nodup p) h.keys).length_le
  simpa [Ordered.keys] using this

end

end

/-- What a session can count on after so many moves over a graph of so many nodes, whatever was
answered on the way. -/
structure Progresses (e : Engine) (nodes : Nat) (order : List String) (moves : Nat)
    (s : Session) : Prop where
  /-- A move fails only where a condition has no value on these answers, for another reason than
  that it is empty. -/
  fails : ∀ x, (e.advance s).result = .error x → ∃ y, x = .condition y ∧ y.isEmptiness = false
  finishes : nodes ≤ moves → s.finished = true
  placed : ∀ k ∈ s.history, k ∈ order
  climbs : s.history.Pairwise (Flow.Before order)

theorem begin_published {e : Engine} {order : List String} (p : e.graph.Published order)
    (initial : Entries) : ∃ s₀, e.begin initial = .ok s₀ := by
  obtain ⟨n, hn⟩ := p.start
  refine ⟨⟨initial, some n.id, [n.id], false⟩, ?_⟩
  rw [begin, startNode, hn]
  rfl

theorem Runs.progresses {e : Engine} {order : List String} (p : e.graph.Published order)
    (placed : ∀ k ∈ Ordered.keys e.graph, k ∈ order) {initial : Entries} {s₀ s : Session}
    (begun : e.begin initial = .ok s₀) {k : Nat} (run : e.Runs s₀ k s) :
    e.Progresses e.graph.length order k s := by
  obtain ⟨first, n, -, under, count⟩ := run.underway p.keyed p.named begun
  refine ⟨fun x => under.advance_error p, fun enough => ?_,
    fun k hk => placed k (under.keys k hk), under.climbs p⟩
  cases going : s.finished with
  | true => rfl
  | false =>
    have := under.length_le p
    have := count going
    omega

end Engine

/-- A session on a design that validates goes on whatever is answered and when, also where an answer
is given again: it never fails for the way that it took, is finished after as many moves as there
are nodes, and only ever goes forward in the order that the design was checked in. -/
theorem sessions_progress (ids ids' : IdSupply) (nodes edges : List Json) (evaluator : Evaluator)
    (valid : Problem.isValid (Draft.ofRaw ids nodes edges).validate = true) :
    ∃ g, (Graph.compileRaw ids' nodes edges).result = .ok g ∧
      ∀ initial, ∃ s₀, Engine.begin ⟨g, evaluator⟩ initial = .ok s₀ ∧
        ∀ k s, Engine.Runs ⟨g, evaluator⟩ s₀ k s → Engine.Progresses ⟨g, evaluator⟩ nodes.length
          (Draft.ofRaw ids nodes edges).survey.flow.order k s := by
  obtain ⟨ns, es, accepted⟩ := Draft.ofRaw_valid.mp valid
  have ⟨read, attempted, p⟩ := accepted
  have q : Graph.Published (Engine.graph ⟨Graph.compile ns es, evaluator⟩) (drawn ns es).order :=
    accepted.published
  have keys : Ordered.keys (Graph.compile ns es) = ns.map Node.id :=
    (Graph.keys_compile ns es).trans (Graph.keys_ofNodes p.distinct)
  have size : (Graph.compile ns es).length = nodes.length := by
    have := congrArg List.length keys
    rw [Ordered.keys, List.length_map, List.length_map] at this
    rw [this, read.length_eq]
  have placed : ∀ k ∈ Ordered.keys (Graph.compile ns es), k ∈ (drawn ns es).order := by
    intro k hk
    rw [keys] at hk
    obtain ⟨n, hn, rfl⟩ := List.mem_map.mp hk
    exact p.mem_order hn
  rw [Draft.survey_ofRaw read attempted p.distinct, Survey.flow_ofNodes p.joined, ← size]
  refine ⟨Graph.compile ns es, accepted.compiled ids', fun initial => ?_⟩
  obtain ⟨s₀, begun⟩ := Engine.begin_published q initial
  exact ⟨s₀, begun, fun k s run => run.progresses q placed begun⟩

/-- The graph of one question and a branch to two ends. -/
def forkGraph : Graph :=
  (Graph.compileRaw ⟨toString, 7⟩ fork.1 fork.2).result.toOption.getD []

def forkEngine : Engine := ⟨forkGraph, ⟨[], "other", "Other"⟩⟩

/-- An age that no number stands for keeps the session at the branch, until another is given. -/
theorem sessions_progress_fork :
    ∃ s, forkEngine.Runs ⟨[], some "start", ["start"], false⟩ 2 s ∧
      (forkEngine.advance s).result = .error (.condition (.failed none .tooLarge)) ∧
      ∀ t, (forkEngine.advance (s.answer "age" (.int 30))).result = .ok t →
        forkEngine.Progresses fork.1.length
          (Draft.ofRaw ⟨toString, 0⟩ fork.1 fork.2).survey.flow.order 3 t := by
  obtain ⟨g, hg, begins⟩ := sessions_progress ⟨toString, 0⟩ ⟨toString, 7⟩ fork.1 fork.2
    ⟨[], "other", "Other"⟩ (by decide +kernel)
  have same : (Graph.compileRaw ⟨toString, 7⟩ fork.1 fork.2).result = .ok forkGraph := by
    decide +kernel
  obtain rfl := Except.ok.inj (hg.symm.trans same)
  obtain ⟨s₀, begun, progresses⟩ := begins []
  have start : forkEngine.begin [] = .ok ⟨[], some "start", ["start"], false⟩ := by decide +kernel
  obtain rfl := Except.ok.inj (start.symm.trans begun)
  have first : (forkEngine.advance ⟨[], some "start", ["start"], false⟩).result
      = .ok ⟨[], some "age", ["start", "age"], false⟩ := by decide +kernel
  have second : (forkEngine.advance
      ⟨[("age", .int (10 ^ 400))], some "age", ["start", "age"], false⟩).result
      = .ok ⟨[("age", .int (10 ^ 400))], some "adult", ["start", "age", "adult"], false⟩ := by
    decide +kernel
  have run := ((Engine.Runs.begun.advance first).answer "age" (.int (10 ^ 400))).advance second
  refine ⟨_, run, by decide +kernel, fun t moved => ?_⟩
  exact progresses 3 t ((run.answer "age" (.int 30)).advance moved)

end Questionnaire
