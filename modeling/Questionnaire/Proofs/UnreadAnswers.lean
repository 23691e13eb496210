import Questionnaire.Proofs.Replay
import Questionnaire.Proofs.SameWalk

namespace Questionnaire

/-- The fields that the conditions in a graph are about, those by which a branch chooses and those
by which a node is passed over. -/
def Graph.fields (g : Graph) : List String :=
  g.flatMap fun (_, n) => (n.data.condition.map Group.fields).getD []

theorem Graph.fields_of_condition {g : Graph} {k : String} {n : CompiledNode} {c : Group}
    (hn : g.node? k = some n) (hc : n.data.condition = some c) : c.fields ⊆ g.fields := by
  intro field hf
  refine List.mem_flatMap.mpr ⟨(k, n), ?_, ?_⟩
  · exact Ordered.mem_of_lookup hn
  · simpa [hc] using hf

namespace Engine

/-- Answers that no condition reads make no difference to an engine. -/
theorem trace_agree {e : Engine} {es es' : Entries} (h : Agree e.graph.fields es es') :
    e.trace (.obj es) = e.trace (.obj es') := by
  refine (trace_of_values fun k n c hn hc => ?_).symm
  have agree : Agree c.fields es es' := h.mono (Graph.fields_of_condition hn hc)
  rw [evaluate, evaluate, evaluate_congr e.evaluator agree, records_congr e.evaluator agree]

end Engine

/-- Two sets of answers that agree on what a condition names, and on the empty name, give it the
same value, or no value for the same reason; and if they agree on what the conditions in a graph
name, they lead to the same walk, or to the same failure. -/
theorem unread_without_effect (evaluator : Evaluator) :
    (∀ (g : Group) (es es' : Entries), Agree g.fields es es' →
      evaluator.evaluate (.obj es) g = evaluator.evaluate (.obj es') g) ∧
    ∀ (g : Graph) (es es' : Entries), Agree g.fields es es' →
      Engine.trace ⟨g, evaluator⟩ (.obj es) = Engine.trace ⟨g, evaluator⟩ (.obj es') := by
  constructor
  · intro g es es' agree
    exact evaluate_congr evaluator agree
  · intro g es es' agree
    exact Engine.trace_agree (e := ⟨g, evaluator⟩) agree

/-- Is one answer, in a part of it, greater than another answer? -/
def olderPartner : Group :=
  ⟨none, .and, [.rule ⟨none, "partner", some "age", "gt", .str "age", .variable⟩]⟩

def partnerAges : Entries := [("partner", .obj [("age", .int 40)]), ("age", .int 30)]

/-- Neither the condition nor the walk past the second question looks at its answer. -/
theorem unread_without_effect_names :
    detourEngine.evaluator.evaluate (.obj partnerAges) olderPartner
      = detourEngine.evaluator.evaluate (.obj (("names", .str "Rex") :: partnerAges)) olderPartner ∧
    detourEngine.trace (.obj [("pets", .str "no")])
      = detourEngine.trace (.obj [("pets", .str "no"), ("names", .str "Rex")]) := by
  obtain ⟨values, walks⟩ := unread_without_effect detourEngine.evaluator
  constructor
  · refine values olderPartner _ _ fun field hf => ?_
    have fields : olderPartner.fields = ["partner", "age"] := by decide +kernel
    rw [fields] at hf
    rcases hf with rfl | hf
    · rfl
    · rcases List.mem_pair.mp hf with rfl | rfl <;> rfl
  · refine walks detourGraph _ _ fun field hf => ?_
    have fields : detourGraph.fields = ["pets"] := by decide +kernel
    rw [fields] at hf
    rcases hf with rfl | hf
    · rfl
    · rw [List.mem_singleton.mp hf]
      rfl

end Questionnaire
