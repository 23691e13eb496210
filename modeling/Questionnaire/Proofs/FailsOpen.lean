import Questionnaire.Proofs.SkipLaw
import Questionnaire.Proofs.StoredBehaviour

namespace Questionnaire

theorem NodeKind.family_branch {k : NodeKind} : k.family = .branch ↔ k = .branch := by
  cases k <;> simp [family]

theorem Payload.family_branch {p : Payload} : p.family = .branch ↔ p = .branch := by
  cases p <;> simp [family]

namespace NodeData

theorem skipCondition_branch {d : NodeData} (h : d.payload = .branch) :
    d.skipCondition = none := by
  simp [skipCondition, h]

theorem family_of_ofJson {f : Family} {j : Json} {d : NodeData} (h : ofJson f j = .ok d) :
    d.payload.family = f := by
  cases j with
  | obj es =>
    obtain ⟨_, payload, -, read, rfl⟩ := Checked.both_ok.mp h
    exact Payload.family_of_ofEntries read
  | _ => cases h

end NodeData

/-- The data of the node is of the family that its kind asks for. -/
def Node.Typed (n : Node) : Prop := n.data.payload.family = n.kind.family

/-- Whatever is read as a node has data of its own family. -/
theorem Node.typed_of_ofJson {fresh : String} {j : Json} {n : Node}
    (h : Node.ofJson fresh j = .ok n) : n.Typed := by
  cases j with
  | obj es =>
    rw [ofJson] at h
    split at h
    · rename_i kind _
      obtain ⟨-, d, -, read, rfl⟩ := Checked.both_ok.mp (Checked.within_ok.mp h)
      rw [Part.fieldOr_read] at read
      split at read
      · exact NodeData.family_of_ofJson (Checked.within_ok.mp read)
      · exact NodeData.family_of_ofJson (j := .obj []) read
    · cases h
  | _ => cases h

/-- Kind, routes and data agree on whether the node is a branch, and then its condition, by which it
chooses a route, does not hide it. -/
structure CompiledNode.Suited (n : CompiledNode) : Prop where
  routes : n.kind = .branch ↔ n.next.isBranch = true
  data : n.next.isBranch = true ↔ n.data.payload = .branch
  shown : n.data.payload = .branch → n.data.skipCondition = none

theorem CompiledNode.suited_of_family {n : CompiledNode}
    (routes : n.next.isBranch = true ↔ n.kind = .branch)
    (family : n.data.payload.family = n.kind.family) : n.Suited where
  routes := routes.symm
  data := by rw [routes, ← NodeKind.family_branch, ← family, Payload.family_branch]
  shown := NodeData.skipCondition_branch

namespace Graph

def Suited (g : Graph) : Prop := ∀ m ∈ g, m.2.Suited

theorem suited_compile {nodes : List Node} (typed : ∀ n ∈ nodes, n.Typed) (edges : List Edge) :
    (compile nodes edges).Suited := by
  intro m hm
  obtain ⟨n, hn, kind, data, routes, -⟩ := compiled_from hm
  apply CompiledNode.suited_of_family routes
  rw [kind, data]
  exact typed n hn

theorem compileRaw_typed {ids : IdSupply} {nodes edges : List Json} {g : Graph}
    (compiled : (compileRaw ids nodes edges).result = .ok g) :
    ∃ ns es, g = compile ns es ∧ ∀ n ∈ ns, n.Typed := by
  obtain ⟨read, es, -, rfl⟩ := read_of_compileRaw compiled ids
  refine ⟨_, es, rfl, ?_⟩
  intro n hn
  obtain ⟨j, -, fresh, hj⟩ := exists_of_forall₂ read hn
  exact Node.typed_of_ofJson hj

theorem suited_of_ofJson {j : Json} {g : Graph} (h : ofJson j = .ok g) : g.Suited := by
  cases j with
  | obj es =>
    intro m hm
    obtain ⟨e, -, -, read⟩ := exists_of_forall₂ (ofEntries_ok.mp h) hm
    obtain ⟨_, -, -, data, next, -⟩ := nodeOfJson_ok read
    exact CompiledNode.suited_of_family (routes_of_nextOfJson next)
      (NodeData.family_of_ofJson data)
  | _ => cases h

theorem Suited.found {g : Graph} (h : g.Suited) {k : String} {n : CompiledNode}
    (hn : g.node? k = some n) : n.Suited := h (k, n) (Ordered.mem_of_lookup hn)

end Graph

namespace Engine

/-- There is no branch under this key. -/
def OffBranch (e : Engine) (k : String) : Prop :=
  ∀ n, e.graph.node? k = some n → n.next.isBranch = false

section

variable {e : Engine} {r : Json} {a k : String} {x : WalkError}

theorem follow_error {j : Json} (h : e.follow j = .error x) :
    x = .unusableRoute ∧ j ≠ .null ∧ ∀ id, j ≠ .str id := by
  unfold follow at h
  split at h <;> simp_all

/-- Only a branch asks for the value of a condition before it has a route. -/
theorem hop_off_branch (off : e.OffBranch a) (h : (e.hop r a).result = .error x) :
    ∃ n j, e.graph.node? a = some n ∧ j ∈ n.next.slots ∧ e.follow j = .error x := by
  obtain ⟨n, hn, stuck | ⟨j, taken, unusable⟩⟩ := hop_error h
  · obtain ⟨branch, -⟩ := route_error stuck
    rw [off n hn] at branch
    cases branch
  · exact ⟨n, j, hn, route_slot taken, unusable⟩

variable (suited : e.graph.Suited)
include suited

/-- A node with a condition that hides it is no branch. -/
theorem skip_off_branch {b : String} (h : (e.hop r a).result = .ok (.over b)) :
    e.OffBranch b := by
  intro n hn
  obtain ⟨-, m, c, hm, hc, -⟩ := hop_over h
  obtain rfl := Option.some.inj (hn.symm.trans hm)
  have known := suited.found hn
  by_contra branch
  simp only [Bool.not_eq_false] at branch
  rw [known.shown (known.data.mp branch)] at hc
  cases hc

/-- So a search that does not start from a branch comes to none that it would have to leave. -/
theorem Passes.off_branch {ks : List String} {evs : List Event} (off : e.OffBranch k)
    (h : Passes e r k ks evs a) : e.OffBranch a := by
  induction h with
  | here => exact off
  | further _ move _ _ => exact skip_off_branch suited (congrArg Walk.result move)

theorem next_off_branch (named : e.graph.RoutesNamed) (off : e.OffBranch k)
    (h : (e.next r k).result = .error x) : ∃ b ks, x = .skipCycle b ks := by
  obtain ⟨ks, evs, a, w, passed, settled, hw⟩ := next_cases e r k
  rw [hw] at h
  cases settled with
  | failed move =>
    obtain ⟨n, j, hn, hj, unusable⟩ :=
      hop_off_branch (passed.off_branch suited off) (congrArg Walk.result move)
    obtain ⟨-, something, other⟩ := follow_error unusable
    rcases named a n hn j hj with rfl | ⟨id, rfl⟩
    · exact absurd rfl something
    · exact absurd rfl (other id)
  | round move seen => exact ⟨_, ks, (Except.error.inj h).symm⟩
  | nowhere move => cases h
  | shown move => cases h

end

/-- Whatever stands for the answers, the search from a node that is no branch finds a node, or none,
or comes round; that a condition has no value does not end it. -/
def FailsOpen (e : Engine) : Prop := ∀ (r : Json) (k : String),
  (∀ n, e.graph.node? k = some n → n.kind ≠ .branch) →
  (∃ shown, (e.next r k).result = .ok shown) ∨
    ∃ b ks, (e.next r k).result = .error (.skipCycle b ks)

theorem failsOpen_compile {nodes : List Node} (typed : ∀ n ∈ nodes, n.Typed) (edges : List Edge)
    (evaluator : Evaluator) : FailsOpen ⟨Graph.compile nodes edges, evaluator⟩ := by
  intro r k other
  have suited := Graph.suited_compile typed edges
  have off : OffBranch ⟨Graph.compile nodes edges, evaluator⟩ k := by
    intro n hn
    have := mt (suited.found hn).routes.mpr (other n hn)
    simpa using this
  match result : (Engine.next ⟨Graph.compile nodes edges, evaluator⟩ r k).result with
  | .ok shown => exact .inl ⟨shown, rfl⟩
  | .error x =>
    obtain ⟨b, ks, rfl⟩ := next_off_branch suited (Graph.routesNamed_compile nodes edges) off result
    exact .inr ⟨b, ks, rfl⟩

end Engine

/-- Conditions that hide questions fail open: no error of a condition comes out of the search from a
node that is no branch, in a graph compiled of nodes or of documents. The reason is true of stored
graphs too: a node that can be hidden is never a branch. -/
theorem questions_fail_open (evaluator : Evaluator) :
    (∀ (nodes : List Node) (edges : List Edge), (∀ n ∈ nodes, n.Typed) →
      Engine.FailsOpen ⟨Graph.compile nodes edges, evaluator⟩ ∧
        (Graph.compile nodes edges).Suited) ∧
    (∀ (ids : IdSupply) (nodes edges : List Json) (g : Graph),
      (Graph.compileRaw ids nodes edges).result = .ok g →
      Engine.FailsOpen ⟨g, evaluator⟩ ∧ g.Suited) ∧
    ∀ (j : Json) (g : Graph), Graph.ofJson j = .ok g → g.Suited := by
  refine ⟨?_, ?_, ?_⟩
  · intro nodes edges typed
    exact ⟨Engine.failsOpen_compile typed edges evaluator, Graph.suited_compile typed edges⟩
  · intro ids nodes edges g compiled
    obtain ⟨ns, es, rfl, typed⟩ := Graph.compileRaw_typed compiled
    exact ⟨Engine.failsOpen_compile typed es evaluator, Graph.suited_compile typed es⟩
  · intro j g loaded
    exact Graph.suited_of_ofJson loaded

/-- A page and a question that is asked only where another has an answer. -/
def aside : List Node × List Edge :=
  ([⟨"page", ⟨.zero, .zero⟩, .start, ⟨"", "", none, .start "", []⟩⟩, Engine.askedIf "why" "job"],
    [⟨"1", "page", "why", none, none, none⟩])

/-- A stored graph of one branch that has no condition and leads nowhere. -/
def storedFork : Json :=
  .obj [("fork", .obj [("type", .str "branch"),
    ("next", .obj [("kind", .str "branch"), ("trueId", .null), ("falseId", .null)])])]

/-- A list in place of the answers leaves the condition without a value, and the question is found
all the same. -/
theorem questions_fail_open_aside :
    (∀ n ∈ aside.1, n.Typed) ∧
    (∃ c f, (Engine.askedIf "why" "job").data.skipCondition = some c ∧
      (⟨[], "", ""⟩ : Evaluator).evaluate (.arr [.str "job"]) c = .error f) ∧
    (∃ shown, (Engine.next ⟨Graph.compile aside.1 aside.2, ⟨[], "", ""⟩⟩ (.arr [.str "job"])
      "page").result = .ok shown) ∧
    (∃ g, (Graph.compileRaw ⟨toString, 0⟩ poll.1 poll.2).result = .ok g ∧ g.Suited) ∧
    ∃ g, Graph.ofJson storedFork = .ok g ∧ g.Suited := by
  obtain ⟨read, documents, stored⟩ := questions_fail_open ⟨[], "", ""⟩
  have typed : ∀ n ∈ aside.1, n.Typed :=
    List.forall_mem_cons.mpr ⟨rfl, List.forall_mem_singleton.mpr rfl⟩
  obtain ⟨g, compiled⟩ : ∃ g, (Graph.compileRaw ⟨toString, 0⟩ poll.1 poll.2).result = .ok g :=
    ⟨_, rfl⟩
  obtain ⟨g', loaded⟩ : ∃ g, Graph.ofJson storedFork = .ok g := ⟨_, rfl⟩
  refine ⟨typed, ⟨_, .failed none .listByName, rfl, by decide +kernel⟩, ?_,
    ⟨g, compiled, (documents _ _ _ g compiled).2⟩, g', loaded, stored _ g' loaded⟩
  have page : ∀ n, (Graph.compile aside.1 aside.2).node? "page" = some n → n.kind ≠ .branch := by
    decide +kernel
  rcases (read aside.1 aside.2 typed).1 (.arr [.str "job"]) "page" page with found | ⟨b, ks, round⟩
  · exact found
  · have ends : (Engine.next ⟨Graph.compile aside.1 aside.2, ⟨[], "", ""⟩⟩ (.arr [.str "job"])
        "page").result.isOk = true := by decide +kernel
    rw [round] at ends
    cases ends

end Questionnaire
