import Questionnaire.Proofs.Visits
import Questionnaire.Route.Session

namespace Questionnaire

/-- The node that an event enters. -/
def Event.entered? : Event → Option String
  | .enter node => some node
  | _ => none

/-- Where nothing is visited nothing is entered. -/
theorem entered_nil {events : List Event} (h : visits events = []) :
    events.filterMap Event.entered? = [] := by
  rw [visits, List.filterMap_eq_nil_iff] at h
  refine List.filterMap_eq_nil_iff.mpr fun ev hev => ?_
  cases ev with
  | enter node => cases h _ hev
  | _ => rfl

namespace Engine

/-- On the way to the next node nothing is entered. -/
theorem next_enters_nothing (e : Engine) (r : Json) (k : String) :
    (e.next r k).events.filterMap Event.entered? = [] := by
  have walked (fuel : Nat) (ks : List String) (k : String) :
      (e.nextFrom r fuel ks k).events.filterMap Event.entered? = [] := by
    induction fuel generalizing ks k with
    | zero => rfl
    | succ fuel ih =>
      have moved := entered_nil (e.hop_visits_nothing r k)
      rw [nextFrom]
      split
      · rename_i h
        simpa [h] using moved
      · rename_i h
        simpa [h] using moved
      · rename_i h
        simpa [h] using moved
      · rename_i h
        rw [h] at moved
        split
        · exact moved
        · rw [List.filterMap_append, moved]
          exact ih _ _
  exact walked _ _ _

/-- No node has the empty id, which stands for no node at all. -/
def Named (e : Engine) : Prop := ∀ k ∈ Ordered.keys e.graph, k ≠ ""

theorem Named.currentNode? {e : Engine} (hn : e.Named) {s : Session} {n : CompiledNode}
    (current : s.current = some n.id) (found : e.graph.node? n.id = some n) :
    e.currentNode? s = some n := by
  have named : n.id ≠ "" := hn n.id (Graph.key_of_node? found)
  simp [Engine.currentNode?, current, Option.filter, named, found]

/-- What one move of an unfinished session does at a node. -/
theorem advance_at {e : Engine} {s : Session} {n : CompiledNode} (going : s.finished = false)
    (here : e.currentNode? s = some n) : (e.advance s).result =
      if n.isEnd then .ok s.finish
      else match (e.next (.obj s.responses) n.id).result with
        | .error x => .error x
        | .ok none => .ok s.finish
        | .ok (some m) =>
          if m.id ∈ s.history then .error (.revisit m.id s.history) else .ok (s.movedTo m.id) := by
  rw [advance, here, if_neg (by simp [going])]
  dsimp only
  cases n.isEnd with
  | true => rfl
  | false =>
    match e.next (.obj s.responses) n.id with
    | ⟨_, .error x⟩ => rfl
    | ⟨_, .ok none⟩ => rfl
    | ⟨_, .ok (some m)⟩ => by_cases seen : m.id ∈ s.history <;> simp [seen]

/-- What one move can do to a session that stands at a node: it says of each ending where the move
came to it. -/
inductive Advances (e : Engine) (s : Session) (n : CompiledNode) : Except WalkError Session → Prop
  | still : s.finished = true → Advances e s n (.ok s)
  | ending : s.finished = false → n.isEnd = true → Advances e s n (.ok s.finish)
  | loose : s.finished = false → n.isEnd = false →
      (e.next (.obj s.responses) n.id).result = .ok none → Advances e s n (.ok s.finish)
  | moved {m} : s.finished = false → n.isEnd = false →
      (e.next (.obj s.responses) n.id).result = .ok (some m) → m.id ∉ s.history →
      Advances e s n (.ok (s.movedTo m.id))
  | failed {x} : s.finished = false → n.isEnd = false →
      (e.next (.obj s.responses) n.id).result = .error x → Advances e s n (.error x)
  | revisit {m} : s.finished = false → n.isEnd = false →
      (e.next (.obj s.responses) n.id).result = .ok (some m) → m.id ∈ s.history →
      Advances e s n (.error (.revisit m.id s.history))

theorem advances {e : Engine} {s : Session} {n : CompiledNode} (here : e.currentNode? s = some n) :
    Advances e s n (e.advance s).result := by
  cases going : s.finished with
  | true =>
    rw [advance, if_pos going]
    exact .still going
  | false =>
    rw [advance_at going here]
    cases final : n.isEnd with
    | true => exact .ending going final
    | false =>
      rw [if_neg Bool.false_ne_true]
      split
      · rename_i x hx
        exact .failed going final hx
      · rename_i hx
        exact .loose going final hx
      · rename_i m hm
        split
        · rename_i seen
          exact .revisit going final hm seen
        · rename_i new
          exact .moved going final hm new

/-- The session after so many moves, with no answer given on the way. -/
def stepped (e : Engine) (responses : Entries) : Nat → Except WalkError Session
  | 0 => e.begin responses
  | k + 1 => do (e.advance (← e.stepped responses k)).result

/-- The session that stands at a node, with the nodes of a path behind it. -/
def standing (responses : Entries) (path : List CompiledNode) (n : CompiledNode) : Session :=
  ⟨responses, some n.id, (path ++ [n]).map CompiledNode.id, false⟩

section

variable {e : Engine} {responses : Entries} {path : List CompiledNode} {evs : List Event}
  {n : CompiledNode}

theorem advance_standing (hn : e.Named) (found : e.graph.node? n.id = some n) :
    (e.advance (standing responses path n)).result =
      if n.isEnd then .ok (standing responses path n).finish
      else match (e.next (.obj responses) n.id).result with
        | .error x => .error x
        | .ok none => .ok (standing responses path n).finish
        | .ok (some m) =>
          if m.id ∈ (path ++ [n]).map CompiledNode.id then
            .error (.revisit m.id ((path ++ [n]).map CompiledNode.id))
          else .ok (standing responses (path ++ [n]) m) := by
  rw [advance_at rfl (hn.currentNode? rfl found)]
  have moved (m : CompiledNode) : (standing responses path n).movedTo m.id
      = standing responses (path ++ [n]) m := by simp [standing, Session.movedTo]
  simp only [moved]
  rfl

/-- Sessions follow the walk: so many moves lead to a node as it entered nodes before that one. -/
theorem Enters.stepped (hg : e.graph.Keyed) (hn : e.Named)
    (h : Enters e (.obj responses) path evs n) (new : n.id ∉ path.map CompiledNode.id) :
    e.stepped responses path.length = .ok (standing responses path n) := by
  induction h with
  | start hs => simp [Engine.stepped, begin, hs, Except.map, standing]
  | @next path evs more n m before fresh going move ih =>
    have moved : (e.advance (standing responses path n)).result
        = .ok (standing responses (path ++ [n]) m) := by
      rw [advance_standing hn (before.found hg), move, going]
      exact if_neg new
    rw [List.length_append, List.length_singleton, Engine.stepped, ih fresh]
    exact moved

/-- None of the sessions before is finished. -/
theorem Enters.unfinished (hg : e.graph.Keyed) (hn : e.Named)
    (h : Enters e (.obj responses) path evs n) (k : Nat) (hk : k < path.length) :
    ∃ s, e.stepped responses k = .ok s ∧ s.finished = false := by
  induction h with
  | start => simp at hk
  | @next path _ _ n _ before fresh _ _ ih =>
    rcases Nat.lt_or_ge k path.length with hlt | hge
    · exact ih hlt
    · have hk : k = path.length := by simp at hk; omega
      exact ⟨_, hk ▸ before.stepped hg hn fresh, rfl⟩

theorem Enters.entered {r : Json} (h : Enters e r path evs n) :
    evs.filterMap Event.entered? = path.map CompiledNode.id := by
  induction h with
  | start => rfl
  | @next path evs more n m before _ _ move ih =>
    have quiet := e.next_enters_nothing r n.id
    rw [move] at quiet
    rw [List.filterMap_append, ih, List.map_append]
    simp only [List.filterMap_cons, Event.entered?, quiet]
    rfl

end

theorem named_compile {nodes : List Node} (h : ∀ n ∈ nodes, n.id ≠ "") (edges : List Edge)
    (evaluator : Evaluator) : Named ⟨Graph.compile nodes edges, evaluator⟩ := by
  rintro k hk rfl
  rw [Graph.keys_compile, Graph.mem_keys, Graph.node?_ofNodes, Option.isSome_map,
    List.find?_isSome] at hk
  obtain ⟨n, hn, hi⟩ := hk
  exact h n (List.mem_reverse.mp hn) (beq_iff_eq.mp hi)

/-- Moves without answers end as this trace does: the last of as many moves as it has nodes finishes
the session. -/
structure EndsAs (e : Engine) (responses : Entries) (t : Trace) : Prop where
  going : ∀ k < t.path.length, ∃ s, e.stepped responses k = .ok s ∧ s.finished = false
  ended : ∃ s, e.stepped responses t.path.length = .ok s ∧ s.finished = true ∧
    s.responses = responses ∧ s.history = t.ids ∧
    (e.currentNode? s).any CompiledNode.isEnd = t.completed

/-- There is no session to begin with, or one is brought by moves to where the walk was when it
failed, and the next move fails in the same way. -/
def FailsAs (e : Engine) (responses : Entries) (x : WalkError) : Prop :=
  e.begin responses = .error x ∨ ∃ k s, e.stepped responses k = .ok s ∧ s.finished = false ∧
    s.history = (e.walk (.obj responses)).events.filterMap Event.entered? ∧
    (e.advance s).result = .error x

section

variable {e : Engine} {responses : Entries} {path : List CompiledNode} {evs : List Event}
  {n : CompiledNode}

theorem Enters.endsAs (hg : e.graph.Keyed) (hn : e.Named)
    (h : Enters e (.obj responses) path evs n) (new : n.id ∉ path.map CompiledNode.id)
    (last : (e.advance (standing responses path n)).result
      = .ok (standing responses path n).finish) {t : Trace} (ht : t.path = path ++ [n]) :
    e.EndsAs responses t where
  going k hk := by
    rw [ht, List.length_append, List.length_singleton] at hk
    rcases Nat.lt_or_ge k path.length with hlt | hge
    · exact h.unfinished hg hn k hlt
    · obtain rfl : k = path.length := by omega
      exact ⟨_, h.stepped hg hn new, rfl⟩
  ended := by
    refine ⟨(standing responses path n).finish, ?_, rfl, rfl, ?_, ?_⟩
    · rw [ht, List.length_append, List.length_singleton, Engine.stepped, h.stepped hg hn new]
      exact last
    · rw [Trace.ids, ht]
      rfl
    · have here : e.currentNode? (standing responses path n).finish = some n :=
        hn.currentNode? rfl (h.found hg)
      rw [here, Trace.completed, Trace.endNode?, ht, List.getLast?_concat]
      cases hi : n.isEnd <;> simp [Option.filter, hi]

theorem Ends.endsAs {w : Walk (List CompiledNode)} (hg : e.graph.Keyed) (hn : e.Named)
    (h : Enters e (.obj responses) path evs n) (he : Ends e (.obj responses) path n w) {t : Trace}
    (ht : w.result = .ok t.path) : e.EndsAs responses t := by
  have found := h.found hg
  cases he with
  | ending new final =>
    refine h.endsAs hg hn new ?_ (Except.ok.inj ht).symm
    rw [advance_standing hn found, if_pos final]
  | loose new going move =>
    refine h.endsAs hg hn new ?_ (Except.ok.inj ht).symm
    rw [advance_standing hn found, move, going]
    rfl
  | revisit _ => cases ht
  | failed _ _ _ => cases ht

theorem Ends.failsAs {w : Walk (List CompiledNode)} {x : WalkError} (hg : e.graph.Keyed)
    (hn : e.Named) (h : Enters e (.obj responses) path evs n)
    (he : Ends e (.obj responses) path n w) (hx : w.result = .error x) :
    e.FailsAs responses x := by
  have hw := he.walk h
  cases he with
  | revisit seen =>
    obtain rfl := Except.error.inj hx
    cases h with
    | start _ => simp at seen
    | @next path _ _ m n before new going move =>
      refine Or.inr ⟨path.length, standing responses path m, before.stepped hg hn new, rfl, ?_, ?_⟩
      · rw [hw, List.append_nil, (Enters.next before new going move).entered]
        rfl
      · rw [advance_standing hn (before.found hg), move, going]
        exact if_pos seen
  | failed new going move =>
    obtain rfl := Except.error.inj hx
    have quiet := e.next_enters_nothing (.obj responses) n.id
    rw [move] at quiet
    refine Or.inr ⟨path.length, standing responses path n, h.stepped hg hn new, rfl, ?_, ?_⟩
    · rw [hw, List.filterMap_append, h.entered]
      simp only [List.filterMap_cons, Event.entered?, quiet]
      simp [standing]
    · rw [advance_standing hn (h.found hg), move, going]
      rfl
  | ending _ _ => cases hx
  | loose _ _ _ => cases hx

end

/-- Moving on without answering does what the whole walk does, on any compiled graph whose ids are
not empty: with loops, loose ends, no start or several, and whatever the conditions mean. -/
theorem stepped_as_traced (nodes : List Node) (edges : List Edge) (evaluator : Evaluator)
    (responses : Entries) (named : ∀ n ∈ nodes, n.id ≠ "") :
    let e : Engine := ⟨Graph.compile nodes edges, evaluator⟩
    (∀ t, e.trace (.obj responses) = .ok t → e.EndsAs responses t) ∧
      ∀ x, e.trace (.obj responses) = .error x → e.FailsAs responses x := by
  intro e
  have hg : e.graph.Keyed := Graph.keyed_compile nodes edges
  have hn : e.Named := named_compile named edges evaluator
  simp only [trace_ok, trace_error]
  rcases walk_cases e (.obj responses) with ⟨y, hs, hw⟩ | ⟨path, evs, n, w, before, last, hw⟩
  · rw [hw]
    refine ⟨fun t ht => absurd (congrArg Walk.result ht) (by simp), fun x hx => Or.inl ?_⟩
    obtain rfl := Except.error.inj hx
    rw [begin, hs]
    rfl
  · rw [hw]
    refine ⟨fun t ht => last.endsAs hg hn before ?_, fun x hx => last.failsAs hg hn before hx⟩
    exact congrArg Walk.result ht

/-- Two nodes that lead to each other: the second move comes back to the first node. -/
def roundabout : List Node × List Edge :=
  ([⟨"a", ⟨.zero, .zero⟩, .start, ⟨"", "", none, .start "", []⟩⟩,
    ⟨"b", ⟨.zero, .zero⟩, .textInput, ⟨"", "", none, .text "" false, []⟩⟩],
   [⟨"1", "a", "b", none, none, none⟩, ⟨"2", "b", "a", none, none, none⟩])

theorem stepped_as_traced_roundabout : (∀ n ∈ roundabout.1, n.id ≠ "") ∧
    FailsAs ⟨Graph.compile roundabout.1 roundabout.2, ⟨[], "", ""⟩⟩ []
      (.revisit "a" ["a", "b"]) := by
  have named : ∀ n ∈ roundabout.1, n.id ≠ "" := by decide
  refine ⟨named, (stepped_as_traced _ _ _ _ named).2 _ ?_⟩
  rfl

end Engine
end Questionnaire
