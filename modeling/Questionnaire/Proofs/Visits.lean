import Questionnaire.Proofs.WalkCases

namespace Questionnaire
open Relation

/-- The node that an event enters or passes over. -/
def Event.visited? : Event → Option String
  | .enter node | .skip node => some node
  | _ => none

/-- The nodes entered and passed over, in order. -/
def visits (events : List Event) : List String := events.filterMap Event.visited?

theorem visits_append (before after : List Event) :
    visits (before ++ after) = visits before ++ visits after := List.filterMap_append

namespace Engine

theorem evaluate_visits_nothing (e : Engine) (r : Json) (c : Group) :
    visits (e.evaluate r c).1 = [] := by
  simp [visits, evaluate, List.filterMap_map, List.filterMap_eq_nil_iff, Event.visited?]

theorem route_visits_nothing (e : Engine) (r : Json) (n : CompiledNode) :
    visits (e.route r n).events = [] := by
  have told := e.evaluate_visits_nothing r
  rw [route]
  split
  · rfl
  · split
    · rfl
    · rename_i c _
      have := told c
      split
      · rename_i h
        simpa [h] using this
      · rename_i h
        rw [h] at this
        rw [visits_append, this]
        rfl

theorem arrive_visits_nothing (e : Engine) (r : Json) (k : String) (n : CompiledNode) :
    visits (e.arrive r k n).1 = [] := by
  have told := e.evaluate_visits_nothing r
  rw [arrive]
  split
  · rfl
  · rename_i c _
    have := told c
    split
    · rename_i h
      rw [h] at this
      rw [visits_append, this]
      rfl
    all_goals
      rename_i h
      simpa [h] using this

/-- A move alone neither enters a node nor passes one over. -/
theorem hop_visits_nothing (e : Engine) (r : Json) (k : String) :
    visits (e.hop r k).events = [] := by
  rw [hop]
  split
  · rfl
  · rename_i n _
    have routed := e.route_visits_nothing r n
    split
    · rename_i h
      simpa [h] using routed
    · rename_i h
      rw [h] at routed
      split
      · exact routed
      · exact routed
      · rw [visits_append, routed, arrive_visits_nothing]
        rfl

section

variable {e : Engine} {r : Json} {k a : String} {ks : List String} {evs : List Event}

theorem Passes.visits (h : Passes e r k ks evs a) : visits evs = ks := by
  induction h with
  | here => rfl
  | @further ks evs more a b _ move _ ih =>
    have quiet := e.hop_visits_nothing r a
    rw [move] at quiet
    rw [visits_append, visits_append, ih, quiet, List.append_nil]
    rfl

theorem Settles.visits_nothing {w : Walk (Option CompiledNode)} (h : Settles e r ks a w) :
    Questionnaire.visits w.events = [] := by
  have quiet := e.hop_visits_nothing r a
  cases h with
  | failed move | nowhere move | shown move | round move _ =>
    rw [move] at quiet
    exact quiet

/-- What was passed over lies ahead of the start. -/
theorem Passes.ahead (h : Passes e r k ks evs a) : ∀ b ∈ ks, TransGen e.graph.Routes k b := by
  induction h with
  | here => simp
  | further before move _ ih =>
    intro c hc
    rcases List.mem_append.mp hc with hc | hc
    · exact ih c hc
    · obtain rfl := List.mem_singleton.mp hc
      exact .tail' before.routes.1 (hop_over (congrArg Walk.result move)).1

/-- All that the search for the next node visits lies ahead of the start. -/
theorem next_visits_ahead : ∀ b ∈ visits (e.next r k).events, TransGen e.graph.Routes k b := by
  obtain ⟨ks, evs, a, w, hp, hs, hn⟩ := next_cases e r k
  rw [hn, visits_append, hp.visits, hs.visits_nothing, List.append_nil]
  exact hp.ahead

/-- A node that is shown next lies ahead of all that was visited on the way. -/
theorem next_visits_behind (hg : e.graph.Keyed) {m : CompiledNode}
    (h : (e.next r k).result = .ok (some m)) :
    ∀ b ∈ visits (e.next r k).events, TransGen e.graph.Routes b m.id := by
  obtain ⟨ks, evs, a, w, hp, hs, hn⟩ := next_cases e r k
  rw [hn] at h ⊢
  rw [visits_append, hp.visits, hs.visits_nothing, List.append_nil]
  cases hs with
  | shown move =>
    obtain rfl := Option.some.inj (Except.ok.inj h)
    obtain ⟨b, route, hb, -⟩ := hop_present (congrArg Walk.result move)
    obtain rfl := hg.named b _ hb
    intro c hc
    exact .tail' (hp.routes.2 c hc) route
  | _ => cases h

end

section

variable {e : Engine} {r : Json} {path : List CompiledNode} {evs : List Event} {n : CompiledNode}

/-- A walk comes from the start to where it is, and to all that it visited on the way. -/
theorem Enters.visits_reached (h : Enters e r path evs n) (hg : e.graph.Keyed)
    {start : CompiledNode} (hs : e.startNode = .ok start) :
    ReflTransGen e.graph.Routes start.id n.id ∧
      ∀ b ∈ visits evs, ReflTransGen e.graph.Routes start.id b := by
  induction h with
  | start first =>
    obtain rfl := Except.ok.inj (hs.symm.trans first)
    exact ⟨.refl, by simp [visits]⟩
  | @next path evs more n m _ _ _ move ih =>
    obtain ⟨b, route, hb⟩ := next_ahead (congrArg Walk.result move)
    obtain rfl := hg.named b m hb
    refine ⟨ih.1.trans route.to_reflTransGen, fun c hc => ?_⟩
    rw [visits_append] at hc
    rcases List.mem_append.mp hc with hc | hc
    · exact ih.2 c hc
    · rcases List.mem_cons.mp hc with rfl | hc
      · exact ih.1
      · have ahead := next_visits_ahead (e := e) (r := r) (k := n.id) c
        rw [move] at ahead
        exact ih.1.trans (ahead hc).to_reflTransGen

/-- All that a walk visited before leads to where it is. -/
theorem Enters.visits_behind (h : Enters e r path evs n) (hg : e.graph.Keyed) :
    ∀ b ∈ visits evs, TransGen e.graph.Routes b n.id := by
  induction h with
  | start => simp [visits]
  | @next path evs more n m _ _ _ move ih =>
    obtain ⟨b, route, hb⟩ := next_ahead (congrArg Walk.result move)
    obtain rfl := hg.named b m hb
    intro c hc
    rw [visits_append] at hc
    rcases List.mem_append.mp hc with hc | hc
    · exact (ih c hc).trans route
    · rcases List.mem_cons.mp hc with rfl | hc
      · exact route
      · have behind := next_visits_behind hg (congrArg Walk.result move) c
        rw [move] at behind
        exact behind hc

theorem Ends.visits_reached {w : Walk (List CompiledNode)} (h : Ends e r path n w) :
    ∀ b ∈ visits w.events, ReflTransGen e.graph.Routes n.id b := by
  have onward {more : List Event} {x : Except WalkError (Option CompiledNode)}
      (move : e.next r n.id = ⟨more, x⟩) :
      ∀ b ∈ visits (.enter n.id :: more), ReflTransGen e.graph.Routes n.id b := by
    intro b hb
    rcases List.mem_cons.mp hb with rfl | hb
    · exact .refl
    · have ahead := next_visits_ahead (e := e) (r := r) (k := n.id) b
      rw [move] at ahead
      exact (ahead hb).to_reflTransGen
  cases h with
  | revisit _ => simp [visits]
  | ending _ _ =>
    intro b hb
    exact List.mem_singleton.mp hb ▸ .refl
  | loose _ _ move => exact onward move
  | failed _ _ move => exact onward move

end

/-- A walk visits nothing but what routes lead to from the start, also a walk that fails. -/
theorem walk_visits_reached {e : Engine} (hg : e.graph.Keyed) (r : Json) {start : CompiledNode}
    (hs : e.startNode = .ok start) :
    ∀ b ∈ visits (e.walk r).events, ReflTransGen e.graph.Routes start.id b := by
  rcases walk_cases e r with ⟨x, hx, -⟩ | ⟨path, evs, n, w, before, last, hw⟩
  · rw [hs] at hx
    cases hx
  · obtain ⟨here, behind⟩ := before.visits_reached hg hs
    intro b hb
    rw [hw, visits_append] at hb
    rcases List.mem_append.mp hb with hb | hb
    · exact behind b hb
    · exact here.trans (last.visits_reached b hb)

/-- Whatever a walk that reaches an end visited leads there. -/
theorem completed_visits_lead {e : Engine} (hg : e.graph.Keyed) {r : Json} {t : Trace}
    (ht : e.trace r = .ok t) (completed : t.completed = true) :
    ∃ n, e.graph.node? n.id = some n ∧ n.isEnd = true ∧
      ∀ b ∈ visits t.events, ReflTransGen e.graph.Routes b n.id := by
  rw [trace_ok] at ht
  rcases walk_cases e r with ⟨x, -, hw⟩ | ⟨path, evs, n, w, before, last, hw⟩
  · rw [ht] at hw
    cases congrArg Walk.result hw
  · rw [ht] at hw
    have events := congrArg Walk.events hw
    have result := congrArg Walk.result hw
    dsimp only at events result
    have final {m : CompiledNode} (hp : t.path = path ++ [m]) : m.isEnd = true := by
      simpa [Trace.completed, Trace.endNode?, hp, Option.filter] using completed
    cases last with
    | revisit _ => cases result
    | failed _ _ _ => cases result
    | loose _ going _ =>
      rw [final (Except.ok.inj result)] at going
      cases going
    | ending _ ended =>
      refine ⟨n, before.found hg, ended, fun b hb => ?_⟩
      rw [events, visits_append] at hb
      rcases List.mem_append.mp hb with hb | hb
      · exact (before.visits_behind hg b hb).to_reflTransGen
      · exact List.mem_singleton.mp hb ▸ .refl

end Engine
end Questionnaire
