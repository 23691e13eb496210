import Questionnaire.Proofs.SkipLaw
import Questionnaire.Proofs.Stepping

namespace Questionnaire

/-- The events that are reported as steps. -/
def steps (events : List Event) : List Event := events.filter (·.toJson?.isSome)

/-- The branch that an event decides. -/
def Event.branched? : Event → Option String
  | .branch node _ => some node
  | _ => none

@[simp] theorem steps_append (before after : List Event) :
    steps (before ++ after) = steps before ++ steps after := List.filter_append _ _

@[simp] theorem steps_nil : steps [] = [] := rfl

@[simp] theorem steps_enter (k : String) (evs : List Event) :
    steps (.enter k :: evs) = .enter k :: steps evs := rfl

@[simp] theorem steps_skip (k : String) (evs : List Event) :
    steps (.skip k :: evs) = .skip k :: steps evs := rfl

@[simp] theorem steps_told (rs : List Record) : steps (rs.map .told) = [] := by
  simp [steps, Event.toJson?]

theorem filterMap_steps {α : Type} {f : Event → Option α} (quiet : ∀ r, f (.told r) = none)
    (events : List Event) : (steps events).filterMap f = events.filterMap f := by
  rw [steps, List.filterMap_filter]
  refine List.filterMap_congr fun ev _ => ?_
  cases ev <;> simp [Event.toJson?, quiet]

@[simp] theorem visits_steps (events : List Event) : visits (steps events) = visits events :=
  filterMap_steps (fun _ => rfl) events

/-- After quiet events the first visit is the next event, or comes later. -/
theorem split_quiet {quiet before onward rest : List Event} {here mark : Event}
    (hq : visits quiet = []) (hm : mark.visited?.isSome = true)
    (h : quiet ++ here :: onward = before ++ mark :: rest) :
    (mark = here ∧ rest = onward) ∨ ∃ later, onward = later ++ mark :: rest := by
  rcases List.append_eq_append_iff.mp h with ⟨later, -, same⟩ | ⟨excess, rfl, same⟩
  · cases later with
    | nil =>
      obtain ⟨rfl, rfl⟩ := List.cons.inj same
      exact .inl ⟨rfl, rfl⟩
    | cons ev later => exact .inr ⟨later, (List.cons.inj same).2⟩
  · cases excess with
    | nil =>
      obtain ⟨rfl, rfl⟩ := List.cons.inj same
      exact .inl ⟨rfl, rfl⟩
    | cons ev excess =>
      -- the visit would be one of the quiet events
      obtain ⟨rfl, -⟩ := List.cons.inj same
      obtain ⟨k, hk⟩ := Option.isSome_iff_exists.mp hm
      simp [visits, hk] at hq

@[simp] theorem visits_nil : visits [] = [] := rfl

@[simp] theorem visits_enter (k : String) (evs : List Event) :
    visits (.enter k :: evs) = k :: visits evs := rfl

@[simp] theorem visits_skip (k : String) (evs : List Event) :
    visits (.skip k :: evs) = k :: visits evs := rfl

/-- Each node that is shown for want of a value is entered at once. -/
def Followed (events : List Event) : Prop := ∀ before k d after,
  events = before ++ .shownOnError k d :: after → after.head? = some (.enter k)

theorem followed_nil : Followed [] := by
  intro before k d after h
  simp at h

theorem followed_cons {ev : Event} {evs : List Event} : Followed (ev :: evs) ↔
    (∀ k d, ev = .shownOnError k d → evs.head? = some (.enter k)) ∧ Followed evs := by
  constructor
  · intro h
    constructor
    · intro k d same
      exact h [] k d evs (by rw [same]; rfl)
    · intro before k d after same
      exact h (ev :: before) k d after (by rw [same]; rfl)
  · intro ⟨first, later⟩ before k d after same
    cases before with
    | nil =>
      obtain ⟨rfl, rfl⟩ := List.cons.inj same
      exact first k d rfl
    | cons ev' before => exact later before k d after (List.cons.inj same).2

namespace Engine

/-- What a node reports of the choice of this route: a branch its result, any other node nothing. -/
inductive Chooses (n : CompiledNode) : Json → List Event → Prop
  | only {j} : n.next = .linear j → Chooses n j []
  | branch {onTrue onFalse b} : n.next = .branch onTrue onFalse →
      Chooses n (if b then onTrue else onFalse) [.branch n.id b]

/-- What is reported where a route comes to a node, or to none. -/
inductive Lands (e : Engine) (r : Json) : Option (String × CompiledNode) → List Event → Hop → Prop
  | loose : Lands e r none [] .nowhere
  | past {b m} : e.Hidden r m → Lands e r (some (b, m)) [] (.over b)
  | shown {b m} : ¬ e.Hidden r m → Lands e r (some (b, m)) [] (.present m)
  | despite {b m d} : ¬ e.Hidden r m → Lands e r (some (b, m)) [.shownOnError b d] (.present m)

/-- What one move reports. -/
inductive Hops (e : Engine) (r : Json) (k : String) : List Event → Hop → Prop
  | missing : e.graph.node? k = none → Hops e r k [] .nowhere
  | moved {n j x chosen landed move} : e.graph.node? k = some n → Chooses n j chosen →
      e.follow j = .ok x → Lands e r x landed move → Hops e r k (chosen ++ landed) move

/-- The steps of one move. -/
def hopSteps (e : Engine) (r : Json) (k : String) : List Event := steps (e.hop r k).events

section

variable {e : Engine} {r : Json} {k b : String} {n m : CompiledNode} {j : Json}

theorem route_chooses (h : (e.route r n).result = .ok j) :
    Chooses n j (steps (e.route r n).events) := by
  unfold route at h ⊢
  cases hn : n.next with
  | linear next =>
    simp only [hn] at h ⊢
    cases h
    exact .only hn
  | branch onTrue onFalse =>
    simp only [hn, evaluate] at h ⊢
    cases hc : n.data.condition.filter (!·.isEmpty) with
    | none => simp [hc] at h
    | some c =>
      simp only [hc] at h ⊢
      cases value : e.evaluator.evaluate r c with
      | error x => simp [value] at h
      | ok b =>
        simp only [value] at h ⊢
        cases h
        rw [steps_append, steps_told]
        exact .branch hn

theorem arrive_lands (e : Engine) (r : Json) (b : String) (m : CompiledNode) :
    Lands e r (some (b, m)) (steps (e.arrive r b m).1) (e.arrive r b m).2 := by
  unfold arrive
  cases hc : m.data.skipCondition with
  | none =>
    apply Lands.shown
    intro ⟨c, hc', _⟩
    simp [hc] at hc'
  | some c =>
    simp only [evaluate]
    have hidden_iff : e.Hidden r m ↔ e.evaluator.evaluate r c = .ok false := by simp [Hidden, hc]
    cases value : e.evaluator.evaluate r c with
    | error x =>
      rw [steps_append, steps_told]
      exact .despite (by simp [hidden_iff, value])
    | ok v =>
      cases v
      · rw [steps_told]
        exact .past (by simp [hidden_iff, value])
      · rw [steps_told]
        exact .shown (by simp [hidden_iff, value])

theorem hops {move : Hop} (h : (e.hop r k).result = .ok move) :
    Hops e r k (e.hopSteps r k) move := by
  unfold hopSteps
  unfold hop at h ⊢
  cases hn : e.graph.node? k with
  | none =>
    simp only [hn] at h ⊢
    cases h
    exact .missing hn
  | some n =>
    simp only [hn] at h ⊢
    rcases routed : e.route r n with ⟨events, x | j⟩
    · simp [routed] at h
    · have chosen := route_chooses (congrArg Walk.result routed)
      simp only [routed] at h chosen ⊢
      rcases followed : e.follow j with x | _ | ⟨b, m⟩
      · simp [followed] at h
      · simp only [followed] at h ⊢
        cases h
        simpa using Hops.moved hn chosen followed .loose
      · simp only [followed] at h ⊢
        cases h
        rw [steps_append]
        exact .moved hn chosen followed (e.arrive_lands r b m)

theorem hopSteps_visits (e : Engine) (r : Json) (k : String) : visits (e.hopSteps r k) = [] := by
  rw [hopSteps, visits_steps, hop_visits_nothing]

@[simp] theorem hopSteps_append_visits (e : Engine) (r : Json) (k : String) (evs : List Event) :
    visits (e.hopSteps r k ++ evs) = visits evs := by
  rw [visits_append, hopSteps_visits, List.nil_append]

end

/-- How a walk goes on from a node that it entered or passed over, step by step, to where it
stops. -/
inductive Goes (e : Engine) (r : Json) : String → List Event → Prop
  | stops {k} : (e.hop r k).result = .ok .nowhere → Goes e r k (e.hopSteps r k)
  | ends {k m} : (e.hop r k).result = .ok (.present m) → m.isEnd = true →
      Goes e r k (e.hopSteps r k ++ [.enter m.id])
  | enters {k m rest} : (e.hop r k).result = .ok (.present m) → m.isEnd = false →
      Goes e r m.id rest → Goes e r k (e.hopSteps r k ++ .enter m.id :: rest)
  | passes {k b rest} : (e.hop r k).result = .ok (.over b) → Goes e r b rest →
      Goes e r k (e.hopSteps r k ++ .skip b :: rest)

section

variable {e : Engine} {r : Json} {k b : String} {n m : CompiledNode} {evs more : List Event}

/-- There is one way on from a node. -/
theorem Goes.unique (h : Goes e r k evs) (h' : Goes e r k more) : evs = more := by
  induction h generalizing more with
  | stops move =>
    cases h' with
    | stops _ => rfl
    | _ move' => simp [move] at move'
  | ends move final =>
    cases h' with
    | ends move' _ =>
      rw [move] at move'
      cases move'
      rfl
    | enters move' going _ =>
      rw [move] at move'
      cases move'
      simp [final] at going
    | _ move' => simp [move] at move'
  | enters move going _ ih =>
    cases h' with
    | enters move' _ rest =>
      rw [move] at move'
      cases move'
      rw [ih rest]
    | ends move' final =>
      rw [move] at move'
      cases move'
      simp [final] at going
    | _ move' => simp [move] at move'
  | passes move _ ih =>
    cases h' with
    | passes move' rest =>
      rw [move] at move'
      cases move'
      rw [ih rest]
    | _ move' => simp [move] at move'

/-- After each visit the walk goes on from there, unless it was the one to an end. -/
theorem Goes.after {before rest : List Event} {mark : Event}
    (h : Goes e r k (before ++ mark :: rest)) (hv : mark.visited? = some b) :
    Goes e r b rest ∨ (mark = .enter b ∧ rest = [] ∧
      ∃ a m, (e.hop r a).result = .ok (.present m) ∧ m.isEnd = true ∧ m.id = b) := by
  have visited : mark.visited?.isSome = true := by simp [hv]
  generalize he : before ++ mark :: rest = evs at h
  induction h generalizing before with
  | @stops k move =>
    have some : visits (before ++ mark :: rest) ≠ [] := by simp [visits, hv]
    rw [he, hopSteps_visits] at some
    exact absurd rfl some
  | @ends k m move final =>
    rcases split_quiet (e.hopSteps_visits r k) visited he.symm with ⟨rfl, rfl⟩ | ⟨later, same⟩
    · obtain rfl := Option.some.inj hv
      exact .inr ⟨rfl, rfl, k, m, move, final, rfl⟩
    · simp at same
  | @enters k m _ _ _ onward ih | @passes k _ _ _ onward ih =>
    rcases split_quiet (e.hopSteps_visits r k) visited he.symm with ⟨rfl, rfl⟩ | ⟨later, same⟩
    · obtain rfl := Option.some.inj hv
      exact .inl onward
    · exact ih same.symm

/-- The walk does not stop at this node, should it come there: it is no end or is passed over. -/
def Leads (e : Engine) (r : Json) (k : String) : Prop :=
  ∀ n, e.graph.node? k = some n → n.isEnd = true → e.Hidden r n

theorem present_visible (hg : e.graph.Keyed) (h : (e.hop r k).result = .ok (.present m)) :
    e.graph.Routes k m.id ∧ e.graph.node? m.id = some m ∧ ¬ e.Hidden r m := by
  obtain ⟨b, route, found, visible⟩ := hop_present h
  obtain rfl := hg.named b m found
  refine ⟨route, found, fun hidden => ?_⟩
  obtain ⟨c, hc, value⟩ := hidden
  exact visible c hc value

theorem over_hidden (h : (e.hop r k).result = .ok (.over b)) : e.graph.Routes k b ∧
    ∃ n, e.graph.node? b = some n ∧ e.Hidden r n := by
  obtain ⟨route, n, c, found, hc, value⟩ := hop_over h
  exact ⟨route, n, found, c, hc, value⟩

/-- A walk does not come back: it would go the same way again, and again. -/
theorem Goes.fresh (hg : e.graph.Keyed) (h : Goes e r k evs) (onward : e.Leads r k) :
    k ∉ visits evs := by
  intro again
  obtain ⟨mark, member, hv⟩ := List.mem_filterMap.mp again
  obtain ⟨before, rest, rfl⟩ := List.append_of_mem member
  rcases h.after hv with same | ⟨-, -, a, m, move, final, rfl⟩
  · have equal := congrArg List.length (h.unique same)
    simp only [List.length_append, List.length_cons] at equal
    omega
  · obtain ⟨-, found, visible⟩ := present_visible hg move
    exact visible (onward m found final)

theorem Goes.nodup (hg : e.graph.Keyed) (h : Goes e r k evs) (onward : e.Leads r k) :
    (k :: visits evs).Nodup := by
  refine List.nodup_cons.mpr ⟨h.fresh hg onward, ?_⟩
  induction h with
  | stops _ => simp [hopSteps_visits]
  | ends _ _ => simp
  | @enters k m rest move going further ih =>
    have leads : e.Leads r m.id := by
      intro n found final
      obtain ⟨-, same, -⟩ := present_visible hg move
      rw [same] at found
      cases found
      rw [going] at final
      cases final
    have later := List.nodup_cons.mpr ⟨further.fresh hg leads, ih leads⟩
    simpa using later
  | @passes k b rest move further ih =>
    have leads : e.Leads r b := by
      intro n found _
      obtain ⟨-, n', same, hidden⟩ := over_hidden move
      rw [same] at found
      cases found
      exact hidden
    have later := List.nodup_cons.mpr ⟨further.fresh hg leads, ih leads⟩
    simpa using later

/-- All that a walk visits is joined by routes. -/
theorem Goes.joined (hg : e.graph.Keyed) (h : Goes e r k evs) :
    (k :: visits evs).IsChain e.graph.Routes := by
  induction h with
  | stops _ => simp [hopSteps_visits]
  | ends move _ =>
    obtain ⟨route, -⟩ := present_visible hg move
    simpa using route
  | enters move _ _ ih =>
    obtain ⟨route, -⟩ := present_visible hg move
    simpa using ⟨route, ih⟩
  | passes move _ ih =>
    obtain ⟨route, -⟩ := over_hidden move
    simpa using ⟨route, ih⟩

theorem Chooses.branched {chosen : List Event} {j : Json} (h : Chooses n j chosen) :
    (chosen.filterMap Event.branched?).Sublist [n.id] := by
  cases h with
  | only _ => simp
  | branch _ => exact List.Sublist.refl _

theorem Lands.unbranched {x : Option (String × CompiledNode)} {landed : List Event} {move : Hop}
    (h : Lands e r x landed move) : landed.filterMap Event.branched? = [] := by
  cases h <;> rfl

theorem Lands.unvisited {x : Option (String × CompiledNode)} {landed : List Event} {move : Hop}
    (h : Lands e r x landed move) : visits landed = [] := by
  cases h <;> rfl

theorem Lands.key (hg : e.graph.Keyed) {x : Option (String × CompiledNode)} {landed : List Event}
    {move : Hop} {j : Json} (h : Lands e r x landed move) (followed : e.follow j = .ok x) :
    move.key? = x.map Prod.fst := by
  cases h with
  | loose => rfl
  | past _ => rfl
  | shown _ | despite _ =>
    obtain ⟨-, -, found⟩ := follow_found.mp followed
    exact congrArg some (hg.named _ _ found)

theorem hopSteps_branched (hg : e.graph.Keyed) {move : Hop}
    (h : (e.hop r k).result = .ok move) :
    ((e.hopSteps r k).filterMap Event.branched?).Sublist [k] := by
  have moved := hops h
  generalize e.hopSteps r k = taken at moved ⊢
  cases moved with
  | missing _ => simp
  | moved found chosen _ landed =>
    rw [List.filterMap_append, landed.unbranched, List.append_nil, ← hg.named _ _ found]
    exact chosen.branched

/-- No branch is decided but where the walk is. -/
theorem Goes.branched (hg : e.graph.Keyed) (h : Goes e r k evs) :
    (evs.filterMap Event.branched?).Sublist (k :: visits evs) := by
  induction h with
  | stops move =>
    rw [hopSteps_visits]
    exact hopSteps_branched hg move
  | ends move _ =>
    rw [hopSteps_append_visits, List.filterMap_append]
    exact (hopSteps_branched hg move).append (List.nil_sublist _)
  | enters move _ _ ih | passes move _ ih =>
    rw [hopSteps_append_visits, List.filterMap_append]
    exact (hopSteps_branched hg move).append ih

theorem Goes.moved (h : Goes e r k evs) : ∃ move onward, (e.hop r k).result = .ok move ∧
    evs = e.hopSteps r k ++ onward ∧ (visits onward).head? = move.key? := by
  cases h with
  | stops move => exact ⟨_, [], move, by simp, rfl⟩
  | ends move _ => exact ⟨_, _, move, rfl, rfl⟩
  | enters move _ _ => exact ⟨_, _, move, rfl, rfl⟩
  | passes move _ => exact ⟨_, _, move, rfl, rfl⟩

theorem Chooses.decided {chosen : List Event} {j onTrue onFalse : Json} (h : Chooses n j chosen)
    (hn : n.next = .branch onTrue onFalse) :
    ∃ b : Bool, chosen = [.branch n.id b] ∧ j = if b then onTrue else onFalse := by
  cases h with
  | only hn' =>
    rw [hn] at hn'
    cases hn'
  | branch hn' =>
    rw [hn] at hn'
    cases hn'
    exact ⟨_, rfl, rfl⟩

theorem hopSteps_decided (hg : e.graph.Keyed) {move : Hop} (h : (e.hop r k).result = .ok move)
    (found : e.graph.node? k = some n) {onTrue onFalse : Json}
    (hn : n.next = .branch onTrue onFalse) : ∃ b landed x, e.hopSteps r k = .branch k b :: landed ∧
      visits landed = [] ∧ e.follow (if b then onTrue else onFalse) = .ok x ∧
      move.key? = x.map Prod.fst := by
  have moved := hops h
  generalize e.hopSteps r k = taken at moved ⊢
  cases moved with
  | missing lost =>
    rw [found] at lost
    cases lost
  | moved found' chosen followed landed =>
    rw [found] at found'
    cases found'
    obtain ⟨b, rfl, rfl⟩ := chosen.decided hn
    refine ⟨b, _, _, ?_, landed.unvisited, followed, landed.key hg followed⟩
    rw [hg.named k n found]
    rfl

/-- On a branch the first step is its decision, and the route that this selects leads to what is
visited next. -/
theorem Goes.decided (hg : e.graph.Keyed) (h : Goes e r k evs) (found : e.graph.node? k = some n)
    {onTrue onFalse : Json} (hn : n.next = .branch onTrue onFalse) : ∃ b rest x,
    evs = .branch k b :: rest ∧ e.follow (if b then onTrue else onFalse) = .ok x ∧
      (visits rest).head? = x.map Prod.fst := by
  obtain ⟨move, onward, hm, rfl, first⟩ := h.moved
  obtain ⟨b, landed, x, same, quiet, followed, key⟩ := hopSteps_decided hg hm found hn
  refine ⟨b, landed ++ onward, x, by rw [same]; rfl, followed, ?_⟩
  rw [visits_append, quiet, List.nil_append, first, key]

theorem Chooses.followed {chosen : List Event} {j : Json} (h : Chooses n j chosen)
    (later : Followed evs) : Followed (chosen ++ evs) := by
  cases h with
  | only _ => exact later
  | branch _ => exact followed_cons.mpr ⟨by simp, later⟩

theorem Lands.followed (hg : e.graph.Keyed) {x : Option (String × CompiledNode)}
    {landed : List Event} {move : Hop} {j : Json} (h : Lands e r x landed move)
    (followed : e.follow j = .ok x)
    (first : ∀ m, move = .present m → evs.head? = some (.enter m.id)) (later : Followed evs) :
    Followed (landed ++ evs) := by
  cases h with
  | loose => exact later
  | past _ => exact later
  | shown _ => exact later
  | @despite b m d _ =>
    obtain ⟨-, -, found⟩ := follow_found.mp followed
    refine followed_cons.mpr ⟨?_, later⟩
    intro k d' same
    cases same
    rw [← hg.named b m found]
    exact first m rfl

theorem hopSteps_followed (hg : e.graph.Keyed) {move : Hop} (h : (e.hop r k).result = .ok move)
    (first : ∀ m, move = .present m → evs.head? = some (.enter m.id)) (later : Followed evs) :
    Followed (e.hopSteps r k ++ evs) := by
  have moved := hops h
  generalize e.hopSteps r k = taken at moved ⊢
  cases moved with
  | missing _ => exact later
  | moved _ chosen followed landed =>
    rw [List.append_assoc]
    exact chosen.followed (landed.followed hg followed first later)

theorem Goes.followed (hg : e.graph.Keyed) (h : Goes e r k evs) : Followed evs := by
  induction h with
  | @stops k move =>
    rw [← List.append_nil (e.hopSteps r k)]
    apply hopSteps_followed hg move
    · simp
    · exact followed_nil
  | ends move _ =>
    apply hopSteps_followed hg move
    · intro m same
      cases same
      rfl
    · exact followed_cons.mpr ⟨by simp, followed_nil⟩
  | enters move _ _ ih =>
    apply hopSteps_followed hg move
    · intro m same
      cases same
      rfl
    · exact followed_cons.mpr ⟨by simp, ih⟩
  | passes move _ ih =>
    apply hopSteps_followed hg move
    · simp
    · exact followed_cons.mpr ⟨by simp, ih⟩

end

end Engine
end Questionnaire
