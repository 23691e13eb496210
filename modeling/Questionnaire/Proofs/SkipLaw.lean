import Mathlib.Order.OrderIsoNat
import Questionnaire.Proofs.Visits

namespace Questionnaire
open Relation

/-- Every route is the id of a node, be there such a node or not, or nothing. -/
def Graph.RoutesNamed (g : Graph) : Prop :=
  ∀ k n, g.node? k = some n → ∀ j ∈ n.next.slots, j = .null ∨ ∃ id, j = .str id

/-- The routes of a compiled graph are. -/
theorem Graph.routesNamed_compile (nodes : List Node) (edges : List Edge) :
    (compile nodes edges).RoutesNamed := by
  intro k n hn j hj
  rw [node?_compile, node?_ofNodes, Option.map_map] at hn
  obtain ⟨m, -, rfl⟩ := Option.map_eq_some_iff.mp hn
  rcases slots_routed hj with unset | ⟨e, -, rfl⟩
  · exact .inl (slots_unset unset)
  · rw [landing]
    split
    · exact .inr ⟨e.target, rfl⟩
    · exact .inl rfl

namespace Engine

/-- The one route of a node, or the one that its condition chooses. -/
inductive Takes (e : Engine) (r : Json) (n : CompiledNode) : Json → Prop
  | only {j} : n.next = .linear j → Takes e r n j
  | chosen {onTrue onFalse c b} : n.next = .branch onTrue onFalse → n.data.condition = some c →
      c.isEmpty = false → e.evaluator.evaluate r c = .ok b →
      Takes e r n (if b then onTrue else onFalse)

/-- A branch chooses no route: it has no condition, or one without a value. -/
inductive Stuck (e : Engine) (r : Json) (n : CompiledNode) : WalkError → Prop
  | unroutable {onTrue onFalse} : n.next = .branch onTrue onFalse →
      (∀ c, n.data.condition = some c → c.isEmpty = true) →
      Stuck e r n (.condition (.unroutable n.id))
  | undecided {onTrue onFalse c x} : n.next = .branch onTrue onFalse →
      n.data.condition = some c → c.isEmpty = false → e.evaluator.evaluate r c = .error x →
      Stuck e r n (.condition x)

/-- The route of the node under the first key leads to this node under the other. -/
def Offers (e : Engine) (r : Json) (a b : String) (m : CompiledNode) : Prop :=
  ∃ n, e.graph.node? a = some n ∧ e.Takes r n (.str b) ∧ b ≠ "" ∧ e.graph.node? b = some m

/-- The node has a condition of its own that is false. If that has no value, the node is shown. -/
def Hidden (e : Engine) (r : Json) (m : CompiledNode) : Prop :=
  ∃ c, m.data.skipCondition = some c ∧ e.evaluator.evaluate r c = .ok false

/-- The law of the next node: it is the one that the route offers or, where that one is hidden, the
one that is next after it. -/
inductive Finds (e : Engine) (r : Json) : String → Except WalkError (Option CompiledNode) → Prop
  | missing {a} : e.graph.node? a = none → Finds e r a (.ok none)
  | stuck {a n x} : e.graph.node? a = some n → e.Stuck r n x → Finds e r a (.error x)
  | loose {a n j} : e.graph.node? a = some n → e.Takes r n j →
      (∀ b, j = .str b → b = "" ∨ e.graph.node? b = none) → Finds e r a (.ok none)
  | shown {a b m} : e.Offers r a b m → ¬ e.Hidden r m → Finds e r a (.ok (some m))
  | hidden {a b m w} : e.Offers r a b m → e.Hidden r m → Finds e r b w → Finds e r a w

/-- Hidden nodes follow one another from this key on, and after some of them they recur. -/
def Rounds (e : Engine) (r : Json) (k : String) : Prop :=
  ∃ c : Nat → String, c 0 = k ∧ (∀ i, ∃ m, e.Offers r (c i) (c (i + 1)) m ∧ e.Hidden r m) ∧
    ∃ i p, 0 < p ∧ ∀ j ≥ i, c (j + p) = c j

section

variable {e : Engine} {r : Json} {n m : CompiledNode} {j : Json} {x : WalkError} {a b k : String}
  {w : Except WalkError (Option CompiledNode)}

theorem condition_filter_none {c : Option Group} :
    c.filter (!·.isEmpty) = none ↔ ∀ d, c = some d → d.isEmpty = true := by
  simp [Option.filter_eq_none_iff]

theorem condition_filter_some {c : Option Group} {d : Group} :
    c.filter (!·.isEmpty) = some d ↔ c = some d ∧ d.isEmpty = false := by
  simp [Option.filter_eq_some_iff]

theorem route_takes : (e.route r n).result = .ok j ↔ e.Takes r n j := by
  constructor
  · intro h
    unfold route at h
    split at h
    · rename_i next hn
      cases h
      exact .only hn
    · rename_i onTrue onFalse hn
      split at h
      · cases h
      · rename_i c hc
        obtain ⟨hc, full⟩ := condition_filter_some.mp hc
        split at h
        · cases h
        · rename_i told b value
          cases h
          exact .chosen hn hc full (congrArg Prod.snd value)
  · intro h
    cases h with
    | only hn => simp [route, hn]
    | chosen hn hc full value =>
      have given := condition_filter_some.mpr ⟨hc, full⟩
      simp [route, hn, given, evaluate, value]

theorem route_stuck : (e.route r n).result = .error x ↔ e.Stuck r n x := by
  constructor
  · intro h
    obtain ⟨branch, ⟨empty, rfl⟩ | ⟨c, y, hc, value, rfl⟩⟩ := route_error h
    · cases hn : n.next with
      | linear next => simp [hn, Next.isBranch] at branch
      | branch onTrue onFalse => exact .unroutable hn (condition_filter_none.mp empty)
    · cases hn : n.next with
      | linear next => simp [hn, Next.isBranch] at branch
      | branch onTrue onFalse =>
        obtain ⟨hc, full⟩ := condition_filter_some.mp hc
        exact .undecided hn hc full value
  · intro h
    cases h with
    | unroutable hn empty => simp [route, hn, condition_filter_none.mpr empty]
    | undecided hn hc full value =>
      have given := condition_filter_some.mpr ⟨hc, full⟩
      simp [route, hn, given, evaluate, value]

/-- The law never says that a search comes round. -/
theorem Stuck.ne_skipCycle (h : e.Stuck r n x) (b : String) (ks : List String) :
    x ≠ .skipCycle b ks := by
  cases h <;> simp

theorem arrive_hidden {h : Hop} : (e.arrive r k m).2 = h ↔
    (e.Hidden r m ∧ h = .over k) ∨ (¬ e.Hidden r m ∧ h = .present m) := by
  by_cases hidden : e.Hidden r m
  · rw [arrive_over.mpr ⟨rfl, hidden⟩]
    simp [hidden, eq_comm]
  · have shown : (e.arrive r k m).2 = .present m := by
      refine arrive_present.mpr ⟨rfl, fun c hc value => hidden ⟨c, hc, value⟩⟩
    rw [shown]
    simp [hidden, eq_comm]

theorem Offers.hop (h : e.Offers r a b m) :
    (e.hop r a).result = .ok (e.arrive r b m).2 := by
  obtain ⟨n, hn, taken, named, hm⟩ := h
  exact Hopped.result (.arrived hn (route_takes.mpr taken) (follow_found.mpr ⟨rfl, named, hm⟩))

theorem skips_iff : e.Skips r a b ↔ ∃ m, e.Offers r a b m ∧ e.Hidden r m := by
  constructor
  · intro h
    obtain ⟨n, j, k, m, hn, taken, hf, arrived⟩ := hop_arrived h nofun
    obtain ⟨rfl, named, hm⟩ := follow_found.mp hf
    obtain ⟨rfl, hidden⟩ := arrive_over.mp arrived
    exact ⟨m, ⟨n, hn, route_takes.mp taken, named, hm⟩, hidden⟩
  · rintro ⟨m, offered, hidden⟩
    unfold Skips
    rw [offered.hop, arrive_over.mpr ⟨rfl, hidden⟩]

theorem Skips.unique {b' : String} (h : e.Skips r a b) (h' : e.Skips r a b') : b = b' := by
  unfold Skips at h h'
  rw [h] at h'
  cases h'
  rfl

theorem follow_none (hj : ∀ b, j = .str b → b = "" ∨ e.graph.node? b = none)
    (named : j = .null ∨ ∃ id, j = .str id) : e.follow j = .ok none := by
  rcases named with rfl | ⟨id, rfl⟩
  · rfl
  · rcases hj id rfl with rfl | missing
    · rfl
    · unfold follow
      simp [missing]

/-- What one move comes to, by the law; where it passes a node over, the law goes on from there. -/
theorem finds_iff (named : e.graph.RoutesNamed) : Finds e r a w ↔
    match (e.hop r a).result with
    | .error x => w = .error x
    | .ok .nowhere => w = .ok none
    | .ok (.present m) => w = .ok (some m)
    | .ok (.over b) => Finds e r b w := by
  constructor
  · intro h
    cases h with
    | missing hn => rw [Hopped.result (.missing hn)]
    | stuck hn stuck => rw [Hopped.result (.stuck hn (route_stuck.mpr stuck))]
    | loose hn taken loose =>
      have taken := route_takes.mpr taken
      have nothing := follow_none loose (named a _ hn _ (route_slot taken))
      rw [Hopped.result (.loose hn taken nothing)]
    | shown offered visible => rw [offered.hop, arrive_hidden.mpr (.inr ⟨visible, rfl⟩)]
    | hidden offered hidden rest =>
      rw [offered.hop, arrive_hidden.mpr (.inl ⟨hidden, rfl⟩)]
      exact rest
  · have moved := hopped e r a
    generalize (e.hop r a).result = y at moved
    cases moved with
    | missing hn =>
      rintro rfl
      exact .missing hn
    | stuck hn stuck =>
      rintro rfl
      exact .stuck hn (route_stuck.mp stuck)
    | @unusable n j x hn taken unusable =>
      -- a route that names a node, or none, can be followed
      obtain rfl | ⟨id, rfl⟩ := named a n hn j (route_slot taken)
      · cases unusable
      · cases unusable
    | @loose n j hn taken nothing =>
      rintro rfl
      refine .loose hn (route_takes.mp taken) fun b hj => ?_
      subst hj
      by_contra h
      obtain ⟨full, known⟩ := not_or.mp h
      obtain ⟨m, hm⟩ := Option.ne_none_iff_exists'.mp known
      rw [follow_found.mpr ⟨rfl, full, hm⟩] at nothing
      cases nothing
    | @arrived n j b m hn taken found =>
      obtain ⟨rfl, full, hm⟩ := follow_found.mp found
      have offered : e.Offers r a b m := ⟨n, hn, route_takes.mp taken, full, hm⟩
      by_cases hidden : e.Hidden r m
      · rw [arrive_hidden.mpr (.inl ⟨hidden, rfl⟩)]
        exact .hidden offered hidden
      · rw [arrive_hidden.mpr (.inr ⟨hidden, rfl⟩)]
        rintro rfl
        exact .shown offered hidden

/-- Where a hidden node is offered, the law says the same of it. -/
theorem Skips.finds (named : e.graph.RoutesNamed) (h : e.Skips r a b) :
    Finds e r a w ↔ Finds e r b w := by
  unfold Skips at h
  rw [finds_iff named, h]

theorem Passes.finds {ks : List String} {evs : List Event} (named : e.graph.RoutesNamed)
    (h : Passes e r k ks evs a) : Finds e r k w ↔ Finds e r a w := by
  induction h with
  | here => rfl
  | further _ move _ ih => exact ih.trans (Skips.finds named (congrArg Walk.result move))

theorem Offers.unique {b' : String} {m' : CompiledNode} (h : e.Offers r a b m)
    (h' : e.Offers r a b' m') : b = b' ∧ m = m' := by
  obtain ⟨n, hn, taken, -, hm⟩ := h
  obtain ⟨n', hn', taken', -, hm'⟩ := h'
  obtain rfl := Option.some.inj (hn.symm.trans hn')
  have same := (route_takes.mpr taken).symm.trans (route_takes.mpr taken')
  cases same
  exact ⟨rfl, Option.some.inj (hm.symm.trans hm')⟩

/-- Where the law comes to an end, no more than finitely many nodes are skipped. -/
theorem Finds.acc (h : Finds e r a w) : Acc (fun b a => e.Skips r a b) a := by
  induction h with
  | missing hn =>
    constructor
    intro b skip
    obtain ⟨m, ⟨n, hn', -⟩, -⟩ := skips_iff.mp skip
    rw [hn] at hn'
    cases hn'
  | stuck hn stuck =>
    constructor
    intro b skip
    obtain ⟨m, ⟨n, hn', taken, -⟩, -⟩ := skips_iff.mp skip
    obtain rfl := Option.some.inj (hn.symm.trans hn')
    have same := (route_stuck.mpr stuck).symm.trans (route_takes.mpr taken)
    cases same
  | loose hn taken loose =>
    constructor
    intro b skip
    obtain ⟨m, ⟨n, hn', taken', full, hm⟩, -⟩ := skips_iff.mp skip
    obtain rfl := Option.some.inj (hn.symm.trans hn')
    have same := (route_takes.mpr taken).symm.trans (route_takes.mpr taken')
    rcases loose b (Except.ok.inj same) with empty | missing
    · exact absurd empty full
    · rw [missing] at hm
      cases hm
  | shown offered visible =>
    constructor
    intro b skip
    obtain ⟨m, offered', hidden⟩ := skips_iff.mp skip
    obtain ⟨-, rfl⟩ := offered.unique offered'
    exact absurd hidden visible
  | hidden offered _ _ ih =>
    constructor
    intro b skip
    obtain ⟨m, offered', -⟩ := skips_iff.mp skip
    obtain ⟨rfl, -⟩ := offered.unique offered'
    exact ih

theorem not_round (h : Acc (fun b a => e.Skips r a b) a) : ¬ TransGen (e.Skips r) a a := by
  induction h with
  | intro a _ ih =>
    intro round
    obtain ⟨b, skip, back⟩ := TransGen.head'_iff.mp round
    exact ih b skip (TransGen.tail' back skip)

/-- The law comes to an end exactly where finitely many nodes are skipped. -/
theorem finds_iff_acc (named : e.graph.RoutesNamed) :
    (∃ w, Finds e r k w) ↔ Acc (fun b a => e.Skips r a b) k := by
  constructor
  · rintro ⟨w, found⟩
    exact found.acc
  · intro h
    induction h with
    | intro a _ ih =>
      rcases move : (e.hop r a).result with x | _ | m | b
      · exact ⟨.error x, (finds_iff named).mpr (by rw [move])⟩
      · exact ⟨.ok none, (finds_iff named).mpr (by rw [move])⟩
      · exact ⟨.ok (some m), (finds_iff named).mpr (by rw [move])⟩
      · obtain ⟨w, found⟩ := ih b move
        exact ⟨w, (Skips.finds named move).mpr found⟩

/-- Skips that go on and on come round, for there are finitely many nodes. -/
theorem endless_periodic {c : Nat → String} (skips : ∀ i, e.Skips r (c i) (c (i + 1))) :
    ∃ i p, 0 < p ∧ ∀ j ≥ i, c (j + p) = c j := by
  have known (i : Nat) : c (i + 1) ∈ {k | k ∈ Ordered.keys e.graph} := by
    obtain ⟨-, -, -, found⟩ := (skips i).routes
    exact Graph.mem_keys.mpr found
  obtain ⟨i, j, before, same⟩ :=
    (List.finite_toSet _).exists_lt_map_eq_of_forall_mem known
  refine ⟨i + 1, j - i, by omega, fun l later => ?_⟩
  induction l, later using Nat.le_induction with
  | base =>
    have step : i + 1 + (j - i) = j + 1 := by omega
    rw [step, same]
  | succ l _ ih =>
    -- after equal keys the same key is skipped
    have skip := skips (l + (j - i))
    rw [ih] at skip
    have step : l + 1 + (j - i) = l + (j - i) + 1 := by omega
    rw [step]
    exact skip.unique (skips l)

theorem rounds_iff_not_acc : e.Rounds r k ↔ ¬ Acc (fun b a => e.Skips r a b) k := by
  rw [not_acc_iff_exists_descending_chain]
  constructor
  · rintro ⟨c, first, hidden, -⟩
    exact ⟨c, first, fun i => skips_iff.mpr (hidden i)⟩
  · rintro ⟨c, first, skips⟩
    exact ⟨c, first, fun i => skips_iff.mp (skips i), endless_periodic skips⟩

theorem Finds.ne_skipCycle (h : Finds e r k w) (b : String) (ks : List String) :
    w ≠ .error (.skipCycle b ks) := by
  induction h with
  | stuck _ stuck =>
    intro same
    exact stuck.ne_skipCycle b ks (Except.error.inj same)
  | hidden _ _ _ ih => exact ih
  | _ => nofun

/-- What the law says is what the loop ends in. -/
theorem Finds.next (named : e.graph.RoutesNamed) (h : Finds e r k w) :
    (e.next r k).result = w := by
  obtain ⟨ks, evs, a, v, passed, settled, hv⟩ := next_cases e r k
  have here := (passed.finds named).mp h
  rw [hv]
  cases settled with
  | failed move | nowhere move | shown move =>
    rw [finds_iff named, move] at here
    exact here.symm
  | @round more b move seen =>
    -- the node skipped again leads back to itself, so the law would not have come to an end
    have skip : e.Skips r a b := congrArg Walk.result move
    have onward := (Skips.finds named skip).mp here
    exact absurd (TransGen.tail' (passed.chain.2 b seen) skip) (not_round onward.acc)

/-- The loop fails with a cycle only for want of anything that the law could say. -/
theorem next_found_or_round (named : e.graph.RoutesNamed) (r : Json) (k : String) :
    (∃ w, Finds e r k w) ∨ ∃ b ks, (e.next r k).result = .error (.skipCycle b ks) := by
  obtain ⟨ks, evs, a, v, passed, settled, hv⟩ := next_cases e r k
  cases settled with
  | failed move | nowhere move | shown move =>
    have here : ∃ w, Finds e r a w := by simp [finds_iff named, move]
    exact .inl (here.imp fun w => (passed.finds named).mpr)
  | round move seen => exact .inr ⟨_, _, congrArg Walk.result hv⟩

theorem next_cycle_iff (named : e.graph.RoutesNamed) (r : Json) (k : String) :
    (∃ b ks, (e.next r k).result = .error (.skipCycle b ks)) ↔ ¬ ∃ w, Finds e r k w := by
  constructor
  · intro cycle found
    obtain ⟨b, ks, cycle⟩ := cycle
    obtain ⟨w, found⟩ := found
    rw [found.next named] at cycle
    exact found.ne_skipCycle b ks cycle
  · intro unfound
    exact (next_found_or_round named r k).resolve_left unfound

theorem next_visits_le (e : Engine) (r : Json) (k : String) :
    (visits (e.next r k).events).length ≤ e.graph.length := by
  obtain ⟨ks, evs, a, v, passed, settled, hv⟩ := next_cases e r k
  rw [hv, visits_append, passed.visits, settled.visits_nothing, List.append_nil]
  exact passed.length_le

end

/-- The search for the next node obeys the law, and its guard against cycles is exact. -/
structure SkipLaw (e : Engine) (r : Json) (k : String) : Prop where
  found : ∀ w, Finds e r k w → (e.next r k).result = w
  cycle : (∃ b ks, (e.next r k).result = .error (.skipCycle b ks)) ↔ ¬ ∃ w, Finds e r k w
  endless : (¬ ∃ w, Finds e r k w) ↔ e.Rounds r k
  /-- Nodes are only passed over on the way, and no more than there are. -/
  bounded : (visits (e.next r k).events).length ≤ e.graph.length

theorem skipLaw {e : Engine} (named : e.graph.RoutesNamed) (r : Json) (k : String) :
    e.SkipLaw r k where
  found _ h := h.next named
  cycle := next_cycle_iff named r k
  endless := by rw [finds_iff_acc named, rounds_iff_not_acc]
  bounded := next_visits_le e r k

/-- Where a walk stops: at an end, or where the search finds no node. -/
def Stops (e : Engine) (r : Json) (n : CompiledNode) : Prop :=
  n.isEnd = true ∨ (e.next r n.id).result = .ok none

/-- Why a walk fails at the last of these nodes: because the search does, or because it comes to
one of them again. -/
def Fails (e : Engine) (r : Json) (path : List CompiledNode) (n : CompiledNode) (x : WalkError) :
    Prop :=
  (e.next r n.id).result = .error x ∨ ∃ m, (e.next r n.id).result = .ok (some m) ∧
    m.id ∈ (path ++ [n]).map CompiledNode.id ∧
      x = .revisit m.id ((path ++ [n]).map CompiledNode.id)

/-- A walk that keeps account of what happens goes where the search alone leads. -/
structure TracedAlike (e : Engine) (r : Json) : Prop where
  reached : ∀ t, e.trace r = .ok t → ∃ start path n, e.startNode = .ok start ∧
    t.path = path ++ [n] ∧ t.path.head? = some start ∧ e.Onward r t.path ∧ e.Stops r n
  failed : ∀ x, e.trace r = .error x → e.startNode = .error x ∨ ∃ start path n,
    e.startNode = .ok start ∧ (path ++ [n]).head? = some start ∧ e.Onward r (path ++ [n]) ∧
      n.isEnd = false ∧ e.Fails r path n x

section

variable {e : Engine} {r : Json} {path : List CompiledNode} {evs : List Event} {n : CompiledNode}

theorem Ends.fails {w : Walk (List CompiledNode)} {x : WalkError} (before : Enters e r path evs n)
    (h : Ends e r path n w) (hx : w.result = .error x) : ∃ start path n,
    e.startNode = .ok start ∧ (path ++ [n]).head? = some start ∧ e.Onward r (path ++ [n]) ∧
      n.isEnd = false ∧ e.Fails r path n x := by
  cases h with
  | ending _ _ => cases hx
  | loose _ _ _ => cases hx
  | failed _ going move =>
    cases hx
    obtain ⟨start, hs, first⟩ := before.started
    exact ⟨start, path, n, hs, first, before.onward, going, .inl (congrArg Walk.result move)⟩
  | revisit seen =>
    cases hx
    -- the node that comes again came after one that was entered
    cases before with
    | start _ => simp at seen
    | @next path _ _ m _ earlier _ going move =>
      obtain ⟨start, hs, first⟩ := earlier.started
      exact ⟨start, path, m, hs, first, earlier.onward, going,
        .inr ⟨n, congrArg Walk.result move, seen, rfl⟩⟩

theorem tracedAlike (e : Engine) (r : Json) : e.TracedAlike r where
  reached t ht := by
    obtain ⟨path, evs, n, more, before, -, same, -, last⟩ := trace_cases ht
    obtain ⟨start, hs, first⟩ := before.started
    rw [same]
    refine ⟨start, path, n, hs, rfl, first, before.onward, ?_⟩
    rcases last with ⟨final, -⟩ | ⟨-, move⟩
    · exact .inl final
    · exact .inr (congrArg Walk.result move)
  failed x hx := by
    rw [trace_error] at hx
    rcases walk_cases e r with ⟨y, hs, hw⟩ | ⟨path, evs, n, w, before, last, hw⟩
    · rw [hw] at hx
      cases hx
      exact .inl hs
    · rw [hw] at hx
      exact .inr (last.fails before hx)

end

/-- The search for the next node is the law of the next node, on any graph whose routes name nodes:
it ends in what the law says where the law comes to an end, and fails with a cycle exactly where
hidden nodes follow one another round and round. Keeping account of it changes nothing. -/
theorem next_by_law (e : Engine) (named : e.graph.RoutesNamed) (r : Json) :
    (∀ k, e.SkipLaw r k) ∧ e.TracedAlike r :=
  ⟨skipLaw named r, tracedAlike e r⟩

/-- A question that is asked where the field has an answer. -/
def askedIf (id field : String) : Node :=
  ⟨id, ⟨.zero, .zero⟩, .textInput,
    ⟨"", "", some ⟨none, .and, [.rule ⟨none, field, none, "is_set", .null, .static⟩]⟩,
      .text "" false, []⟩⟩

/-- Two such questions that follow each other round and round. -/
def carousel : Engine :=
  ⟨Graph.compile
    [⟨"a", ⟨.zero, .zero⟩, .start, ⟨"", "", none, .start "", []⟩⟩, askedIf "b" "x", askedIf "c" "y"]
    [⟨"1", "a", "b", none, none, none⟩, ⟨"2", "b", "c", none, none, none⟩,
      ⟨"3", "c", "b", none, none, none⟩], ⟨[], "", ""⟩⟩

/-- Without answers the two are skipped in turn; with an answer to the second one's field, it is
found after the first. -/
theorem next_by_law_carousel : carousel.graph.RoutesNamed ∧ carousel.Rounds (.obj []) "a" ∧
    Finds carousel (.obj [("y", .str "1")]) "a"
      (.ok (some ⟨"c", .textInput, (askedIf "c" "y").data, .linear (.str "b")⟩)) := by
  have named : carousel.graph.RoutesNamed := Graph.routesNamed_compile _ _
  refine ⟨named, ?_, ?_⟩
  · have law := (next_by_law carousel named (.obj [])).1 "a"
    exact law.endless.mp (law.cycle.mp ⟨"b", ["b", "c"], by decide +kernel⟩)
  · have law := (next_by_law carousel named (.obj [("y", .str "1")])).1 "a"
    have shown : (carousel.next (.obj [("y", .str "1")]) "a").result
        = .ok (some ⟨"c", .textInput, (askedIf "c" "y").data, .linear (.str "b")⟩) := by
      decide +kernel
    have settled : ∃ w, Finds carousel (.obj [("y", .str "1")]) "a" w := by
      by_contra unfound
      obtain ⟨b, ks, cycle⟩ := law.cycle.mpr unfound
      rw [shown] at cycle
      cases cycle
    obtain ⟨w, found⟩ := settled
    rw [← law.found w found, shown] at found
    exact found

end Engine
end Questionnaire
