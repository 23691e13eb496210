import Questionnaire.Proofs.WalkSteps

namespace Questionnaire

/-- The steps that a trace reports. -/
def Trace.steps (t : Trace) : List Event := Questionnaire.steps t.events

/-- Where no node is visited twice, none is both passed over and entered. -/
theorem visits_apart {evs : List Event} {k : String} (once : (visits evs).Nodup)
    (skipped : .skip k ∈ evs) : .enter k ∉ evs := by
  intro entered
  obtain ⟨before, after, rfl⟩ := List.append_of_mem skipped
  rw [visits_append, visits_skip, List.nodup_middle] at once
  have once := (List.nodup_cons.mp once).1
  rw [← visits_append] at once
  apply once
  refine List.mem_filterMap.mpr ⟨.enter k, ?_, rfl⟩
  simpa using entered

/-- Where no branch is decided twice, none has a step apart from this one. -/
theorem branched_once {before rest : List Event} {k : String} {b : Bool}
    (once : ((before ++ .enter k :: .branch k b :: rest).filterMap Event.branched?).Nodup)
    (c : Bool) : .branch k c ∉ before ∧ .branch k c ∉ rest := by
  have apart : k ∉ (before ++ rest).filterMap Event.branched? := by
    rw [List.filterMap_append] at once ⊢
    exact (List.nodup_cons.mp (List.nodup_middle.mp once)).1
  constructor
  · intro again
    exact apart (List.mem_filterMap.mpr ⟨_, List.mem_append_left _ again, rfl⟩)
  · intro again
    exact apart (List.mem_filterMap.mpr ⟨_, List.mem_append_right _ again, rfl⟩)

theorem mem_entered {evs : List Event} {k : String} :
    k ∈ evs.filterMap Event.entered? ↔ .enter k ∈ evs := by
  rw [List.mem_filterMap]
  constructor
  · intro ⟨mark, member, hv⟩
    cases mark <;> simp [Event.entered?] at hv
    exact hv ▸ member
  · intro member
    exact ⟨_, member, rfl⟩

namespace Engine

/-- The branch was entered and at once decided, once only, and the route that was selected leads to
what is visited next. -/
def Decided (e : Engine) (t : Trace) (n : CompiledNode) : Prop :=
  ∃ onTrue onFalse before b rest x, n.next = .branch onTrue onFalse ∧
    t.steps = before ++ .enter n.id :: .branch n.id b :: rest ∧
    (∀ c, .branch n.id c ∉ before ∧ .branch n.id c ∉ rest) ∧
    e.follow (if b then onTrue else onFalse) = .ok x ∧ (visits rest).head? = x.map Prod.fst

/-- The trace is an account of the walk, of each visit once and in order. -/
structure Accounts (e : Engine) (r : Json) (t : Trace) : Prop where
  entered : t.steps.filterMap Event.entered? = t.ids
  walked : ∃ start path n, e.startNode = .ok start ∧ t.path = path ++ [n] ∧
    t.path.head? = some start ∧ e.Onward r t.path ∧ e.Stops r n
  once : (visits t.steps).Nodup
  apart : ∀ k, .skip k ∈ t.steps → k ∉ t.ids
  /-- The nodes passed over between two that are entered join these two. -/
  joined : (visits t.steps).IsChain e.graph.Routes
  decided : ∀ n ∈ t.path, n.kind = .branch → e.Decided t n
  followed : Followed t.steps

/-- What a walk does once it entered a node: it stops at an end, and goes on from any other node. -/
def Continues (e : Engine) (r : Json) (n : CompiledNode) (rest : List Event) : Prop :=
  (n.isEnd = true ∧ rest = []) ∨ (n.isEnd = false ∧ Goes e r n.id rest)

section

variable {e : Engine} {r : Json} {k a : String} {ks : List String} {evs more rest : List Event}
  {n m : CompiledNode} {path : List CompiledNode} {t : Trace}

theorem Passes.goes (h : Passes e r k ks evs a) (later : Goes e r a rest) :
    Goes e r k (steps evs ++ rest) := by
  induction h generalizing rest with
  | here => exact later
  | @further ks evs more a b _ move _ ih =>
    have taken : e.hopSteps r a = steps more := by rw [hopSteps, move]
    have onward := ih (Goes.passes (congrArg Walk.result move) later)
    rw [taken] at onward
    simpa using onward

theorem next_goes (h : e.next r k = ⟨more, .ok none⟩) : Goes e r k (steps more) := by
  obtain ⟨ks, evs, a, w, passed, settled, hw⟩ := next_cases e r k
  rw [hw] at h
  cases settled with
  | @nowhere last move =>
    obtain ⟨rfl, -⟩ := Walk.mk.inj h
    have taken : e.hopSteps r a = steps last := by rw [hopSteps, move]
    have onward := passed.goes (Goes.stops (congrArg Walk.result move))
    rwa [taken, ← steps_append] at onward
  | _ => cases congrArg Walk.result h

theorem next_goes_on (h : e.next r k = ⟨more, .ok (some m)⟩) (later : e.Continues r m rest) :
    Goes e r k (steps more ++ .enter m.id :: rest) := by
  obtain ⟨ks, evs, a, w, passed, settled, hw⟩ := next_cases e r k
  rw [hw] at h
  cases settled with
  | @shown last n move =>
    obtain ⟨rfl, same⟩ := Walk.mk.inj h
    cases same
    have taken : e.hopSteps r a = steps last := by rw [hopSteps, move]
    have here : Goes e r a (e.hopSteps r a ++ .enter m.id :: rest) := by
      rcases later with ⟨final, rfl⟩ | ⟨going, onward⟩
      · exact .ends (congrArg Walk.result move) final
      · exact .enters (congrArg Walk.result move) going onward
    rw [taken] at here
    rw [steps_append, List.append_assoc]
    exact passed.goes here
  | _ => cases congrArg Walk.result h

theorem Enters.continues (h : Enters e r path evs n) (later : e.Continues r n rest) :
    ∃ start onward, e.startNode = .ok start ∧ e.Continues r start onward ∧
      steps evs ++ .enter n.id :: rest = .enter start.id :: onward := by
  induction h generalizing rest with
  | start hs => exact ⟨_, rest, hs, later, rfl⟩
  | @next path evs more n m _ _ going move ih =>
    have here : e.Continues r n (steps more ++ .enter m.id :: rest) :=
      .inr ⟨going, next_goes_on move later⟩
    obtain ⟨start, onward, hs, from_start, same⟩ := ih here
    refine ⟨start, onward, hs, from_start, ?_⟩
    rw [← same]
    simp

/-- The start is no end. -/
theorem startNode_going (h : e.startNode = .ok n) : n.isEnd = false := by
  have started : n ∈ e.graph.starts := by simp [startNode_ok h]
  have kind := (List.mem_filter.mp started).2
  simp only [beq_iff_eq] at kind
  simp [CompiledNode.isEnd, kind]

theorem Enters.goes (h : Enters e r path evs n) (later : e.Continues r n rest) :
    ∃ start onward, e.startNode = .ok start ∧
      steps evs ++ .enter n.id :: rest = .enter start.id :: onward ∧ Goes e r start.id onward := by
  obtain ⟨start, onward, hs, continues, same⟩ := h.continues later
  refine ⟨start, onward, hs, same, ?_⟩
  rcases continues with ⟨final, -⟩ | ⟨-, goes⟩
  · rw [startNode_going hs] at final
    cases final
  · exact goes

/-- What a trace reports is that it entered the start, and how it went on. -/
theorem trace_goes (h : e.trace r = .ok t) : ∃ start rest, e.startNode = .ok start ∧
    t.steps = .enter start.id :: rest ∧ Goes e r start.id rest := by
  obtain ⟨path, evs, n, more, before, -, -, events, last⟩ := trace_cases h
  rw [Trace.steps, events, steps_append, steps_enter]
  rcases last with ⟨final, rfl⟩ | ⟨going, move⟩
  · exact before.goes (.inl ⟨final, rfl⟩)
  · exact before.goes (.inr ⟨going, next_goes move⟩)

theorem trace_entered (h : e.trace r = .ok t) : t.steps.filterMap Event.entered? = t.ids := by
  obtain ⟨path, evs, n, more, before, -, same, events, last⟩ := trace_cases h
  have quiet : more.filterMap Event.entered? = [] := by
    rcases last with ⟨-, rfl⟩ | ⟨-, move⟩
    · rfl
    · have unentered := e.next_enters_nothing r n.id
      rwa [move] at unentered
  rw [Trace.steps, filterMap_steps (fun _ => rfl), events, List.filterMap_append, before.entered]
  simp [Trace.ids, same, Event.entered?, quiet]

/-- After each visit of a trace the walk goes on from there, unless it was the one to an end. -/
theorem trace_after {before : List Event} {mark : Event} {b : String} (h : e.trace r = .ok t)
    (reported : t.steps = before ++ mark :: rest) (hv : mark.visited? = some b) :
    Goes e r b rest ∨ (mark = .enter b ∧ rest = [] ∧
      ∃ a m, (e.hop r a).result = .ok (.present m) ∧ m.isEnd = true ∧ m.id = b) := by
  obtain ⟨start, onward, -, same, goes⟩ := trace_goes h
  rw [reported] at same
  cases before with
  | nil =>
    obtain ⟨rfl, rfl⟩ := List.cons.inj same
    obtain rfl := Option.some.inj hv
    exact .inl goes
  | cons ev before =>
    obtain ⟨-, rfl⟩ := List.cons.inj same
    exact goes.after hv

theorem trace_visits (hg : e.graph.Keyed) (h : e.trace r = .ok t) :
    (visits t.steps).Nodup ∧ (visits t.steps).IsChain e.graph.Routes ∧
      (t.steps.filterMap Event.branched?).Nodup := by
  obtain ⟨start, rest, hs, same, goes⟩ := trace_goes h
  have leads : e.Leads r start.id := by
    intro n found final
    rw [hg.value_found (startNode_mem hs)] at found
    cases found
    rw [startNode_going hs] at final
    cases final
  have once := goes.nodup hg leads
  rw [same, visits_enter, List.filterMap_cons]
  exact ⟨once, goes.joined hg, List.Nodup.sublist (goes.branched hg) once⟩

theorem trace_decided (hg : e.graph.Keyed) (h : e.trace r = .ok t) (member : n ∈ t.path)
    {onTrue onFalse : Json} (hn : n.next = .branch onTrue onFalse) (going : n.isEnd = false) :
    e.Decided t n := by
  obtain ⟨path, evs, last, more, walked, -, same, -, -⟩ := trace_cases h
  have found := walked.path_found hg n (same ▸ member)
  have entered : .enter n.id ∈ t.steps := by
    rw [← mem_entered, trace_entered h]
    exact List.mem_map_of_mem member
  obtain ⟨before, rest, reported⟩ := List.append_of_mem entered
  rcases trace_after h reported rfl with goes | ⟨-, -, a, m, move, final, named⟩
  · obtain ⟨b, rest, x, rfl, followed, first⟩ := goes.decided hg found hn
    refine ⟨onTrue, onFalse, before, b, rest, x, hn, reported, ?_, followed, first⟩
    obtain ⟨-, -, once⟩ := trace_visits hg h
    exact branched_once (reported ▸ once)
  · obtain ⟨-, found', -⟩ := present_visible hg move
    rw [named, found] at found'
    cases found'
    rw [going] at final
    cases final

end

/-- Over any compiled graph, whatever the conditions mean, a trace is an exact account of the
walk. -/
theorem trace_accounts (nodes : List Node) (edges : List Edge) (evaluator : Evaluator) (r : Json)
    (t : Trace) (h : Engine.trace ⟨Graph.compile nodes edges, evaluator⟩ r = .ok t) :
    Accounts ⟨Graph.compile nodes edges, evaluator⟩ r t := by
  have hg := Graph.keyed_compile nodes edges
  obtain ⟨once, joined, -⟩ := trace_visits hg h
  have entered := trace_entered h
  refine ⟨entered, (tracedAlike _ r).reached t h, once, ?_, joined, ?_, ?_⟩
  · intro k skipped member
    rw [← entered, mem_entered] at member
    exact visits_apart once skipped member
  · intro n member branch
    obtain ⟨path, evs, last, more, walked, -, same, -, -⟩ := trace_cases h
    have two := (Graph.isBranch_compile (walked.path_found hg n (same ▸ member))).mpr branch
    cases hn : n.next with
    | linear next => simp [hn, Next.isBranch] at two
    | branch onTrue onFalse =>
      exact trace_decided hg h member hn (by simp [CompiledNode.isEnd, branch])
  · obtain ⟨start, rest, -, same, goes⟩ := trace_goes h
    rw [same]
    exact followed_cons.mpr ⟨by simp, goes.followed hg⟩

/-- A branch on one field, a question on another, and one whose condition has no value. -/
def crossing : Engine :=
  let asks (field : String) : Item := .rule ⟨none, field, none, "is_set", .null, .static⟩
  let question (id : String) (items : List Item) : Node :=
    ⟨id, ⟨.zero, .zero⟩, .textInput, ⟨"", "", some ⟨none, .and, items⟩, .text "" false, []⟩⟩
  ⟨Graph.compile
    [⟨"a", ⟨.zero, .zero⟩, .start, ⟨"", "", none, .start "", []⟩⟩,
      ⟨"b", ⟨.zero, .zero⟩, .branch, ⟨"", "", some ⟨none, .and, [asks "x"]⟩, .branch, []⟩⟩,
      question "c" [asks "y"], question "d" [.group none .and []],
      ⟨"e", ⟨.zero, .zero⟩, .ending, ⟨"", "", none, .ending "" none .completed, []⟩⟩]
    [⟨"1", "a", "b", none, none, none⟩, ⟨"2", "b", "c", some "true", none, none⟩,
      ⟨"3", "b", "e", some "false", none, none⟩, ⟨"4", "c", "d", none, none, none⟩,
      ⟨"5", "d", "e", none, none, none⟩], ⟨[], "", ""⟩⟩

/-- The question on the other field is passed over on the way, and the next one shown. -/
theorem trace_accounts_crossing : ∃ t, crossing.trace (.obj [("x", .str "1")]) = .ok t ∧
    visits t.steps = ["a", "b", "c", "d", "e"] ∧ t.ids = ["a", "b", "d", "e"] ∧
    Accounts crossing (.obj [("x", .str "1")]) t := by
  have went : (crossing.trace (.obj [("x", .str "1")])).map (fun t => (visits t.steps, t.ids))
      = .ok (["a", "b", "c", "d", "e"], ["a", "b", "d", "e"]) := by decide +kernel
  cases traced : crossing.trace (.obj [("x", .str "1")]) with
  | error x =>
    rw [traced] at went
    cases went
  | ok t =>
    rw [traced] at went
    obtain ⟨visited, path⟩ := Prod.mk.inj (Except.ok.inj went)
    exact ⟨t, rfl, visited, path, trace_accounts _ _ _ _ t traced⟩

end Engine
end Questionnaire
