import Questionnaire.Proofs.SessionRuns

namespace Questionnaire.Engine

/-- The history of a session goes from the start to where the session is, and comes to no id twice.
Nothing is said of keys: under a key may stand a node with another id. -/
structure Recorded (e : Engine) (start : String) (s : Session) : Prop where
  first : s.history.head? = some start
  last : s.history.getLast? = s.current
  nodup : s.history.Nodup
  known : s.history ⊆ e.graph.ids

section

variable {e : Engine} {start : String} {s s₀ t : Session}

theorem Recorded.begun {initial : Entries} (h : e.begin initial = .ok s) :
    ∃ n, e.startNode = .ok n ∧ e.Recorded n.id s ∧ s.history = [n.id] := by
  rw [begin] at h
  cases hs : e.startNode with
  | error x =>
    rw [hs] at h
    cases h
  | ok n =>
    rw [hs] at h
    cases h
    have known := Graph.id_mem_ids (startNode_mem hs)
    refine ⟨n, rfl, ⟨rfl, rfl, List.nodup_singleton _, ?_⟩, rfl⟩
    intro k hk
    exact List.mem_singleton.mp hk ▸ known

theorem Recorded.answered (h : e.Recorded start s) (node : String) (value : Json) :
    e.Recorded start (s.answer node value) := ⟨h.first, h.last, h.nodup, h.known⟩

theorem Recorded.finished (h : e.Recorded start s) : e.Recorded start s.finish :=
  ⟨h.first, h.last, h.nodup, h.known⟩

theorem Recorded.moved (h : e.Recorded start s) {r : Json} {k : String} {m : CompiledNode}
    (shown : (e.next r k).result = .ok (some m)) (new : m.id ∉ s.history) :
    e.Recorded start (s.movedTo m.id) where
  first := by rw [Session.movedTo, List.head?_append, h.first, Option.some_or]
  last := List.getLast?_concat
  nodup := by
    rw [Session.movedTo, ← List.concat_eq_append]
    exact .concat new h.nodup
  known := by
    intro k hk
    rcases List.mem_append.mp hk with hk | hk
    · exact h.known hk
    · exact List.mem_singleton.mp hk ▸ next_id_mem shown

/-- What one move does to the record: it stays as it is and the session is finished, or one id
is added. -/
theorem Recorded.advanced (h : e.Recorded start s) (move : (e.advance s).result = .ok t) :
    e.Recorded start t ∧ (t.finished = false →
      s.finished = false ∧ t.history.length = s.history.length + 1) := by
  rcases advance_cases move with ⟨finished, rfl⟩ | ⟨-, rfl⟩ | ⟨n, m, going, -, shown, new, rfl⟩
  · refine ⟨h, fun going => ?_⟩
    rw [finished] at going
    cases going
  · exact ⟨h.finished, nofun⟩
  · exact ⟨h.moved shown new, fun _ => ⟨going, List.length_append⟩⟩

theorem Recorded.length_le (h : e.Recorded start s) : s.history.length ≤ e.graph.length := by
  have := (List.subperm_of_subset h.nodup h.known).length_le
  simpa [Graph.ids] using this

/-- As long as it is not finished, a session has as many moves behind it as it came to nodes after
the first. -/
theorem Runs.recorded {k : Nat} (run : e.Runs s₀ k s) (begun : e.Recorded start s₀)
    (one : s₀.history.length = 1) :
    e.Recorded start s ∧ (s.finished = false → s.history.length = k + 1) := by
  induction run with
  | begun => exact ⟨begun, fun _ => one⟩
  | answer node value _ ih => exact ⟨ih.1.answered node value, ih.2⟩
  | advance _ move ih =>
    obtain ⟨recorded, grown⟩ := ih.1.advanced move
    refine ⟨recorded, fun going => ?_⟩
    obtain ⟨before, longer⟩ := grown going
    rw [longer, ih.2 before]

theorem advance_finished (finished : s.finished = true) : e.advance s = ⟨[], .ok s⟩ := by
  rw [advance, if_pos finished]

/-- Answers can still be given to a finished session, but it stays where it is. -/
theorem Runs.settled {k : Nat} (finished : s.finished = true) (run : e.Runs s k t) :
    t.finished = true ∧ t.history = s.history ∧ t.current = s.current := by
  induction run with
  | begun => exact ⟨finished, rfl, rfl⟩
  | answer _ _ _ ih => exact ih
  | advance _ move ih =>
    rw [advance_finished ih.1] at move
    cases move
    exact ih

end

/-- Whatever is answered when, the history of a session starts at the start node, has no repeated id
and ends at the current node; after as many moves as there are nodes the session is finished, and
then no move changes it. This is so on every graph, also with loops, and where a node has not its
key as id. -/
theorem session_recorded (e : Engine) (initial : Entries) (s₀ : Session)
    (begun : e.begin initial = .ok s₀) :
    ∃ start, e.startNode = .ok start ∧ ∀ k s, e.Runs s₀ k s → e.Recorded start.id s ∧
      (e.graph.length ≤ k → s.finished = true) ∧
      (s.finished = true → ∀ j t, e.Runs s j t →
        (e.advance t).result = .ok t ∧ t.history = s.history ∧ t.current = s.current) := by
  obtain ⟨start, hs, first, alone⟩ := Recorded.begun begun
  refine ⟨start, hs, fun k s run => ?_⟩
  obtain ⟨recorded, count⟩ := run.recorded first (by rw [alone]; rfl)
  refine ⟨recorded, fun enough => ?_, fun finished j t more => ?_⟩
  · cases going : s.finished with
    | true => rfl
    | false =>
      have counted := count going
      have bound := recorded.length_le
      omega
  · obtain ⟨stays, history, current⟩ := more.settled finished
    exact ⟨by rw [advance_finished stays], history, current⟩

/-- Two nodes, each under the id of the other. -/
def swapped : Engine :=
  ⟨[("a", ⟨"b", .start, ⟨"", "", none, .start "", []⟩, .linear (.str "b")⟩),
    ("b", ⟨"a", .textInput, ⟨"", "", none, .text "" false, []⟩, .linear .null⟩)], ⟨[], "", ""⟩⟩

/-- The session comes to both ids, though each time the node under the current id is the other one;
after two moves it is finished. -/
theorem session_recorded_swapped :
    swapped.begin [] = .ok ⟨[], some "b", ["b"], false⟩ ∧
      swapped.Recorded "b" ⟨[("c", .null)], some "a", ["b", "a"], true⟩ ∧
      (swapped.advance ⟨[("c", .null)], some "a", ["b", "a"], true⟩).result
        = .ok ⟨[("c", .null)], some "a", ["b", "a"], true⟩ := by
  have begun : swapped.begin [] = .ok ⟨[], some "b", ["b"], false⟩ := by decide
  have answered : swapped.Runs ⟨[], some "b", ["b"], false⟩ 0
      ⟨[("c", .null)], some "b", ["b"], false⟩ := .answer "c" .null .begun
  have moved : swapped.Runs ⟨[], some "b", ["b"], false⟩ 1
      ⟨[("c", .null)], some "a", ["b", "a"], false⟩ := .advance answered (by decide)
  have ended : swapped.Runs ⟨[], some "b", ["b"], false⟩ 2
      ⟨[("c", .null)], some "a", ["b", "a"], true⟩ := .advance moved (by decide)
  obtain ⟨start, hs, holds⟩ := session_recorded swapped [] _ begun
  have first : swapped.startNode.map CompiledNode.id = .ok "b" := by decide
  rw [hs] at first
  obtain ⟨recorded, enough, stays⟩ := holds 2 _ ended
  obtain ⟨same, -⟩ := stays (enough (by decide)) 0 _ .begun
  exact ⟨begun, Except.ok.inj first ▸ recorded, same⟩

end Questionnaire.Engine
