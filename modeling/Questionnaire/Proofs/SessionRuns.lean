import Questionnaire.Proofs.Stepping

namespace Questionnaire.Engine
open Relation

/-- The session comes from the first by answers to any nodes at any time and by so many moves. A
move that fails gives no session, so that the one before it goes on. -/
inductive Runs (e : Engine) (s₀ : Session) : Nat → Session → Prop
  | begun : Runs e s₀ 0 s₀
  | answer {k s} (node : String) (value : Json) : Runs e s₀ k s →
      Runs e s₀ k (s.answer node value)
  | advance {k s t} : Runs e s₀ k s → (e.advance s).result = .ok t → Runs e s₀ (k + 1) t

/-- A move leaves a finished session as it is, finishes another one, or brings it to the next node,
where it has not been before. -/
theorem advance_cases {e : Engine} {s t : Session} (move : (e.advance s).result = .ok t) :
    (s.finished = true ∧ t = s) ∨ (s.finished = false ∧ t = s.finish) ∨
      ∃ n m, s.finished = false ∧ e.currentNode? s = some n ∧
        (e.next (.obj s.responses) n.id).result = .ok (some m) ∧ m.id ∉ s.history ∧
        t = s.movedTo m.id := by
  cases going : s.finished with
  | true =>
    rw [Engine.advance, if_pos going] at move
    exact .inl ⟨rfl, (Except.ok.inj move).symm⟩
  | false =>
    cases here : e.currentNode? s with
    | none =>
      rw [Engine.advance, here, if_neg (by simp [going])] at move
      exact .inr (.inl ⟨rfl, (Except.ok.inj move).symm⟩)
    | some n =>
      rw [advance_at going here] at move
      split at move
      · exact .inr (.inl ⟨rfl, (Except.ok.inj move).symm⟩)
      · split at move
        · cases move
        · exact .inr (.inl ⟨rfl, (Except.ok.inj move).symm⟩)
        · rename_i m shown
          split at move
          · cases move
          · rename_i new
            exact .inr (.inr ⟨n, m, rfl, rfl, shown, new, (Except.ok.inj move).symm⟩)

/-- The session stands at the last node of its history, which goes from the start along routes. -/
structure Underway (e : Engine) (start : String) (s : Session) (n : CompiledNode) : Prop where
  found : e.graph.node? n.id = some n
  current : s.current = some n.id
  first : s.history.head? = some start
  last : s.history.getLast? = some n.id
  ahead : s.history.Pairwise (TransGen e.graph.Routes)

section

variable {e : Engine} {start : String} {s : Session} {n : CompiledNode}

theorem begin_underway (hg : e.graph.Keyed) {initial : Entries} (h : e.begin initial = .ok s) :
    ∃ n, e.startNode = .ok n ∧ s = ⟨initial, some n.id, [n.id], false⟩ ∧ e.Underway n.id s n := by
  cases hs : e.startNode with
  | error x =>
    rw [begin, hs] at h
    cases h
  | ok n =>
    rw [begin, hs] at h
    obtain rfl := Except.ok.inj h
    have found := (Enters.start (r := .null) hs).found hg
    exact ⟨n, rfl, rfl, found, rfl, rfl, rfl, List.pairwise_singleton _ _⟩

theorem Underway.here (h : e.Underway start s n) (hn : e.Named) : e.currentNode? s = some n :=
  hn.currentNode? h.current h.found

/-- Routes lead from the start to every node of the history. -/
theorem Underway.reached (h : e.Underway start s n) :
    ∀ k ∈ s.history, ReflTransGen e.graph.Routes start k := by
  obtain ⟨rest, hr⟩ := List.head?_eq_some_iff.mp h.first
  have ahead := h.ahead
  rw [hr] at ahead ⊢
  intro k hk
  rcases List.mem_cons.mp hk with rfl | hk
  · exact .refl
  · exact ((List.pairwise_cons.mp ahead).1 k hk).to_reflTransGen

/-- Routes lead from every node of the history to where the session is. -/
theorem Underway.behind (h : e.Underway start s n) :
    ∀ k ∈ s.history, ReflTransGen e.graph.Routes k n.id := by
  obtain ⟨past, hp⟩ := List.getLast?_eq_some_iff.mp h.last
  have ahead := h.ahead
  rw [hp] at ahead ⊢
  intro k hk
  rcases List.mem_append.mp hk with hk | hk
  · exact ((List.pairwise_append.mp ahead).2.2 k hk n.id (by simp)).to_reflTransGen
  · exact List.mem_singleton.mp hk ▸ .refl

/-- The session has only come to nodes of the graph. -/
theorem Underway.keys (h : e.Underway start s n) : ∀ k ∈ s.history, k ∈ Ordered.keys e.graph := by
  intro k hk
  rcases (h.behind k hk).cases_head with rfl | ⟨b, ⟨m, hm, -⟩, -⟩
  · exact Graph.key_of_node? h.found
  · exact Graph.key_of_node? hm

/-- A node that comes next lies ahead of all that came before. -/
theorem Underway.next_ahead (h : e.Underway start s n) (hg : e.graph.Keyed) {r : Json}
    {m : CompiledNode} (shown : (e.next r n.id).result = .ok (some m)) :
    e.graph.node? m.id = some m ∧ ∀ k ∈ s.history, TransGen e.graph.Routes k m.id := by
  obtain ⟨b, route, hb⟩ := Engine.next_ahead shown
  obtain rfl := hg.named b m hb
  exact ⟨hb, fun k hk => .trans_right (h.behind k hk) route⟩

theorem Underway.moved (h : e.Underway start s n) (hg : e.graph.Keyed) {r : Json}
    {m : CompiledNode} (shown : (e.next r n.id).result = .ok (some m)) :
    e.Underway start (s.movedTo m.id) m := by
  obtain ⟨found, ahead⟩ := h.next_ahead hg shown
  refine ⟨found, rfl, ?_, List.getLast?_concat, ?_⟩
  · rw [Session.movedTo, List.head?_append, h.first, Option.some_or]
  · refine List.pairwise_append.mpr ⟨h.ahead, List.pairwise_singleton _ _, fun k hk b hb => ?_⟩
    exact List.mem_singleton.mp hb ▸ ahead k hk

/-- On a move, as on a walk, all that is visited lies ahead. -/
theorem Underway.visits_ahead (h : e.Underway start s n) (hn : e.Named) :
    ∀ b ∈ visits (e.advance s).events, TransGen e.graph.Routes n.id b := by
  have quiet : ∀ b ∈ visits [], TransGen e.graph.Routes n.id b := by simp [visits]
  have ahead := next_visits_ahead (e := e) (r := .obj s.responses) (k := n.id)
  rw [advance, h.here hn]
  dsimp only
  split
  · exact quiet
  · split
    · exact quiet
    · split
      · rename_i events _ move
        rwa [move] at ahead
      · rename_i events move
        rwa [move] at ahead
      · rename_i events m move
        rw [move] at ahead
        split <;> exact ahead

/-- Until it is finished, a session has come to one node more than there were moves. -/
theorem Runs.underway (hg : e.graph.Keyed) (hn : e.Named) {initial : Entries} {s₀ : Session}
    (begun : e.begin initial = .ok s₀) {k : Nat} (h : e.Runs s₀ k s) :
    ∃ first n, e.startNode = .ok first ∧ e.Underway first.id s n ∧
      (s.finished = false → s.history.length = k + 1) := by
  induction h with
  | begun =>
    obtain ⟨n, hs, rfl, under⟩ := begin_underway hg begun
    exact ⟨n, n, hs, under, fun _ => rfl⟩
  | answer node value _ ih =>
    obtain ⟨first, n, hs, under, count⟩ := ih
    exact ⟨first, n, hs, ⟨under.found, under.current, under.first, under.last, under.ahead⟩, count⟩
  | @advance k s t _ move ih =>
    obtain ⟨first, n, hs, under, count⟩ := ih
    have moved := advances (under.here hn)
    rw [move] at moved
    cases moved with
    | still finished =>
      exact ⟨first, n, hs, under, fun going => by rw [finished] at going; cases going⟩
    | ending _ _ | loose _ _ _ =>
      exact ⟨first, n, hs, ⟨under.found, under.current, under.first, under.last, under.ahead⟩,
        nofun⟩
    | @moved m going _ shown _ =>
      refine ⟨first, m, hs, under.moved hg shown, fun _ => ?_⟩
      rw [Session.movedTo, List.length_append, List.length_singleton, count going]

end

end Questionnaire.Engine
