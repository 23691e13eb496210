import Questionnaire.Proofs.HopCases

namespace Questionnaire.Engine
open Relation

/-- From the first key the nodes `ks` were passed over one after another, with these events, and the
search for a node to show goes on from the last key. -/
inductive Passes (e : Engine) (r : Json) (k : String) : List String → List Event → String → Prop
  | here : Passes e r k [] [] k
  | further {ks evs more a b} (before : Passes e r k ks evs a)
      (move : e.hop r a = ⟨more, .ok (.over b)⟩) (new : b ∉ ks) :
      Passes e r k (ks ++ [b]) (evs ++ more ++ [.skip b]) b

/-- From the node under the first key the search comes to the other, which it passes over. -/
def Skips (e : Engine) (r : Json) (a b : String) : Prop := (e.hop r a).result = .ok (.over b)

/-- How the search ends once these nodes were passed over. -/
inductive Settles (e : Engine) (r : Json) (ks : List String) (a : String) :
    Walk (Option CompiledNode) → Prop
  | failed {more x} : e.hop r a = ⟨more, .error x⟩ → Settles e r ks a ⟨more, .error x⟩
  | nowhere {more} : e.hop r a = ⟨more, .ok .nowhere⟩ → Settles e r ks a ⟨more, .ok none⟩
  | shown {more n} : e.hop r a = ⟨more, .ok (.present n)⟩ → Settles e r ks a ⟨more, .ok (some n)⟩
  | round {more b} : e.hop r a = ⟨more, .ok (.over b)⟩ → b ∈ ks →
      Settles e r ks a ⟨more, .error (.skipCycle b ks)⟩

section

variable {e : Engine} {r : Json} {k a : String} {ks : List String} {evs : List Event}

theorem Passes.nodup (h : Passes e r k ks evs a) : ks.Nodup := by
  induction h with
  | here => exact List.nodup_nil
  | further _ _ new ih =>
    rw [← List.concat_eq_append]
    exact .concat new ih

theorem Passes.keys (h : Passes e r k ks evs a) : ∀ b ∈ ks, (e.graph.node? b).isSome = true := by
  induction h with
  | here => simp
  | further _ move _ ih =>
    intro c hc
    rcases List.mem_append.mp hc with hc | hc
    · exact ih c hc
    · obtain rfl := List.mem_singleton.mp hc
      obtain ⟨⟨_, _, _, hb⟩, _⟩ := hop_over (congrArg Walk.result move)
      exact hb

/-- No more nodes are passed over than there are. -/
theorem Passes.length_le (h : Passes e r k ks evs a) : ks.length ≤ e.graph.length := by
  have hs : ks ⊆ Ordered.keys e.graph := fun b hb => Graph.mem_keys.mpr (h.keys b hb)
  have := (List.subperm_of_subset h.nodup hs).length_le
  simpa [Ordered.keys] using this

/-- The start, and what was passed over, lead by skips to where the search is now. -/
theorem Passes.chain (h : Passes e r k ks evs a) : ReflTransGen (Skips e r) k a ∧
    ∀ b ∈ ks, ReflTransGen (Skips e r) b a := by
  induction h with
  | here => exact ⟨.refl, by simp⟩
  | @further ks evs more a b _ move _ ih =>
    have skip : Skips e r a b := congrArg Walk.result move
    refine ⟨ih.1.tail skip, fun c hc => ?_⟩
    rcases List.mem_append.mp hc with hc | hc
    · exact (ih.2 c hc).tail skip
    · exact List.mem_singleton.mp hc ▸ .refl

/-- Skips follow routes. -/
theorem Skips.routes {a b : String} (h : Skips e r a b) : e.graph.Routes a b := (hop_over h).1

theorem Passes.routes (h : Passes e r k ks evs a) : ReflTransGen e.graph.Routes k a ∧
    ∀ b ∈ ks, ReflTransGen e.graph.Routes b a :=
  ⟨.mono (fun _ _ => Skips.routes) _ _ h.chain.1,
    fun b hb => .mono (fun _ _ => Skips.routes) _ _ (h.chain.2 b hb)⟩

theorem Passes.skips (h : Passes e r k ks evs a) :
    (a = k ∨ a ∈ ks) ∧ ∀ b ∈ ks, .skip b ∈ evs := by
  induction h with
  | here => exact ⟨Or.inl rfl, by simp⟩
  | further _ _ _ ih =>
    refine ⟨Or.inr (by simp), fun c hc => ?_⟩
    rcases List.mem_append.mp hc with hc | hc
    · exact List.mem_append_left _ (List.mem_append_left _ (ih.2 c hc))
    · simp [List.mem_singleton.mp hc]

/-- The search with its fuel is where the relation says it is. -/
theorem Passes.next (h : Passes e r k ks evs a) : e.next r k =
    ⟨evs ++ (e.nextFrom r (e.graph.length + 1 - ks.length) ks a).events,
      (e.nextFrom r (e.graph.length + 1 - ks.length) ks a).result⟩ := by
  induction h with
  | here => rfl
  | @further ks evs more a b before move new ih =>
    -- the node passed over here is counted too, so there is fuel for one move more
    have full := (Passes.further before move new).length_le
    have step : e.graph.length + 1 - ks.length = (e.graph.length + 1 - (ks ++ [b]).length) + 1 := by
      simp at full ⊢
      omega
    rw [ih, step, nextFrom, move]
    simp [new]

theorem Settles.next {w : Walk (Option CompiledNode)} (hp : Passes e r k ks evs a)
    (hs : Settles e r ks a w) : e.next r k = ⟨evs ++ w.events, w.result⟩ := by
  have hl := hp.length_le
  have step : e.graph.length + 1 - ks.length = (e.graph.length - ks.length) + 1 := by omega
  rw [hp.next, step, nextFrom]
  cases hs with
  | failed move => simp only [move]
  | nowhere move => simp only [move]
  | shown move => simp only [move]
  | round move hb => simp [move, hb]

theorem Passes.settles (h : Passes e r k ks evs a) :
    ∃ ks evs a w, Passes e r k ks evs a ∧ Settles e r ks a w := by
  generalize hn : e.graph.length - ks.length = n
  induction n using Nat.strongRecOn generalizing ks evs a with
  | ind n ih =>
    match move : e.hop r a with
    | ⟨more, .error x⟩ => exact ⟨ks, evs, a, _, h, .failed move⟩
    | ⟨more, .ok .nowhere⟩ => exact ⟨ks, evs, a, _, h, .nowhere move⟩
    | ⟨more, .ok (.present m)⟩ => exact ⟨ks, evs, a, _, h, .shown move⟩
    | ⟨more, .ok (.over b)⟩ =>
      by_cases hb : b ∈ ks
      · exact ⟨ks, evs, a, _, h, .round move hb⟩
      · have onward := Passes.further h move hb
        have := onward.length_le
        simp only [List.length_append, List.length_singleton] at this
        exact ih _ (by simp; omega) onward rfl

end

/-- The next node is found by passing over nodes until the search settles. -/
theorem next_cases (e : Engine) (r : Json) (k : String) : ∃ ks evs a w,
    Passes e r k ks evs a ∧ Settles e r ks a w ∧ e.next r k = ⟨evs ++ w.events, w.result⟩ := by
  obtain ⟨ks, evs, a, w, hp, hs⟩ := (Passes.here (e := e) (r := r) (k := k)).settles
  exact ⟨ks, evs, a, w, hp, hs, hs.next hp⟩

section

variable {e : Engine} {r : Json} {k : String}

theorem next_shown {m : CompiledNode} (h : (e.next r k).result = .ok (some m)) :
    ∃ ks evs a, Passes e r k ks evs a ∧ (e.hop r a).result = .ok (.present m) := by
  obtain ⟨ks, evs, a, w, hp, hs, hn⟩ := next_cases e r k
  rw [hn] at h
  cases hs with
  | shown move =>
    obtain rfl := Option.some.inj (Except.ok.inj h)
    exact ⟨ks, evs, a, hp, by rw [move]⟩
  | _ => cases h

/-- A node that is shown next lies ahead on the routes of the graph. -/
theorem next_ahead {m : CompiledNode} (h : (e.next r k).result = .ok (some m)) :
    ∃ b, TransGen e.graph.Routes k b ∧ e.graph.node? b = some m := by
  obtain ⟨ks, evs, a, hp, hm⟩ := next_shown h
  obtain ⟨b, hl, hb, -⟩ := hop_present hm
  exact ⟨b, .tail' hp.routes.1 hl, hb⟩

/-- Where the search comes to no node, it went over nodes that were passed over, and the last of
them leads nowhere. -/
theorem next_nowhere (h : (e.next r k).result = .ok none) : ∃ a,
    (a = k ∨ .skip a ∈ (e.next r k).events) ∧ ReflTransGen e.graph.Routes k a ∧
      (e.hop r a).result = .ok .nowhere := by
  obtain ⟨ks, evs, a, w, hp, hs, hn⟩ := next_cases e r k
  rw [hn] at h ⊢
  cases hs with
  | nowhere move =>
    refine ⟨a, hp.skips.1.imp_right fun ha => ?_, hp.routes.1, by rw [move]⟩
    exact List.mem_append_left _ (hp.skips.2 a ha)
  | _ => cases h

/-- The search fails where a move fails, or where the routes of the graph lead round. -/
theorem next_error {x : WalkError} (h : (e.next r k).result = .error x) :
    (∃ a, ReflTransGen e.graph.Routes k a ∧ (e.hop r a).result = .error x) ∨
      ∃ b ks, x = .skipCycle b ks ∧ TransGen e.graph.Routes b b := by
  obtain ⟨ks, evs, a, w, hp, hs, hn⟩ := next_cases e r k
  rw [hn] at h
  cases hs with
  | failed move =>
    obtain rfl := Except.error.inj h
    exact Or.inl ⟨a, hp.routes.1, by rw [move]⟩
  | @round more b move hb =>
    obtain ⟨hl, -⟩ := hop_over (congrArg Walk.result move)
    exact Or.inr ⟨b, ks, (Except.error.inj h).symm, .tail' (hp.routes.2 b hb) hl⟩
  | _ => cases h

end

end Questionnaire.Engine
