import Mathlib.Data.List.Perm.Subperm
import Mathlib.Logic.Relation
import Questionnaire.Proofs.CompiledRoutes
import Questionnaire.Route.Engine

namespace Questionnaire
open Relation

/-- What leads on from a node, whichever way its condition goes. -/
def Next.slots : Next → List Json
  | .linear next => [next]
  | .branch onTrue onFalse => [onTrue, onFalse]

/-- A route of the node under the first key names the node under the other. -/
def Graph.Routes (g : Graph) (a b : String) : Prop :=
  ∃ n, g.node? a = some n ∧ .str b ∈ n.next.slots ∧ (g.node? b).isSome = true

namespace Graph

/-- Edges bring no routes but to where they lead. -/
theorem slots_routed {ids : List String} {edges : List Edge} {next : Next} {j : Json}
    (h : j ∈ (routed ids edges next).slots) :
    j ∈ next.slots ∨ ∃ e ∈ edges, j = landing ids e := by
  induction edges generalizing next with
  | nil => exact Or.inl h
  | cons e es ih =>
    rcases ih h with before | ⟨e', he', hj⟩
    · have set : j ∈ next.slots ∨ j = landing ids e := by
        cases next with
        | linear route => exact Or.inr (List.mem_singleton.mp before)
        | branch onTrue onFalse =>
          dsimp only [setRoute] at before
          split at before
          · rcases List.mem_pair.mp before with rfl | rfl
            · exact Or.inr rfl
            · exact Or.inl (by simp [Next.slots])
          · split at before
            · rcases List.mem_pair.mp before with rfl | rfl
              · exact Or.inl (by simp [Next.slots])
              · exact Or.inr rfl
            · exact Or.inl before
      exact set.imp_right fun hj => ⟨e, List.mem_cons_self, hj⟩
    · exact Or.inr ⟨e', List.mem_cons_of_mem _ he', hj⟩

theorem slots_unset {kind : NodeKind} {j : Json} (h : j ∈ (Next.unset kind).slots) : j = .null := by
  rw [Next.unset] at h
  split at h <;> simpa [Next.slots] using h

end Graph

namespace Engine

/-- The key of the node that a move came to. -/
def Hop.key? : Hop → Option String
  | .nowhere => none
  | .present n => some n.id
  | .over k => some k

theorem route_slot {e : Engine} {r : Json} {n : CompiledNode} {j : Json}
    (h : (e.route r n).result = .ok j) : j ∈ n.next.slots := by
  rw [route] at h
  split at h
  · rename_i next hn
    cases h
    simp [hn, Next.slots]
  · rename_i onTrue onFalse hn
    split at h
    · cases h
    · split at h
      · cases h
      · rename_i b _
        cases h
        cases b <;> simp [hn, Next.slots]

/-- Only a branch can be without a way on, for want of a condition or of its value. -/
theorem route_error {e : Engine} {r : Json} {n : CompiledNode} {x : WalkError}
    (h : (e.route r n).result = .error x) : n.next.isBranch = true ∧
      ((n.data.condition.filter (!·.isEmpty) = none ∧ x = .condition (.unroutable n.id)) ∨
        ∃ c y, n.data.condition.filter (!·.isEmpty) = some c ∧
          e.evaluator.evaluate r c = .error y ∧ x = .condition y) := by
  rw [route] at h
  split at h
  · cases h
  · rename_i onTrue onFalse hn
    refine ⟨by rw [hn]; rfl, ?_⟩
    split at h
    · rename_i hc
      cases h
      exact Or.inl ⟨hc, rfl⟩
    · rename_i c hc
      split at h
      · rename_i told y he
        cases h
        exact Or.inr ⟨c, y, hc, (Prod.mk.inj he).2, rfl⟩
      · cases h

theorem follow_found {e : Engine} {j : Json} {k : String} {n : CompiledNode} :
    e.follow j = .ok (some (k, n)) ↔ j = .str k ∧ k ≠ "" ∧ e.graph.node? k = some n := by
  constructor
  · intro h
    cases j with
    | str id =>
      by_cases he : id = ""
      · simp [follow, he] at h
      · simp only [follow, String.isEmpty_iff, he, ↓reduceIte, Except.ok.injEq] at h
        obtain ⟨m, hm, heq⟩ := Option.map_eq_some_iff.mp h
        obtain ⟨rfl, rfl⟩ := Prod.mk.inj heq
        exact ⟨rfl, he, hm⟩
    | arr xs => cases xs <;> simp [follow] at h
    | obj es => cases es <;> simp [follow] at h
    | _ => simp [follow] at h
  · rintro ⟨rfl, hne, hn⟩
    simp [follow, hne, hn]

/-- What one move can do: it says of each ending where the move came to it. -/
inductive Hopped (e : Engine) (r : Json) (a : String) : Except WalkError Hop → Prop
  | missing : e.graph.node? a = none → Hopped e r a (.ok .nowhere)
  | stuck {n x} : e.graph.node? a = some n → (e.route r n).result = .error x →
      Hopped e r a (.error x)
  | unusable {n j x} : e.graph.node? a = some n → (e.route r n).result = .ok j →
      e.follow j = .error x → Hopped e r a (.error x)
  | loose {n j} : e.graph.node? a = some n → (e.route r n).result = .ok j →
      e.follow j = .ok none → Hopped e r a (.ok .nowhere)
  | arrived {n j b m} : e.graph.node? a = some n → (e.route r n).result = .ok j →
      e.follow j = .ok (some (b, m)) → Hopped e r a (.ok (e.arrive r b m).2)

theorem hopped (e : Engine) (r : Json) (a : String) : Hopped e r a (e.hop r a).result := by
  rw [hop]
  split
  · rename_i hn
    exact .missing hn
  · rename_i n hn
    split
    · rename_i events x hr
      exact .stuck hn (congrArg Walk.result hr)
    · rename_i events j hr
      have hr := congrArg Walk.result hr
      split
      · rename_i x hf
        exact .unusable hn hr hf
      · rename_i hf
        exact .loose hn hr hf
      · rename_i b m hf
        exact .arrived hn hr hf

theorem Hopped.result {e : Engine} {r : Json} {a : String} {h : Except WalkError Hop}
    (hh : Hopped e r a h) : (e.hop r a).result = h := by
  have walked {n : CompiledNode} {y : Except WalkError Json} (hr : (e.route r n).result = y) :
      e.route r n = ⟨(e.route r n).events, y⟩ := by rw [← hr]
  cases hh with
  | missing hn => simp only [hop, hn]
  | stuck hn hr => rw [hop, hn]; simp only; rw [walked hr]
  | unusable hn hr hf => rw [hop, hn]; simp only; rw [walked hr]; simp only [hf]
  | loose hn hr hf => rw [hop, hn]; simp only; rw [walked hr]; simp only [hf]
  | arrived hn hr hf => rw [hop, hn]; simp only; rw [walked hr]; simp only [hf]

/-- A node is passed over when its own condition is false, and shown otherwise. -/
theorem arrive_over {e : Engine} {r : Json} {k : String} {n : CompiledNode} {b : String} :
    (e.arrive r k n).2 = .over b ↔ b = k ∧
      ∃ c, n.data.skipCondition = some c ∧ e.evaluator.evaluate r c = .ok false := by
  rw [arrive]
  cases n.data.skipCondition with
  | none => simp
  | some c =>
    simp only [evaluate, Option.some.injEq, exists_eq_left']
    cases e.evaluator.evaluate r c with
    | error x => simp
    | ok v => cases v <;> simp [eq_comm]

theorem arrive_present {e : Engine} {r : Json} {k : String} {n m : CompiledNode} :
    (e.arrive r k n).2 = .present m ↔ m = n ∧
      ∀ c, n.data.skipCondition = some c → e.evaluator.evaluate r c ≠ .ok false := by
  rw [arrive]
  cases n.data.skipCondition with
  | none => simp [eq_comm]
  | some c =>
    simp only [evaluate, Option.some.injEq, forall_eq']
    cases e.evaluator.evaluate r c with
    | error x => simp [eq_comm]
    | ok v => cases v <;> simp [eq_comm]

theorem arrive_somewhere {e : Engine} {r : Json} {k : String} {n : CompiledNode} :
    (e.arrive r k n).2 ≠ .nowhere := by
  rw [arrive]
  split
  · simp
  · split <;> simp

section

variable {e : Engine} {r : Json} {a b : String} {m : CompiledNode}

theorem hop_error {x : WalkError} (h : (e.hop r a).result = .error x) :
    ∃ n, e.graph.node? a = some n ∧ ((e.route r n).result = .error x ∨
      ∃ j, (e.route r n).result = .ok j ∧ e.follow j = .error x) := by
  have moved := hopped e r a
  rw [h] at moved
  generalize hw : (Except.error x : Except WalkError Hop) = w at moved
  cases moved with
  | stuck hn hr => exact ⟨_, hn, Or.inl (Except.error.inj hw ▸ hr)⟩
  | unusable hn hr hf => exact ⟨_, hn, Or.inr ⟨_, hr, Except.error.inj hw ▸ hf⟩⟩
  | _ => cases hw

theorem hop_nowhere (h : (e.hop r a).result = .ok .nowhere) : e.graph.node? a = none ∨
    ∃ n j, e.graph.node? a = some n ∧ (e.route r n).result = .ok j ∧ e.follow j = .ok none := by
  have moved := hopped e r a
  rw [h] at moved
  generalize hw : (Except.ok .nowhere : Except WalkError Hop) = w at moved
  cases moved with
  | missing hn => exact Or.inl hn
  | loose hn hr hf => exact Or.inr ⟨_, _, hn, hr, hf⟩
  | arrived _ _ _ => exact absurd (Except.ok.inj hw).symm arrive_somewhere
  | _ => cases hw

theorem hop_arrived {h : Hop} (hh : (e.hop r a).result = .ok h) (somewhere : h ≠ .nowhere) :
    ∃ n j b m, e.graph.node? a = some n ∧ (e.route r n).result = .ok j ∧
      e.follow j = .ok (some (b, m)) ∧ (e.arrive r b m).2 = h := by
  have moved := hopped e r a
  rw [hh] at moved
  generalize hw : (Except.ok h : Except WalkError Hop) = w at moved
  cases moved with
  | arrived hn hr hf => exact ⟨_, _, _, _, hn, hr, hf, (Except.ok.inj hw).symm⟩
  | missing _ => exact absurd (Except.ok.inj hw) somewhere
  | loose _ _ _ => exact absurd (Except.ok.inj hw) somewhere
  | _ => cases hw

theorem hop_over (h : (e.hop r a).result = .ok (.over b)) : e.graph.Routes a b ∧
    ∃ n c, e.graph.node? b = some n ∧ n.data.skipCondition = some c ∧
      e.evaluator.evaluate r c = .ok false := by
  obtain ⟨n, j, k, m, hn, hr, hf, ha⟩ := hop_arrived h nofun
  obtain ⟨rfl, c, hc, he⟩ := arrive_over.mp ha
  obtain ⟨rfl, -, hm⟩ := follow_found.mp hf
  exact ⟨⟨n, hn, route_slot hr, by rw [hm]; rfl⟩, m, c, hm, hc, he⟩

theorem hop_present (h : (e.hop r a).result = .ok (.present m)) :
    ∃ b, e.graph.Routes a b ∧ e.graph.node? b = some m ∧
      ∀ c, m.data.skipCondition = some c → e.evaluator.evaluate r c ≠ .ok false := by
  obtain ⟨n, j, b, m, hn, hr, hf, ha⟩ := hop_arrived h nofun
  obtain ⟨rfl, hc⟩ := arrive_present.mp ha
  obtain ⟨rfl, -, hm⟩ := follow_found.mp hf
  exact ⟨b, ⟨n, hn, route_slot hr, by rw [hm]; rfl⟩, hm, hc⟩

end

end Engine
end Questionnaire
