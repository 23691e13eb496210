import Questionnaire.Proofs.FailsOpen
import Questionnaire.Proofs.StoredGraph
import Questionnaire.Proofs.Stepping

namespace Questionnaire
open Relation

/-- A list or an object that holds something: as a route it is neither an id nor nothing. -/
def Json.isBundle : Json → Bool
  | .arr (_ :: _) | .obj (_ :: _) => true
  | _ => false

/-- Errors that tell of the graph or of its conditions. -/
def WalkError.isTold : WalkError → Bool
  | .unusableRoute => false
  | _ => true

/-- It ends neither in a result nor in an error that is told. -/
def Breaks {α : Type} (w : Except WalkError α) : Prop := ∃ x, w = .error x ∧ x.isTold = false

theorem breaks_iff {α : Type} {w : Except WalkError α} : Breaks w ↔ w = .error .unusableRoute := by
  constructor
  · rintro ⟨x, rfl, untold⟩
    cases x with
    | unusableRoute => rfl
    | _ => cases untold
  · rintro rfl
    exact ⟨_, rfl, rfl⟩

namespace Engine

/-- From the key on, hidden nodes are passed over until one has a bundle as its route. -/
def Astray (e : Engine) (r : Json) (k : String) : Prop :=
  ∃ a n j, ReflTransGen (e.Skips r) k a ∧ e.graph.node? a = some n ∧ e.Takes r n j ∧
    j.isBundle = true

/-- The walk enters a node that is no end, and from there the search goes astray. -/
def WalksAstray (e : Engine) (r : Json) : Prop :=
  ∃ path evs n, Enters e r path evs n ∧ n.id ∉ path.map CompiledNode.id ∧ n.isEnd = false ∧
    e.Astray r n.id

/-- The session stands at a node that is no end, and from there the search goes astray. -/
def StepsAstray (e : Engine) (s : Session) : Prop :=
  s.finished = false ∧ ∃ n, e.currentNode? s = some n ∧ n.isEnd = false ∧
    e.Astray (.obj s.responses) n.id

section

variable {e : Engine} {r : Json} {a b k : String}

theorem follow_unusable {j : Json} : e.follow j = .error .unusableRoute ↔ j.isBundle = true := by
  cases j with
  | arr xs => cases xs <;> simp [follow, Json.isBundle]
  | obj es => cases es <;> simp [follow, Json.isBundle]
  | _ => simp [follow, Json.isBundle]

theorem Stuck.isTold {n : CompiledNode} {x : WalkError} (h : e.Stuck r n x) : x.isTold = true := by
  cases h <;> rfl

theorem hop_unusable : (e.hop r a).result = .error .unusableRoute ↔
    ∃ n j, e.graph.node? a = some n ∧ e.Takes r n j ∧ j.isBundle = true := by
  constructor
  · intro h
    obtain ⟨n, hn, stuck | ⟨j, taken, unusable⟩⟩ := hop_error h
    · cases (route_stuck.mp stuck).isTold
    · exact ⟨n, j, hn, route_takes.mp taken, follow_unusable.mp unusable⟩
  · rintro ⟨n, j, hn, taken, bundle⟩
    exact Hopped.result (.unusable hn (route_takes.mpr taken) (follow_unusable.mpr bundle))

/-- No node is passed over from here. -/
def Last (e : Engine) (r : Json) (a : String) : Prop := ∀ b, ¬ e.Skips r a b

/-- Skips that come to an end do not come round on the way. -/
theorem acc_of_skips (skips : ReflTransGen (e.Skips r) k a) (last : e.Last r a) :
    Acc (fun d c => e.Skips r c d) k := by
  induction skips using ReflTransGen.head_induction_on with
  | refl => exact ⟨a, fun b skip => absurd skip (last b)⟩
  | @head c d skip _ ih =>
    constructor
    intro d' skip'
    exact skip.unique skip' ▸ ih

theorem acc_along (skips : ReflTransGen (e.Skips r) k a)
    (h : Acc (fun d c => e.Skips r c d) k) : Acc (fun d c => e.Skips r c d) a := by
  induction skips with
  | refl => exact h
  | tail _ skip ih => exact ih.inv skip

/-- Skips come to an end at one place only. -/
theorem Last.unique {c : String} (last : e.Last r a) (last' : e.Last r c)
    (skips : ReflTransGen (e.Skips r) k a) (skips' : ReflTransGen (e.Skips r) k c) : a = c := by
  have unique : Relator.RightUnique (e.Skips r) := fun _ _ _ => Skips.unique
  rcases ReflTransGen.total_of_right_unique unique skips skips' with onward | onward
  · exact (ReflTransGen.cases_head onward).resolve_right fun ⟨b, skip, _⟩ => last b skip
  · exact ((ReflTransGen.cases_head onward).resolve_right fun ⟨b, skip, _⟩ => last' b skip).symm

/-- Where skips lead to a move that fails, the search fails there. -/
theorem next_of_skips {x : WalkError} (skips : ReflTransGen (e.Skips r) k a)
    (fails : (e.hop r a).result = .error x) : (e.next r k).result = .error x := by
  have last : e.Last r a := by
    intro b skip
    unfold Skips at skip
    rw [fails] at skip
    cases skip
  obtain ⟨ks, evs, c, w, passed, settled, hw⟩ := next_cases e r k
  have last' : e.Last r c := by
    intro b skip
    cases settled with
    | round move seen =>
      -- the node passed over twice lies on the way to the move that fails
      have acc := acc_along passed.chain.1 (acc_of_skips skips last)
      exact not_round acc (.head' (congrArg Walk.result move) (passed.chain.2 _ seen))
    | failed move | nowhere move | shown move =>
      unfold Skips at skip
      rw [move] at skip
      cases skip
  obtain rfl := last.unique last' skips passed.chain.1
  rw [hw]
  cases settled with
  | failed move => simpa [move] using fails
  | nowhere move | shown move | round move _ =>
    rw [move] at fails
    cases fails

theorem next_unusable : (e.next r k).result = .error .unusableRoute ↔ e.Astray r k := by
  constructor
  · intro h
    obtain ⟨ks, evs, a, w, passed, settled, hw⟩ := next_cases e r k
    rw [hw] at h
    cases settled with
    | failed move =>
      cases h
      obtain ⟨n, j, hn, taken, bundle⟩ := hop_unusable.mp (congrArg Walk.result move)
      exact ⟨a, n, j, passed.chain.1, hn, taken, bundle⟩
    | _ => cases h
  · rintro ⟨a, n, j, skips, hn, taken, bundle⟩
    exact next_of_skips skips (hop_unusable.mpr ⟨n, j, hn, taken, bundle⟩)

theorem startNode_isTold {x : WalkError} (h : e.startNode = .error x) : x.isTold = true := by
  unfold startNode at h
  split at h <;> cases h <;> rfl

theorem trace_unusable : e.trace r = .error .unusableRoute ↔ e.WalksAstray r := by
  rw [trace_error]
  constructor
  · intro h
    rcases walk_cases e r with ⟨x, hs, hw⟩ | ⟨path, evs, n, w, before, last, hw⟩
    · rw [hw] at h
      cases h
      cases startNode_isTold hs
    · rw [hw] at h
      cases last with
      | failed new going move =>
        cases h
        exact ⟨path, evs, n, before, new, going, next_unusable.mp (congrArg Walk.result move)⟩
      | _ => cases h
  · rintro ⟨path, evs, n, before, new, going, astray⟩
    have fails := next_unusable.mpr astray
    have move : e.next r n.id = ⟨(e.next r n.id).events, .error .unusableRoute⟩ := by rw [← fails]
    rw [(Ends.failed new going move).walk before]

theorem begin_isTold {initial : Entries} {x : WalkError} (h : e.begin initial = .error x) :
    x.isTold = true := by
  rw [begin] at h
  cases start : e.startNode with
  | ok n =>
    rw [start] at h
    cases h
  | error y =>
    rw [start] at h
    cases h
    exact startNode_isTold start

theorem advance_unusable {s : Session} :
    (e.advance s).result = .error .unusableRoute ↔ e.StepsAstray s := by
  constructor
  · intro h
    cases here : e.currentNode? s with
    | none =>
      rw [advance, here] at h
      split at h <;> cases h
    | some n =>
      have moved := advances here
      rw [h] at moved
      cases moved with
      | failed going final fails => exact ⟨going, n, here, final, next_unusable.mp fails⟩
  · rintro ⟨going, n, here, final, astray⟩
    rw [advance_at going here, if_neg (by simp [final]), next_unusable.mpr astray]

end

/-- Of all that can be asked with some answers, exactly that breaks which comes to a bundle. -/
structure BreaksAstray (e : Engine) (es : Entries) : Prop where
  next : ∀ k, Breaks (e.next (.obj es) k).result ↔ e.Astray (.obj es) k
  trace : Breaks (e.trace (.obj es)) ↔ e.WalksAstray (.obj es)
  begin : ¬ Breaks (e.begin es)
  advance : ∀ s, Breaks (e.advance s).result ↔ e.StepsAstray s

theorem breaksAstray (e : Engine) (es : Entries) : e.BreaksAstray es where
  next _ := breaks_iff.trans next_unusable
  trace := breaks_iff.trans trace_unusable
  begin := by
    rintro ⟨x, h, untold⟩
    rw [begin_isTold h] at untold
    cases untold
  advance _ := breaks_iff.trans advance_unusable

end Engine

namespace Graph

/-- The document gives this as a route of one of its entries. -/
def Gives (doc j : Json) : Prop :=
  ∃ entries key entry next slot, doc = .obj entries ∧ (key, entry) ∈ entries ∧
    entry.getD "next" = .obj next ∧ slot ∈ ["nextId", "trueId", "falseId"] ∧
      next.lookup slot = some j

theorem getD_given {es : Entries} {name : String} {j : Json} (h : (Json.obj es).getD name = j)
    (something : j ≠ .null) : es.lookup name = some j := by
  unfold Json.getD Json.get? at h
  cases found : es.lookup name with
  | none => simp [found, something.symm] at h
  | some v => simpa [found] using h

/-- The routes of a stored node are taken as they stand in its entry. -/
theorem slots_of_nextOfJson {key : String} {kind : NodeKind} {given j : Json} {next : Next}
    (h : nextOfJson key kind given = .ok next) (hj : j ∈ next.slots) (something : j ≠ .null) :
    ∃ es slot, given = .obj es ∧ slot ∈ ["nextId", "trueId", "falseId"] ∧
      es.lookup slot = some j := by
  unfold nextOfJson at h
  split at h
  · obtain rfl := Except.ok.inj h
    exact absurd (slots_unset hj) something
  · rename_i es
    dsimp only at h
    split at h
    · split at h
      · obtain rfl := Except.ok.inj h
        rcases List.mem_pair.mp hj with same | same
        · exact ⟨es, "trueId", rfl, by simp, getD_given same.symm something⟩
        · exact ⟨es, "falseId", rfl, by simp, getD_given same.symm something⟩
      · cases h
    · split at h
      · obtain rfl := Except.ok.inj h
        exact ⟨es, "nextId", rfl, by simp, getD_given (List.mem_singleton.mp hj).symm something⟩
      · cases h
  · cases h

theorem slots_given {doc j : Json} {g : Graph} {k : String} {n : CompiledNode}
    (loaded : ofJson doc = .ok g) (found : g.node? k = some n) (hj : j ∈ n.next.slots)
    (something : j ≠ .null) : Gives doc j := by
  cases doc with
  | obj entries =>
    obtain ⟨⟨key, entry⟩, member, -, read⟩ :=
      exists_of_forall₂ (ofEntries_ok.mp loaded) (Ordered.mem_of_lookup found)
    obtain ⟨es, rfl, -, -, routes, -⟩ := nodeOfJson_ok read
    obtain ⟨next, slot, same, listed, given⟩ := slots_of_nextOfJson routes hj something
    exact ⟨entries, key, .obj es, next, slot, rfl, member, same, listed, given⟩
  | _ => cases loaded

end Graph

/-- A stored graph that was read can be walked with any answers: all that can be asked of it has a
result or an error that is told, unless a node whose route is a bundle is come to, which reading
lets pass. Then, and only then, it breaks; and the bundle is a route that the document gives. -/
theorem stored_walks (doc : Json) (g : Graph) (evaluator : Evaluator) (es : Entries)
    (loaded : Graph.ofJson doc = .ok g) :
    Engine.BreaksAstray ⟨g, evaluator⟩ es ∧
      ((∃ k, Engine.Astray ⟨g, evaluator⟩ (.obj es) k) →
        ∃ j, Graph.Gives doc j ∧ j.isBundle = true) := by
  refine ⟨Engine.breaksAstray _ es, ?_⟩
  rintro ⟨k, a, n, j, -, found, taken, bundle⟩
  have something : j ≠ .null := by
    rintro rfl
    cases bundle
  have slot := Engine.route_slot (Engine.route_takes.mpr taken)
  exact ⟨j, Graph.slots_given loaded found slot something, bundle⟩

/-- A page, and behind it a question that is asked only where another has an answer, with this as
its route. -/
def storedDetour (route : Json) : Json :=
  .obj [
    ("page", .obj [("type", .str "start"),
      ("next", .obj [("kind", .str "linear"), ("nextId", .str "why")])]),
    ("why", .obj [("type", .str "textInput"),
      ("data", .obj [("condition", .obj [("children", .arr [
        .obj [("field", .str "job"), ("operator", .str "is_set")]])])]),
      ("next", .obj [("kind", .str "linear"), ("nextId", route)])])]

def bypass (route : Json) : Engine :=
  ⟨[("page", ⟨"page", .start, ⟨"", "", none, .start "", []⟩, .linear (.str "why")⟩),
    ("why", ⟨"why", .textInput, (Engine.askedIf "why" "job").data, .linear route⟩)], ⟨[], "", ""⟩⟩

/-- Where the question is passed over, the list that is its route is come to already from the page;
where it is asked, it is not. -/
theorem stored_walks_detour :
    Graph.ofJson (storedDetour (.arr [.str "end"])) = .ok (bypass (.arr [.str "end"])).graph ∧
    Breaks ((bypass (.arr [.str "end"])).next (.obj []) "page").result ∧
    (∃ j, Graph.Gives (storedDetour (.arr [.str "end"])) j ∧ j.isBundle = true) ∧
    ¬ Breaks ((bypass (.arr [.str "end"])).next (.obj [("job", .str "cook")]) "page").result := by
  have loaded : Graph.ofJson (storedDetour (.arr [.str "end"]))
      = .ok (bypass (.arr [.str "end"])).graph := by rfl
  obtain ⟨breaks, given⟩ := stored_walks _ _ ⟨[], "", ""⟩ [] loaded
  have skip : (bypass (.arr [.str "end"])).Skips (.obj []) "page" "why" := by rfl
  have astray : (bypass (.arr [.str "end"])).Astray (.obj []) "page" :=
    ⟨"why", _, _, .single skip, rfl, .only rfl, rfl⟩
  refine ⟨loaded, (breaks.next "page").mpr astray, given ⟨"page", astray⟩, ?_⟩
  rw [breaks_iff]
  decide +kernel

/-- The walk breaks where a list stands in the place of the next node's id, and so does the session
that has come so far. -/
theorem stored_list_breaks : ∃ g, Graph.ofJson (storedDetour (.arr [.str "end"])) = .ok g ∧
    Breaks (Engine.trace ⟨g, ⟨[], "", ""⟩⟩ (.obj [])) ∧
    ∃ s, Engine.begin ⟨g, ⟨[], "", ""⟩⟩ [] = .ok s ∧
      Breaks (Engine.advance ⟨g, ⟨[], "", ""⟩⟩ s).result := by
  refine ⟨(bypass (.arr [.str "end"])).graph, rfl, ?_, ⟨[], some "page", ["page"], false⟩, rfl, ?_⟩
  · rw [breaks_iff, Engine.trace_error]
    decide +kernel
  · rw [breaks_iff]
    decide +kernel

end Questionnaire
