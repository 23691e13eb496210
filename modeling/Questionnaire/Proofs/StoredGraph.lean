import Questionnaire.Graph.Document
import Questionnaire.Proofs.DataRestored
import Questionnaire.Proofs.SameWalk

namespace Questionnaire

namespace Json

theorem number_text_ne (x : Binary64) : x.text ≠ "" := by
  cases x with
  | nan => decide
  | infinite s => cases s <;> decide
  | finite s u =>
    have decimal (d : Shortest.Decimal) : Shortest.write d ≠ "" := by
      unfold Shortest.write
      dsimp only
      split
      · split
        · simp
        · split <;> simp
      · simp
    unfold Binary64.text
    intro empty
    obtain ⟨-, digits⟩ := String.append_eq_empty_iff.mp empty
    split at digits
    · simp at digits
    · exact decimal _ digits

/-- What counts as given has a text. -/
theorem text_ne_empty {j : Json} (h : j.isGiven = true) : j.text ≠ "" := by
  cases j with
  | null => cases h
  | bool b => cases b <;> decide
  | int n =>
    cases n with
    | ofNat n => exact Nat.repr_ne_empty
    | negSucc n => simp [text, shown, toString, Int.repr]
  | num x => exact number_text_ne x
  | str s => simpa [isGiven, text] using h
  | arr xs => simp [text, shown]
  | obj es => simp [text, shown]

end Json
namespace Graph

/-- The document that stands for the data of an entry. -/
def dataOf (es : Entries) : Json := (given? es "data").getD (.obj [])

/-- Does a field hide something in the data of an entry? -/
def entryHides : Json → Bool
  | .obj es =>
    match NodeKind.ofTag? (textOf es "type" ""), dataOf es with
    | some kind, .obj data => NodeData.hides kind.family data
    | _, _ => false
  | _ => false

/-- Does a field hide something in the data of some entry? -/
def hides : Json → Bool
  | .obj es => es.any fun e => entryHides e.2
  | _ => false

/-- What is known of every node that was read, from a design or from a stored graph: the entries
that its data was read from, that its routes suit its kind, and that it has an id if its key is
one. -/
structure Sound (key : String) (n : CompiledNode) (data : Entries) : Prop where
  finite : data.Finite
  read : NodeData.ofEntries n.kind.family data = .ok n.data
  routes : n.next.isBranch = true ↔ n.kind = .branch
  named : n.id = "" → key = ""

theorem nextOfJson_toJson (key : String) {kind : NodeKind} {next : Next}
    (routes : next.isBranch = true ↔ kind = .branch) :
    nextOfJson key kind next.toJson = .ok next := by
  cases next with
  | linear j =>
    have other : kind ≠ .branch := fun same => by simpa [Next.isBranch] using routes.mpr same
    simp [nextOfJson, Next.toJson, Json.getD, Json.get?, other, Ordered.lookup_entry]
  | branch t f =>
    have same : kind = .branch := routes.mp rfl
    simp [nextOfJson, Next.toJson, Json.getD, Json.get?, same, Ordered.lookup_entry]

/-- The entries of a stored node. -/
def entriesOf (n : CompiledNode) : Entries :=
  [("id", .str n.id), ("type", .str n.kind.tag), ("data", n.data.toJson), ("next", n.next.toJson)]

theorem textOf_type (n : CompiledNode) : textOf (entriesOf n) "type" "" = n.kind.tag := by
  have found : (entriesOf n).lookup "type" = some (.str n.kind.tag) := by
    simp [entriesOf, Ordered.lookup_entry]
  have given : (Json.str n.kind.tag).isGiven = true := by cases n.kind <;> rfl
  simp [textOf, given?, found, Option.filter, given, Json.text]

theorem textOf_id {key : String} {n : CompiledNode} (named : n.id = "" → key = "") :
    textOf (entriesOf n) "id" key = n.id := by
  have found : (entriesOf n).lookup "id" = some (.str n.id) := by simp [entriesOf]
  by_cases empty : n.id = ""
  · simp [textOf, given?, found, Option.filter, Json.isGiven, empty, named empty]
  · simp [textOf, given?, found, Option.filter, Json.isGiven, empty, Json.text]

/-- Data without any entry does not count as given, and stands for itself even so. -/
theorem dataOf_entriesOf (n : CompiledNode) : dataOf (entriesOf n) = n.data.toJson := by
  have found : (entriesOf n).lookup "data" = some n.data.toJson := by
    simp [entriesOf, Ordered.lookup_entry]
  obtain ⟨data, whole⟩ : ∃ data, n.data.toJson = .obj data := ⟨_, rfl⟩
  rw [dataOf, given?, found, whole]
  cases data <;> rfl

/-- A node that was stored is read with the data that its stored data is read as. -/
theorem nodeOfJson_toJson {key : String} {n : CompiledNode}
    (routes : n.next.isBranch = true ↔ n.kind = .branch) (named : n.id = "" → key = "") :
    nodeOfJson key n.toJson =
      match NodeData.ofJson n.kind.family n.data.toJson with
      | .error fs => .error (.invalidData key fs)
      | .ok d => .ok { n with data := d } := by
  have next : (Json.obj (entriesOf n)).getD "next" = n.next.toJson := by
    simp [Json.getD, Json.get?, entriesOf, Ordered.lookup_entry]
  have data : (given? (entriesOf n) "data").getD (.obj []) = n.data.toJson := dataOf_entriesOf n
  have whole : nodeOfJson key n.toJson = nodeOfJson key (.obj (entriesOf n)) := rfl
  rw [whole, nodeOfJson]
  simp only [textOf_type, NodeKind.ofTag?_tag]
  rw [data, next, nextOfJson_toJson key routes, textOf_id named]
  cases NodeData.ofJson n.kind.family n.data.toJson <;> rfl

theorem routes_of_nextOfJson {key : String} {kind : NodeKind} {j : Json} {next : Next}
    (h : nextOfJson key kind j = .ok next) : next.isBranch = true ↔ kind = .branch := by
  unfold nextOfJson at h
  split at h
  · obtain rfl := Except.ok.inj h
    by_cases same : kind = .branch <;> simp [Next.unset, Next.isBranch, same]
  · dsimp only at h
    split at h
    · rename_i same
      split at h
      · obtain rfl := Except.ok.inj h
        exact iff_of_true rfl same
      · cases h
    · rename_i other
      split at h
      · obtain rfl := Except.ok.inj h
        exact iff_of_false Bool.false_ne_true other
      · cases h
  · cases h

theorem finite_dataOf {es : Entries} (h : es.Finite) : (dataOf es).Finite := by
  unfold dataOf
  cases found : given? es "data" with
  | none => exact Json.finite_obj.mpr rfl
  | some v => exact h.lookup (Option.filter_eq_some_iff.mp found).1

theorem ne_empty_of_textOf {es : Entries} {key default : String} (h : textOf es key default = "") :
    default = "" := by
  unfold textOf at h
  cases found : given? es key with
  | none => simpa [found] using h
  | some v =>
    have given : v.isGiven = true := (Option.filter_eq_some_iff.mp found).2
    exact absurd (by simpa [found] using h) (Json.text_ne_empty given)

/-- How the parts of an entry become a node. -/
theorem nodeOfJson_ok {key : String} {j : Json} {n : CompiledNode} (h : nodeOfJson key j = .ok n) :
    ∃ es, j = .obj es ∧ NodeKind.ofTag? (textOf es "type" "") = some n.kind ∧
      NodeData.ofJson n.kind.family (dataOf es) = .ok n.data ∧
      nextOfJson key n.kind (j.getD "next") = .ok n.next ∧ n.id = textOf es "id" key := by
  cases j with
  | obj es =>
    have own : (given? es "data").getD (.obj []) = dataOf es := rfl
    rw [nodeOfJson, own] at h
    split at h
    · cases h
    · rename_i kind tagged
      split at h
      · cases h
      · rename_i data read
        cases next : nextOfJson key kind ((Json.obj es).getD "next") with
        | error x =>
          rw [next] at h
          cases h
        | ok routes =>
          rw [next] at h
          obtain rfl := Except.ok.inj h
          exact ⟨es, rfl, tagged, read, next, rfl⟩
  | _ => cases h

/-- What is known of a node that was read from a stored graph. -/
theorem sound_of_nodeOfJson {key : String} {j : Json} {n : CompiledNode} (finite : j.Finite)
    (h : nodeOfJson key j = .ok n) :
    ∃ data, Sound key n data ∧ entryHides j = NodeData.hides n.kind.family data := by
  obtain ⟨es, rfl, tagged, read, next, named⟩ := nodeOfJson_ok h
  have whole := finite_dataOf (Json.finite_obj.mp finite)
  rw [entryHides, tagged]
  cases given : dataOf es with
  | obj data =>
    rw [given] at read whole
    refine ⟨data, ⟨Json.finite_obj.mp whole, read, routes_of_nextOfJson next, ?_⟩, rfl⟩
    rw [named]
    exact ne_empty_of_textOf
  | _ =>
    rw [given] at read
    cases read

theorem ofEntries_ok {es : Entries} {g : Graph} : ofEntries es = .ok g ↔
    List.Forall₂ (fun e m => m.1 = e.1 ∧ nodeOfJson e.1 e.2 = .ok m.2) es g := by
  induction es generalizing g with
  | nil =>
    rw [ofEntries, List.forall₂_nil_left_iff]
    exact ⟨fun h => (Except.ok.inj h).symm, fun h => h ▸ rfl⟩
  | cons e es ih =>
    obtain ⟨key, j⟩ := e
    rw [ofEntries, List.forall₂_cons_left_iff]
    constructor
    · intro h
      cases read : nodeOfJson key j with
      | error x =>
        rw [read] at h
        cases h
      | ok n =>
        rw [read] at h
        cases rest : ofEntries es with
        | error x =>
          rw [rest] at h
          cases h
        | ok g' =>
          rw [rest] at h
          exact ⟨(key, n), g', ⟨rfl, rfl⟩, ih.mp rest, (Except.ok.inj h).symm⟩
    · rintro ⟨⟨_, n⟩, g, ⟨rfl, read⟩, rest, rfl⟩
      rw [read, ih.mpr rest]
      rfl

section Reload

variable {g : Graph}

/-- A graph in whose data no field hides anything is read as what it was written of. -/
theorem ofJson_toJson
    (h : ∀ m ∈ g, ∃ data, Sound m.1 m.2 data ∧ NodeData.hides m.2.kind.family data = false) :
    ofJson g.toJson = .ok (g.mapData NodeData.restored) := by
  refine ofEntries_ok.mpr (List.forall₂_map_left_iff.mpr (List.forall₂_map_right_iff.mpr ?_))
  refine List.forall₂_same.mpr fun m hm => ⟨rfl, ?_⟩
  obtain ⟨data, sound, shown⟩ := h m hm
  rw [nodeOfJson_toJson sound.routes sound.named,
    NodeData.ofJson_toJson sound.finite sound.read shown]
  rfl

theorem Sound.toJson_restored {key : String} {n : CompiledNode} {data : Entries}
    (sound : Sound key n data) : (n.mapData NodeData.restored).toJson = n.toJson := by
  have same : n.data.restored.toJson = n.data.toJson :=
    NodeData.restored_toJson sound.finite sound.read
  simp only [CompiledNode.mapData, CompiledNode.toJson, same]

theorem toJson_restored (h : ∀ m ∈ g, ∃ data, Sound m.1 m.2 data) :
    (g.mapData NodeData.restored).toJson = g.toJson := by
  rw [toJson, toJson, mapData, List.map_map]
  refine congrArg Json.obj (List.map_congr_left fun m hm => ?_)
  obtain ⟨data, sound⟩ := h m hm
  exact congrArg (Prod.mk m.1) sound.toJson_restored

theorem node_stable {key : String} {n n' : CompiledNode} {data : Entries} (sound : Sound key n data)
    (again : nodeOfJson key n.toJson = .ok n') (same : n'.toJson = n.toJson) :
    NodeData.hides n.kind.family data = false := by
  rw [nodeOfJson_toJson sound.routes sound.named] at again
  refine (NodeData.stable_iff sound.finite sound.read).mp ?_
  split at again
  · cases again
  · rename_i d read
    obtain rfl := Except.ok.inj again
    have same : d.toJson = n.data.toJson := by simpa [CompiledNode.toJson] using same
    exact ⟨d, read, same⟩

/-- What is written of a graph is the same next time only if that is so of each node. -/
theorem nodes_stable {g' : Graph} (again : ofJson g.toJson = .ok g')
    (same : g'.toJson = g.toJson) :
    ∀ m ∈ g, ∃ n', nodeOfJson m.1 m.2.toJson = .ok n' ∧ n'.toJson = m.2.toJson := by
  have read := List.forall₂_map_left_iff.mp (ofEntries_ok.mp again)
  have written := Json.obj.inj same
  clear again same
  induction read with
  | nil => simp
  | @cons m m' g g' hm _ ih =>
    rw [List.map_cons, List.map_cons, List.cons.injEq] at written
    intro l hl
    rcases List.mem_cons.mp hl with rfl | hl
    · exact ⟨m'.2, hm.2, congrArg Prod.snd written.1⟩
    · exact ih written.2 l hl

end Reload
end Graph

/-- What is written of a stored graph that was read stays the same when it is read and written
again, unless in the data of some node a field hides something: then what is written first is not
read at all, or something else is written of it. -/
theorem reload_stable_iff (j : Json) (g : Graph) (finite : j.Finite)
    (h : Graph.ofJson j = .ok g) :
    (∃ g', Graph.ofJson g.toJson = .ok g' ∧ g'.toJson = g.toJson) ↔ Graph.hides j = false := by
  match j with
  | .obj es =>
    have read := Graph.ofEntries_ok.mp h
    have known : List.Forall₂ (fun e m => ∃ data, Graph.Sound m.1 m.2 data ∧
        Graph.entryHides e.2 = NodeData.hides m.2.kind.family data) es g := by
      have both := (List.forall₂_and_left _ _).mpr
        ⟨Entries.finite_iff.mp (Json.finite_obj.mp finite), read⟩
      refine both.imp ?_
      rintro ⟨key, j⟩ ⟨_, n⟩ ⟨hj, rfl, read⟩
      exact Graph.sound_of_nodeOfJson hj read
    constructor
    · rintro ⟨g', again, same⟩
      refine List.any_eq_false.mpr fun e he => ?_
      obtain ⟨m, hm, data, sound, hides⟩ := exists_of_forall₂ known.flip he
      obtain ⟨n', again, same⟩ := Graph.nodes_stable again same m hm
      rw [hides, Graph.node_stable sound again same]
      exact Bool.false_ne_true
    · intro shown
      have clear : ∀ m ∈ g, ∃ data, Graph.Sound m.1 m.2 data ∧
          NodeData.hides m.2.kind.family data = false := by
        intro m hm
        obtain ⟨e, he, data, sound, hides⟩ := exists_of_forall₂ known hm
        refine ⟨data, sound, ?_⟩
        rw [← hides]
        exact Bool.not_eq_true _ ▸ List.any_eq_false.mp shown e he
      refine ⟨_, Graph.ofJson_toJson clear, Graph.toJson_restored fun m hm => ?_⟩
      obtain ⟨data, sound, -⟩ := clear m hm
      exact ⟨data, sound⟩

/-- An image with these data. -/
def storedImage (data : Entries) : Json :=
  .obj [("photo", .obj [("type", .str "image"), ("data", .obj data)])]

def imageGraph (slider : Option String) (extras : Entries) : Graph :=
  [("photo", ⟨"photo", .image, ⟨"", "", none, .media ⟨none, [], none, false, "none", none, slider,
    []⟩, extras⟩, .linear .null⟩)]

/-- Either spelling alone is stable, and so are both where both give a text. -/
theorem reload_stable_image :
    (∃ g', Graph.ofJson (imageGraph (some "0-10") []).toJson = .ok g' ∧
      g'.toJson = (imageGraph (some "0-10") []).toJson) ∧
    ∃ g', Graph.ofJson (imageGraph (some "0-10") [("slider_config", .str "0-5")]).toJson = .ok g' ∧
      g'.toJson = (imageGraph (some "0-10") [("slider_config", .str "0-5")]).toJson := by
  constructor
  · have read : Graph.ofJson (storedImage [("slider_config", .str "0-10")])
        = .ok (imageGraph (some "0-10") []) := by rfl
    exact (reload_stable_iff _ _ (by decide +kernel) read).mpr (by decide +kernel)
  · have read : Graph.ofJson
          (storedImage [("sliderConfig", .str "0-10"), ("slider_config", .str "0-5")])
        = .ok (imageGraph (some "0-10") [("slider_config", .str "0-5")]) := by rfl
    exact (reload_stable_iff _ _ (by decide +kernel) read).mpr (by decide +kernel)

/-- Where null stands under the first spelling, the text under the second is kept beside the field
when it is read first, and becomes the field's when it is read next. -/
theorem reload_changes_image : ∃ g g',
    Graph.ofJson (storedImage [("sliderConfig", .null), ("slider_config", .str "0-5")]) = .ok g ∧
      Graph.ofJson g.toJson = .ok g' ∧ g'.toJson ≠ g.toJson :=
  ⟨imageGraph none [("slider_config", .str "0-5")], imageGraph (some "0-5") [], rfl, rfl,
    by decide +kernel⟩

end Questionnaire
