import Questionnaire.Proofs.DesignRead
import Questionnaire.Proofs.FieldsRead
import Questionnaire.Proofs.PublishGate
import Questionnaire.Proofs.StoredGraph

namespace Questionnaire

namespace NodeData

/-- What a label stands for is not changed by restoring data. -/
theorem choices_restored (d : NodeData) :
    d.restored.choices = d.choices.map Choice.restored := by
  obtain ⟨label, description, condition, payload, extras⟩ := d
  cases payload <;> rfl

theorem otherLabel_restored (d : NodeData) : d.restored.otherLabel? = d.otherLabel? := by
  obtain ⟨label, description, condition, payload, extras⟩ := d
  cases payload <;> rfl

theorem skipCondition_restored (d : NodeData) : d.restored.skipCondition = d.skipCondition := by
  obtain ⟨label, description, condition, payload, extras⟩ := d
  cases payload <;> rfl

end NodeData

namespace Evaluator

theorem resolveLabel_restored (ev : Evaluator) (d : NodeData) (text : String) :
    ev.resolveLabel d.restored text = ev.resolveLabel d text := by
  have found (key : String) :
      (d.restored.choices.find? fun c => !c.label.isEmpty && Answer.normal c.label == key)
        = (d.choices.find? fun c => !c.label.isEmpty && Answer.normal c.label == key).map
          Choice.restored := by
    rw [NodeData.choices_restored, List.find?_map]
    rfl
  unfold resolveLabel
  simp only [found, NodeData.otherLabel_restored]
  cases d.choices.find? _ <;> rfl

theorem resolveText_restored (ev : Evaluator) (d : NodeData) (v : Json) :
    ev.resolveText d.restored v = ev.resolveText d v := by
  cases v with
  | str s => exact ev.resolveLabel_restored d s
  | _ => rfl

end Evaluator

namespace Engine

section Restored

variable (g : Graph) (otherValue defaultOtherLabel : String)

theorem resolve_restored (field : String) (v : Json) :
    (ofGraph (g.mapData NodeData.restored) otherValue defaultOtherLabel).evaluator.resolve field v
      = (ofGraph g otherValue defaultOtherLabel).evaluator.resolve field v := by
  unfold Evaluator.resolve
  rw [definition?_ofGraph, definition?_ofGraph, Graph.node?_mapData]
  cases g.node? field with
  | none => rfl
  | some n =>
    have same (w : Json) : (ofGraph (g.mapData NodeData.restored) otherValue
          defaultOtherLabel).evaluator.resolveText n.data.restored w
        = (ofGraph g otherValue defaultOtherLabel).evaluator.resolveText n.data w :=
      Evaluator.resolveText_restored _ n.data w
    cases v with
    | arr xs => exact congrArg Json.arr (List.map_congr_left fun w _ => same w)
    | _ => exact same _

/-- An engine built from the restored graph goes the same ways. -/
theorem mirrors_restored (responses : Json) :
    Mirrors (ofGraph g otherValue defaultOtherLabel)
      (ofGraph (g.mapData NodeData.restored) otherValue defaultOtherLabel)
      responses responses NodeData.restored where
  graph := rfl
  condition _ := rfl
  skips := NodeData.skipCondition_restored
  evaluates k n c _ _ := by
    have operands (r : Rule) : (ofGraph (g.mapData NodeData.restored) otherValue
          defaultOtherLabel).evaluator.operands responses r
        = (ofGraph g otherValue defaultOtherLabel).evaluator.operands responses r := by
      simp only [Evaluator.operands, resolve_restored]
    rw [evaluate, evaluate, evaluate_of_operands fun r _ => operands r,
      records_of_operands fun r _ => operands r]

end Restored
end Engine

/-- What a walk leads to is told alike of the restored nodes. -/
theorem Trace.toJson_restored (t : Trace) :
    Trace.toJson ⟨t.path.map (CompiledNode.mapData NodeData.restored), t.events⟩ = t.toJson := by
  have ids : Trace.ids ⟨t.path.map (CompiledNode.mapData NodeData.restored), t.events⟩ = t.ids := by
    rw [Trace.ids, Trace.ids, List.map_map]
    rfl
  have final : Trace.endNode? ⟨t.path.map (CompiledNode.mapData NodeData.restored), t.events⟩
      = t.endNode?.map (CompiledNode.mapData NodeData.restored) := by
    rw [Trace.endNode?, Trace.endNode?, List.getLast?_map, Option.filter_map]
    rfl
  have ending : Trace.ending? ⟨t.path.map (CompiledNode.mapData NodeData.restored), t.events⟩
      = t.ending? := by
    rw [Trace.ending?, Trace.ending?, final]
    cases t.endNode? with
    | none => rfl
    | some n =>
      obtain ⟨id, kind, ⟨label, description, condition, payload, extras⟩, next⟩ := n
      cases payload <;> rfl
  simp only [Trace.toJson, Trace.outcomeJson, Trace.outcome?, Trace.completed, ids, ending, final,
    Option.isSome_map]

namespace Engine

section Restored

variable (g : Graph) (otherValue defaultOtherLabel : String) (responses : Json)

theorem trace_restored :
    ((ofGraph (g.mapData NodeData.restored) otherValue defaultOtherLabel).trace responses).map
        Trace.toJson
      = ((ofGraph g otherValue defaultOtherLabel).trace responses).map Trace.toJson := by
  rw [(mirrors_restored g otherValue defaultOtherLabel responses).trace]
  cases (ofGraph g otherValue defaultOtherLabel).trace responses with
  | error x => rfl
  | ok t => exact congrArg Except.ok t.toJson_restored

/-- The next node is the restored one, of which the same is written. -/
theorem next_restored (sound : ∀ m ∈ g, ∃ data, Graph.Sound m.1 m.2 data) (key : String) :
    ((ofGraph (g.mapData NodeData.restored) otherValue defaultOtherLabel).next responses key).map
        (Option.map CompiledNode.toJson)
      = ((ofGraph g otherValue defaultOtherLabel).next responses key).map
        (Option.map CompiledNode.toJson) := by
  rw [(mirrors_restored g otherValue defaultOtherLabel responses).next key]
  cases next : (ofGraph g otherValue defaultOtherLabel).next responses key with
  | mk events result =>
    cases result with
    | error x => rfl
    | ok shown =>
      cases shown with
      | none => rfl
      | some n =>
        obtain ⟨b, -, found⟩ := next_ahead (congrArg Walk.result next)
        obtain ⟨data, known⟩ := sound (b, n) (Ordered.mem_of_lookup found)
        have same : (n.mapData NodeData.restored).toJson = n.toJson := known.toJson_restored
        simp only [Walk.map, Except.map, Option.map_some, same]

end Restored
end Engine

namespace Graph

/-- What is known of a node that was compiled. -/
theorem compiled_from {nodes : List Node} {edges : List Edge} {m : String × CompiledNode}
    (hm : m ∈ compile nodes edges) : ∃ n ∈ nodes, m.2.kind = n.kind ∧ m.2.data = n.data ∧
      (m.2.next.isBranch = true ↔ m.2.kind = .branch) ∧ m.2.id = m.1 := by
  have keyed := keyed_compile nodes edges
  have found : (compile nodes edges).node? m.1 = some m.2 := Ordered.lookup_of_mem keyed.nodup hm
  have named := keyed.named _ _ found
  have branches := isBranch_compile found
  rw [node?_compile, node?_ofNodes, Option.map_map] at found
  obtain ⟨n, hn, same⟩ := Option.map_eq_some_iff.mp found
  refine ⟨n, List.mem_reverse.mp (List.mem_of_find?_eq_some hn), ?_, ?_, branches, named⟩
  · rw [← same]
    rfl
  · rw [← same]
    rfl

end Graph

namespace Node

/-- Does a field hide something in the data of a node that is drawn? -/
def hides : Json → Bool
  | .obj es =>
    match kindOf es, es.lookup "data" with
    | .ok kind, some (.obj data) => NodeData.hides kind.family data
    | _, _ => false
  | _ => false

theorem data_of_ofJson {fresh : String} {j : Json} {n : Node} (finite : j.Finite)
    (h : ofJson fresh j = .ok n) : ∃ data : Entries, data.Finite ∧
      NodeData.ofEntries n.kind.family data = .ok n.data ∧
      hides j = NodeData.hides n.kind.family data := by
  cases j with
  | obj es =>
    have hes : Entries.Finite es := Json.finite_obj.mp finite
    rw [ofJson] at h
    cases known : kindOf es with
    | error d =>
      rw [known] at h
      cases h
    | ok kind =>
      rw [known] at h
      obtain ⟨-, d, -, hd, rfl⟩ := Checked.both_ok.mp (Checked.within_ok.mp h)
      rw [Part.fieldOr_read, Spelling.find?_plain] at hd
      rw [hides, known]
      cases given : es.lookup "data" with
      | none =>
        rw [given] at hd
        refine ⟨[], rfl, hd, ?_⟩
        simp [NodeData.hides, Spelling.hides]
      | some v =>
        rw [given] at hd
        have read : NodeData.ofJson kind.family v = .ok d := Checked.within_ok.mp hd
        cases v with
        | obj data => exact ⟨data, Json.finite_obj.mp (hes.lookup given), read, rfl⟩
        | _ => cases read
  | _ => cases h

end Node

/-- What is known of the nodes of a graph that was compiled from documents. -/
theorem Graph.sound_of_compileRaw {ids : IdSupply} {nodes edges : List Json} {g : Graph}
    (compiled : (compileRaw ids nodes edges).result = .ok g) (finite : ∀ j ∈ nodes, j.Finite)
    (shown : ∀ j ∈ nodes, Node.hides j = false) :
    ∀ m ∈ g, ∃ data, Sound m.1 m.2 data ∧ NodeData.hides m.2.kind.family data = false := by
  obtain ⟨read, es, -, rfl⟩ := read_of_compileRaw compiled ids
  intro m hm
  obtain ⟨n, hn, kind, same, routes, named⟩ := compiled_from hm
  obtain ⟨j, hj, fresh, hn⟩ := exists_of_forall₂ read hn
  obtain ⟨data, hdata, own, hides⟩ := Node.data_of_ofJson (finite j hj) hn
  rw [← kind, ← same] at own
  rw [← kind, shown j hj] at hides
  exact ⟨data, ⟨hdata, own, routes, fun empty => named ▸ empty⟩, hides.symm⟩

/-- A graph that was compiled, stored and loaded leads every respondent the same way as before: the
same nodes come next, and the whole walk is told alike or fails alike. It is enough that all numbers
are finite, and that in no data null stands under the first spelling of a field while the second
spelling gives something else. -/
theorem stored_behaves (ids : IdSupply) (nodes edges : List Json) (g : Graph)
    (otherValue defaultOtherLabel : String)
    (compiled : (Graph.compileRaw ids nodes edges).result = .ok g)
    (finite : ∀ j ∈ nodes, j.Finite) (shown : ∀ j ∈ nodes, Node.hides j = false) :
    ∃ g', Graph.ofJson g.toJson = .ok g' ∧ ∀ responses : Json,
      ((Engine.ofGraph g' otherValue defaultOtherLabel).trace responses).map Trace.toJson
        = ((Engine.ofGraph g otherValue defaultOtherLabel).trace responses).map Trace.toJson ∧
      ∀ key, ((Engine.ofGraph g' otherValue defaultOtherLabel).next responses key).map
          (Option.map CompiledNode.toJson)
        = ((Engine.ofGraph g otherValue defaultOtherLabel).next responses key).map
          (Option.map CompiledNode.toJson) := by
  have known := Graph.sound_of_compileRaw compiled finite shown
  refine ⟨_, Graph.ofJson_toJson known, fun responses => ⟨?_, fun key => ?_⟩⟩
  · exact Engine.trace_restored g otherValue defaultOtherLabel responses
  · refine Engine.next_restored g otherValue defaultOtherLabel responses (fun m hm => ?_) key
    obtain ⟨data, sound, -⟩ := known m hm
    exact ⟨data, sound⟩

/-- One question whose options carry a null, and a branch on the label of one of them. -/
def poll : List Json × List Json :=
  let option (label value : String) : Json :=
    .obj [("label", .str label), ("value", .str value), ("hint", .null)]
  let rule := Json.obj [("field", .str "diet"), ("operator", .str "equals"),
    ("value", .str "No meat")]
  let ending (id url : String) : Json :=
    .obj [("id", .str id), ("type", .str "end"), ("data", .obj [("redirect_url", .str url)])]
  let edge (source target : String) : Entries :=
    [("source", .str source), ("target", .str target)]
  ([.obj [("id", .str "start"), ("type", .str "start")],
    .obj [("id", .str "diet"), ("type", .str "singleChoice"),
      ("data", .obj [("options", .arr [option "No meat" "v", option "Anything" "o"])])],
    .obj [("id", .str "meat"), ("type", .str "branch"),
      ("data", .obj [("condition", .obj [("rules", .arr [rule])])])],
    ending "garden" "/garden", ending "grill" "/grill"],
   [.obj (edge "start" "diet"), .obj (edge "diet" "meat"),
    .obj (("sourceHandle", .str "true") :: edge "meat" "garden"),
    .obj (("sourceHandle", .str "false") :: edge "meat" "grill")])

/-- The label still stands for the value that was answered. -/
theorem stored_behaves_poll : ∃ g g',
    (Graph.compileRaw ⟨toString, 0⟩ poll.1 poll.2).result = .ok g ∧
    Graph.ofJson g.toJson = .ok g' ∧
    ((Engine.ofGraph g' "other" "Else").trace (.obj [("diet", .str "v")])).map Trace.toJson
      = ((Engine.ofGraph g "other" "Else").trace (.obj [("diet", .str "v")])).map Trace.toJson := by
  obtain ⟨g, compiled⟩ : ∃ g, (Graph.compileRaw ⟨toString, 0⟩ poll.1 poll.2).result = .ok g :=
    ⟨_, rfl⟩
  obtain ⟨g', loaded, same⟩ := stored_behaves ⟨toString, 0⟩ poll.1 poll.2 g "other" "Else"
    compiled (by decide +kernel) (by decide +kernel)
  exact ⟨g, g', compiled, loaded, (same _).1⟩

end Questionnaire
