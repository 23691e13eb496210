import Questionnaire.Node.Data
import Questionnaire.Proofs.ConditionRestored

namespace Questionnaire

theorem Outcome.ofWord?_word (o : Outcome) : Outcome.ofWord? o.word = some o := by
  cases o <;> decide

theorem zipCodes_restores : ZipCodes.shape.Restores id := by
  refine .same (fun _ => rfl) (fun _ h => by cases h) fun z _ => ?_
  cases z with
  | one s => rfl
  | many codes =>
    have list : (Shape.list .string).read (.arr (codes.map .str)) = .ok codes :=
      Checked.each_ok.mpr (List.forall₂_map_left_iff.mpr (List.forall₂_same.mpr fun _ _ => rfl))
    have whole : ZipCodes.ofJson (.arr (codes.map .str)) = .ok (.many codes) := by
      rw [ZipCodes.ofJson]
      · rw [list]
      · exact fun _ h => by cases h
    exact whole

/-- A choice without the nulls among its other entries. -/
def Choice.restored (c : Choice) : Choice := { c with extras := Entries.written c.extras }

theorem choiceFields_restores :
    Choice.ownPart.Restores [.plain "label", .plain "value"] id := by
  have fields := Part.Restores.both
    (.given (.plain "label") "" Shape.string_restores (fun _ => rfl) ⟨.str "", rfl, rfl⟩)
    (.any (.plain "value")) (by decide)
  exact fields.of_eq fun _ => rfl

theorem choice_restores : Choice.shape.Restores Choice.restored := by
  have read {c : Choice} (h : Choice.shape.Reads c) : ∃ es : Entries, es.Finite ∧
      Choice.ownPart.read es = .ok (c.label, c.value) ∧ c.extras = Choice.ownPart.others es := by
    obtain ⟨j, hj, h⟩ := h
    match j with
    | .obj es =>
      obtain ⟨own, read, rfl⟩ := Checked.map_ok.mp h
      exact ⟨es, Json.finite_obj.mp hj, read, rfl⟩
    | .null | .bool _ | .int _ | .num _ | .str _ | .arr _ => cases h
  refine .present (fun _ => rfl) (fun _ h => by cases h) (fun c h => ?_) fun c h => ?_
  · obtain ⟨es, hes, own, extras⟩ := read h
    have shown : ∀ s ∈ [Spelling.plain "label", .plain "value"], s.hides es = false := by
      simp [Spelling.plain_shown]
    obtain ⟨back, others⟩ := choiceFields_restores.read_stored hes own shown
    refine Checked.map_ok.mpr ⟨(c.label, c.value), ?_, ?_⟩
    · rw [extras]
      exact back
    · rw [extras, Choice.restored, extras]
      exact congrArg (Choice.mk c.label c.value) others
  · obtain ⟨es, hes, -, extras⟩ := read h
    have finite : c.extras.Finite := extras ▸ hes.filter _
    have same : Entries.written c.restored.extras = Entries.written c.extras :=
      finite.written_written
    exact congrArg (fun more => Json.obj (Choice.ownPart.write (c.label, c.value) ++ more)) same

section Fields

theorem text_restores (s : Spelling) (default : String) :
    (Part.field s .string default).Restores [s] id :=
  .given s default Shape.string_restores (fun _ => rfl) ⟨.str default, rfl, rfl⟩

theorem flag_restores (s : Spelling) : (Part.field s .bool false).Restores [s] id :=
  .given s false Shape.bool_restores (fun _ => rfl) ⟨.bool false, rfl, rfl⟩

theorem textOption_restores (s : Spelling) :
    (Part.field s (.optional .string) none).Restores [s] id :=
  (Part.Restores.optional s Shape.string_restores fun _ => rfl).of_eq fun a => by simp

theorem numberOption_restores (s : Spelling) :
    (Part.field s (.optional .number) none).Restores [s] id :=
  (Part.Restores.optional s Shape.number_restores fun _ => rfl).of_eq fun a => by simp

theorem choices_restores (s : Spelling) :
    (Payload.choices s).Restores [s] (List.map Choice.restored) :=
  .given s [] (Shape.list_restores choice_restores) (fun _ => rfl) ⟨.arr [], rfl, rfl⟩

end Fields

namespace Payload

/-- The payload of a family as a part of a larger object. -/
def part (f : Family) : Part Payload := ⟨used f, ofEntries f, toEntries⟩

def spellings : Family → List Spelling
  | .start => [⟨"welcomeMessage", "welcome_message"⟩]
  | .ending => [.plain "message", ⟨"redirectUrl", "redirect_url"⟩, .plain "outcome"]
  | .branch => []
  | .text => [.plain "placeholder", ⟨"longAnswer", "long_answer"⟩]
  | .zipCode => [⟨"allowedZips", "allowed_zips"⟩]
  | .multiInput => [⟨"fields", "input_fields"⟩]
  | .numeric => [.plain "min", .plain "max", .plain "step"]
  | .choice => [.plain "options", ⟨"allowOther", "allow_other"⟩, ⟨"otherLabel", "other_label"⟩,
    ⟨"maxChoices", "max_choices"⟩, .plain "searchable"]
  | .consent => [⟨"checkboxLabel", "checkbox_label"⟩]
  | .rating => [.plain "items", ⟨"maxRating", "max_rating"⟩]
  | .matrix => [.plain "rows", .plain "columns", .plain "multiple"]
  | .cascading => [.plain "steps"]
  | .media => [.plain "url", .plain "urls", .plain "alt", .plain "autoplay",
    ⟨"interactionType", "interaction_type"⟩, ⟨"questionLabel", "question_label"⟩,
    ⟨"sliderConfig", "slider_config"⟩, .plain "choices"]

/-- The payload without the nulls among the other entries of its choices. -/
def restored : Payload → Payload
  | .multiInput fields => .multiInput (fields.map Choice.restored)
  | .choice c => .choice { c with options := c.options.map Choice.restored }
  | .rating items top => .rating (items.map Choice.restored) top
  | .matrix m =>
    .matrix { m with
      rows := m.rows.map Choice.restored
      columns := m.columns.map Choice.restored }
  | .media m => .media { m with choices := m.choices.map Choice.restored }
  | p => p

theorem endingPart_restores : endingPart.Restores (spellings .ending) id := by
  have outcome : Outcome.shape.Restores id := Shape.oneOf_restores Outcome.ofWord?_word
  have fields := Part.Restores.both (text_restores (.plain "message") "")
    (.both (textOption_restores ⟨"redirectUrl", "redirect_url"⟩)
      (.given (.plain "outcome") .completed outcome (fun _ => rfl) ⟨.str "completed", rfl, rfl⟩)
      (by decide)) (by decide)
  exact fields.of_eq fun _ => rfl

theorem numericPart_restores : numericPart.Restores (spellings .numeric) id := by
  have fields := Part.Restores.both (numberOption_restores (.plain "min"))
    (.both (numberOption_restores (.plain "max")) (numberOption_restores (.plain "step"))
      (by decide)) (by decide)
  exact fields.of_eq fun _ => rfl

theorem choicePart_restores : choicePart.Restores (spellings .choice)
    fun c => { c with options := c.options.map Choice.restored } := by
  have number : (Part.field ⟨"maxChoices", "max_choices"⟩ (.optional .int) none).Restores
      [⟨"maxChoices", "max_choices"⟩] id :=
    (Part.Restores.optional _ Shape.int_restores fun _ => rfl).of_eq fun a => by simp
  have fields := Part.Restores.both (choices_restores (.plain "options"))
    (.both (flag_restores ⟨"allowOther", "allow_other"⟩)
      (.both (textOption_restores ⟨"otherLabel", "other_label"⟩)
        (.both number (flag_restores (.plain "searchable")) (by decide)) (by decide))
      (by decide)) (by decide)
  exact fields.view _ (fun _ => rfl) (fun _ => rfl) (fun _ => rfl) (fun _ => rfl)

theorem matrixPart_restores : matrixPart.Restores (spellings .matrix) fun m => { m with
    rows := m.rows.map Choice.restored
    columns := m.columns.map Choice.restored } := by
  have fields := Part.Restores.both (choices_restores (.plain "rows"))
    (.both (choices_restores (.plain "columns")) (flag_restores (.plain "multiple")) (by decide))
    (by decide)
  exact fields.view _ (fun _ => rfl) (fun _ => rfl) (fun _ => rfl) (fun _ => rfl)

theorem mediaPart_restores : mediaPart.Restores (spellings .media)
    fun m => { m with choices := m.choices.map Choice.restored } := by
  have urls : (Part.field (.plain "urls") (.list .any) []).Restores [.plain "urls"] id :=
    (Part.Restores.given (.plain "urls") [] (Shape.list_restores Shape.any_restores)
      (fun _ => rfl) ⟨.arr [], rfl, rfl⟩).of_eq fun a => by simp
  have fields := Part.Restores.both (textOption_restores (.plain "url"))
    (.both urls
      (.both (textOption_restores (.plain "alt"))
        (.both (flag_restores (.plain "autoplay"))
          (.both (text_restores ⟨"interactionType", "interaction_type"⟩ "none")
            (.both (textOption_restores ⟨"questionLabel", "question_label"⟩)
              (.both (textOption_restores ⟨"sliderConfig", "slider_config"⟩)
                (choices_restores (.plain "choices"))
                (by decide)) (by decide)) (by decide)) (by decide)) (by decide)) (by decide))
    (by decide)
  exact fields.view _ (fun _ => rfl) (fun _ => rfl) (fun _ => rfl) (fun _ => rfl)

theorem part_restores (f : Family) : (part f).Restores (spellings f) restored := by
  cases f with
  | start =>
    have law := text_restores ⟨"welcomeMessage", "welcome_message"⟩ ""
    exact law.view .start (fun _ => rfl) (fun _ => rfl) (fun _ => rfl) (fun _ => rfl)
  | ending =>
    exact endingPart_restores.view (fun fields => .ending fields.1 fields.2.1 fields.2.2)
      (fun _ => rfl) (fun _ => rfl) (fun _ => rfl) (fun _ => rfl)
  | branch => exact .empty (fun _ => rfl) (fun _ => rfl) rfl rfl
  | text =>
    have law := Part.Restores.both (text_restores (.plain "placeholder") "")
      (flag_restores ⟨"longAnswer", "long_answer"⟩) (by decide)
    exact law.view (fun fields => .text fields.1 fields.2)
      (fun _ => rfl) (fun _ => rfl) (fun _ => rfl) (fun _ => rfl)
  | zipCode =>
    have law := Part.Restores.optional ⟨"allowedZips", "allowed_zips"⟩ zipCodes_restores
      fun _ => rfl
    exact law.view .zipCode (fun _ => rfl) (fun _ => rfl) (fun _ => rfl) fun z => by simp [restored]
  | multiInput =>
    have law := choices_restores ⟨"fields", "input_fields"⟩
    exact law.view .multiInput (fun _ => rfl) (fun _ => rfl) (fun _ => rfl) (fun _ => rfl)
  | numeric =>
    exact numericPart_restores.view (fun fields => .numeric fields.1 fields.2.1 fields.2.2)
      (fun _ => rfl) (fun _ => rfl) (fun _ => rfl) (fun _ => rfl)
  | choice =>
    exact choicePart_restores.view .choice
      (fun _ => rfl) (fun _ => rfl) (fun _ => rfl) (fun _ => rfl)
  | consent =>
    have law := text_restores ⟨"checkboxLabel", "checkbox_label"⟩ ""
    exact law.view .consent (fun _ => rfl) (fun _ => rfl) (fun _ => rfl) (fun _ => rfl)
  | rating =>
    have top : (Part.field ⟨"maxRating", "max_rating"⟩ .int 5).Restores
        [⟨"maxRating", "max_rating"⟩] id :=
      .given _ 5 Shape.int_restores (fun _ => rfl) ⟨.int 5, rfl, rfl⟩
    have law := Part.Restores.both (choices_restores (.plain "items")) top (by decide)
    exact law.view (fun fields => .rating fields.1 fields.2)
      (fun _ => rfl) (fun _ => rfl) (fun _ => rfl) (fun _ => rfl)
  | matrix =>
    exact matrixPart_restores.view .matrix
      (fun _ => rfl) (fun _ => rfl) (fun _ => rfl) (fun _ => rfl)
  | cascading =>
    have steps : (Part.field (.plain "steps") (.list .object) []).Restores [.plain "steps"] id :=
      (Part.Restores.given (.plain "steps") [] (Shape.list_restores Shape.object_restores)
        (fun _ => rfl) ⟨.arr [], rfl, rfl⟩).of_eq fun a => by simp
    exact steps.view .cascading (fun _ => rfl) (fun _ => rfl) (fun _ => rfl) (fun _ => rfl)
  | media =>
    exact mediaPart_restores.view .media
      (fun _ => rfl) (fun _ => rfl) (fun _ => rfl) (fun _ => rfl)

end Payload

namespace NodeData

/-- What is read of the data of a node besides what else was in the document. -/
def part (f : Family) : Part (Common × Payload) := commonPart.both (Payload.part f)

/-- The fields of the data of a node of this family. -/
def spellings (f : Family) : List Spelling :=
  [.plain "label", .plain "description", .plain "condition"] ++ Payload.spellings f

/-- Does a field hide something that the document gives under its other spelling? -/
def hides (f : Family) (es : Entries) : Bool := (spellings f).any (·.hides es)

/-- The data without the nulls among its other entries, and among those of its choices. -/
def restored (d : NodeData) : NodeData :=
  { d with payload := d.payload.restored, extras := Entries.written d.extras }

theorem commonPart_restores : commonPart.Restores
    [.plain "label", .plain "description", .plain "condition"] id := by
  have condition : (Part.field (.plain "condition") (.optional .condition) none).Restores
      [.plain "condition"] id :=
    (Part.Restores.optional _ condition_restores fun _ => rfl).of_eq fun a => by simp
  have fields := Part.Restores.both (text_restores (.plain "label") "")
    (.both (text_restores (.plain "description") "") condition (by decide)) (by decide)
  exact fields.of_eq fun _ => rfl

theorem part_restores (f : Family) :
    (part f).Restores (spellings f) (Prod.map id Payload.restored) := by
  refine commonPart_restores.both (Payload.part_restores f) ?_
  cases f <;> decide

variable {f : Family} {es : Entries} {d : NodeData}

theorem ofEntries_ok : ofEntries f es = .ok d ↔
    (part f).read es = .ok ((d.label, d.description, d.condition), d.payload) ∧
      (part f).others es = d.extras := by
  rw [ofEntries, Checked.both_ok, part, Part.both, Checked.both_ok]
  constructor
  · rintro ⟨⟨label, description, condition⟩, payload, common, own, rfl⟩
    exact ⟨⟨_, _, common, own, rfl⟩, rfl⟩
  · rintro ⟨⟨common, payload, hc, hp, same⟩, extras⟩
    cases same
    refine ⟨_, _, hc, hp, ?_⟩
    cases d
    subst extras
    rfl

theorem toJson_eq (h : ofEntries f es = .ok d) : d.toJson = .obj
    ((part f).write ((d.label, d.description, d.condition), d.payload) ++ (part f).beside es) := by
  rw [toJson, Part.beside, (ofEntries_ok.mp h).2]
  rfl

/-- Data in which no field hides anything is read as what it was written of. -/
theorem ofJson_toJson (hes : es.Finite) (h : ofEntries f es = .ok d) (shown : hides f es = false) :
    ofJson f d.toJson = .ok d.restored := by
  have clear : ∀ s ∈ spellings f, s.hides es = false := by simpa [hides] using shown
  obtain ⟨read, extras⟩ := ofEntries_ok.mp h
  obtain ⟨back, others⟩ := (part_restores f).read_stored hes read clear
  rw [toJson_eq h, ofJson, ofEntries_ok]
  refine ⟨back, ?_⟩
  rw [others, Part.beside, extras, restored]

theorem restored_toJson (hes : es.Finite) (h : ofEntries f es = .ok d) :
    d.restored.toJson = d.toJson := by
  obtain ⟨read, extras⟩ := ofEntries_ok.mp h
  have own := (part_restores f).again hes read
  have finite : d.extras.Finite := extras ▸ hes.filter _
  calc d.restored.toJson
    _ = .obj ((part f).write (Prod.map id Payload.restored
          ((d.label, d.description, d.condition), d.payload))
        ++ Entries.written (Entries.written d.extras)) := rfl
    _ = .obj ((part f).write ((d.label, d.description, d.condition), d.payload)
        ++ Entries.written d.extras) := by rw [own, finite.written_written]
    _ = d.toJson := rfl

/-- If a field hides something, other data is written next time, or the data is not read at all. -/
theorem stable_iff (hes : es.Finite) (h : ofEntries f es = .ok d) :
    (∃ d', ofJson f d.toJson = .ok d' ∧ d'.toJson = d.toJson) ↔ hides f es = false := by
  constructor
  · rintro ⟨d', again, same⟩
    by_contra hidden
    obtain ⟨s, hs, hidden⟩ := List.any_eq_true.mp (Bool.not_eq_false _ ▸ hidden)
    have read := (ofEntries_ok.mp h).1
    rw [toJson_eq h] at again same
    have read' := (ofEntries_ok.mp again).1
    exact (part_restores f).written_differs hes read hs hidden read' _ (Json.obj.inj same)
  · intro shown
    exact ⟨d.restored, ofJson_toJson hes h shown, restored_toJson hes h⟩

end NodeData
end Questionnaire
