import Questionnaire.Command.Run
import Questionnaire.Proofs.RuleCases
import Questionnaire.Proofs.StrayRoutes

namespace Questionnaire

namespace Files

variable {files : Files} {name : String}

theorem follow_not_zero (p : Place) (parts : List String) :
    files.follow p parts ≠ .error .zeroCharacter := by
  induction parts generalizing p with
  | nil => simp [follow]
  | cons part rest ih =>
    rw [follow]
    split
    · simp
    · split
      · simp
      · split
        · exact ih _
        · split <;> simp

theorem locate_zero : files.locate name = .error .zeroCharacter ↔ '\x00' ∈ name.toList := by
  rw [locate]
  split
  · rename_i zero
    simpa using zero
  · rename_i clean
    have clean : '\x00' ∉ name.toList := by simpa using clean
    split
    · simpa using clean
    · simpa [follow_not_zero] using clean

/-- What is done at the place of a name fails for a zero character only if the name holds one. -/
theorem located_zero {α : Type} {f : Place → Except NameFault α}
    (clean : ∀ p, f p ≠ .error .zeroCharacter) :
    (files.locate name >>= f) = .error .zeroCharacter ↔ '\x00' ∈ name.toList := by
  rw [← @locate_zero files name]
  cases located : files.locate name with
  | ok p => exact iff_of_false (clean p) nofun
  | error x => simp [bind, Except.bind]

theorem textAt_zero : files.textAt name = .error .zeroCharacter ↔ '\x00' ∈ name.toList := by
  refine located_zero fun p => ?_
  split
  · nofun
  · split <;> simp

theorem writable_zero : files.writable name = .error .zeroCharacter ↔ '\x00' ∈ name.toList := by
  refine located_zero fun p => ?_
  split
  · simp
  · nofun

theorem named_zero {α : Type} {op : String → Except NameFault α}
    (zero : ∀ n, op n = .error .zeroCharacter ↔ '\x00' ∈ n.toList) :
    (∃ e, named op name = .error e ∧ e.fault = .zeroCharacter) ↔
      '\x00' ∈ (plainName name).toList := by
  rw [← zero, named]
  cases op (plainName name) with
  | ok a => simp [Except.mapError]
  | error x => simp [Except.mapError]

end Files

namespace Command

/-- What becomes of a failure: it is reported, it is passed on, or it says that the work is not
followed so far as to tell. -/
inductive Fate where
  | reported
  | passedOn
  | untold
deriving DecidableEq

def Failure.fate : Failure → Fate
  | .walk e => if e.isTold then .reported else .passedOn
  | .faults _ | .malformed .. => .reported
  | .file e => if e.fault = .zeroCharacter then .passedOn else .reported
  | .unusable _ | .nameless | .numeralTooLong => .passedOn
  | .beyond _ => .untold

theorem Failure.report?_isSome (describe : List Fault → String) (x : Failure) :
    (x.report? describe).isSome = true ↔ x.fate = .reported := by
  cases x with
  | walk e => cases e <;> simp [report?, fate, WalkError.isTold]
  | file e =>
    rw [report?, fate]
    split <;> simp
  | _ => simp [report?, fate]

theorem Failure.of_untold {x : Failure} (h : x.fate = .untold) : ∃ excess, x = .beyond excess := by
  cases x with
  | beyond excess => exact ⟨excess, rfl⟩
  | walk | file =>
    rw [fate] at h
    split at h <;> cases h
  | _ => cases h

/-- It ends in a failure of this fate. -/
def Fails {α : Type} (d : Fate) (w : Except Failure α) : Prop := ∃ x, w = .error x ∧ x.fate = d

section

variable {α β : Type} {d : Fate} {w : Except Failure α}

@[simp] theorem fails_ok (a : α) : ¬ Fails d (.ok a : Except Failure α) := nofun

@[simp] theorem fails_pure (a : α) : ¬ Fails d (pure a : Except Failure α) := nofun

@[simp] theorem fails_error {x : Failure} :
    Fails d (.error x : Except Failure α) ↔ x.fate = d := by simp [Fails]

theorem fails_bind {f : α → Except Failure β} :
    Fails d (w >>= f) ↔ Fails d w ∨ ∃ a, w = .ok a ∧ Fails d (f a) := by
  cases w with
  | ok a => simp [bind, Except.bind]
  | error x => simp [bind, Except.bind]

theorem fails_mapError {ε : Type} {v : Except ε α} {wrap : ε → Failure} :
    Fails d (v.mapError wrap) ↔ ∃ x, v = .error x ∧ (wrap x).fate = d := by
  cases v <;> simp [Except.mapError]

theorem bind_ok {f : α → Except Failure β} {b : β} :
    (w >>= f) = .ok b ↔ ∃ a, w = .ok a ∧ f a = .ok b := by
  cases w <;> simp [bind, Except.bind]

end

/-- A file cannot be read as a document, and this is not reported: its name holds a zero character,
a whole number in its text is too long, or the text goes beyond those that are read. -/
inductive Unreadable (files : Files) (name : String) : Fate → Prop
  | zero : '\x00' ∈ (Files.plainName name).toList → Unreadable files name .passedOn
  | numeral {text} : files.read name = .ok text → Json.read text = .error .numeralTooLong →
      Unreadable files name .passedOn
  | beyond {text excess} : files.read name = .ok text →
      Json.read text = .error (.beyond excess) → Unreadable files name .untold

/-- A document is no design: it is no object, or what it gives as its nodes or edges has no
members. -/
inductive Shapeless : Json → Prop
  | other {j} : (∀ es, j ≠ .obj es) → Shapeless j
  | memberless {es name} : name ∈ ["nodes", "edges"] → ((Json.obj es).getD name).isGiven = true →
      Design.members? ((Json.obj es).getD name) = none → Shapeless (.obj es)

/-- The design in a file is compiled without a fault. -/
def Compiles (files : Files) (ids : IdSupply) (design : String) : Prop :=
  ∃ g, (compileFile files ids design).2 = .ok g

def Action.design : Action → String
  | .validate design _ | .compile design _ | .path design _ _ | .next design _ _ => design

/-- The name of the file of answers, if the action asks for one. -/
def Action.answers? : Action → Option (Option String)
  | .path _ responses _ | .next _ _ responses => some responses
  | .validate .. | .compile .. => none

/-- The inputs for which an action ends in a failure that is not reported, each at the point where
the work comes to it. -/
inductive Unreported (files : Files) (ids : IdSupply) : Action → Fate → Prop
  | design {a d} : Unreadable files a.design d → Unreported files ids a d
  | shape {a j} : readJson files a.design = .ok j → Shapeless j → Unreported files ids a .passedOn
  | output {design name} : Compiles files ids design → '\x00' ∈ (Files.plainName name).toList →
      Unreported files ids (.compile design (some name)) .passedOn
  | answers {a name d} : a.answers? = some (some name) → Compiles files ids a.design →
      Unreadable files name d → Unreported files ids a d
  | unnamed {a} : a.answers? = some none → Compiles files ids a.design →
      Unreported files ids a .passedOn
  | node {design name j} : Compiles files ids design → readJson files name = .ok j →
      Unreported files ids (.next design none (some name)) .passedOn

section

variable {files : Files} {ids : IdSupply} {settings : Settings} {name design : String} {d : Fate}

theorem Unreadable.ne_reported (h : Unreadable files name d) : d ≠ .reported := by
  cases h <;> nofun

theorem Unreported.ne_reported {a : Action} (h : Unreported files ids a d) : d ≠ .reported := by
  cases h with
  | design unread | answers _ _ unread => exact unread.ne_reported
  | _ => nofun

theorem fails_readJson (hd : d ≠ .reported) :
    Fails d (readJson files name) ↔ Unreadable files name d := by
  have named : (∃ e, Files.named files.textAt name = .error e ∧ e.fault = .zeroCharacter) ↔
      '\x00' ∈ (Files.plainName name).toList := Files.named_zero fun _ => Files.textAt_zero
  rw [readJson, fails_bind, fails_mapError]
  constructor
  · rintro (⟨e, unread, fate⟩ | ⟨text, read, fails⟩)
    · rw [Failure.fate] at fate
      split at fate
      · rename_i zero
        exact fate ▸ .zero (named.mp ⟨e, unread, zero⟩)
      · exact absurd fate.symm hd
    · have read := mapError_ok.mp read
      split at fails
      · exact absurd fails (fails_ok _)
      · exact absurd (fails_error.mp fails).symm hd
      · exact fails_error.mp fails ▸ .numeral read ‹_›
      · exact fails_error.mp fails ▸ .beyond read ‹_›
  · rintro (zero | ⟨read, long⟩ | ⟨read, excess⟩)
    · obtain ⟨e, unread, fault⟩ := named.mpr zero
      exact .inl ⟨e, unread, by rw [Failure.fate, if_pos fault]⟩
    · exact .inr ⟨_, mapError_ok.mpr read, by rw [long]; exact fails_error.mpr rfl⟩
    · exact .inr ⟨_, mapError_ok.mpr read, by rw [excess]; exact fails_error.mpr rfl⟩

theorem listed_error {j : Json} {u : Design.Unusable} :
    Design.listed j = .error u ↔ u = .notList ∧ j.isGiven = true ∧ Design.members? j = none := by
  rw [Design.listed]
  cases j.isGiven with
  | false => simp
  | true =>
    cases Design.members? j <;> simp [eq_comm]

theorem split_error {j : Json} : (∃ u, Design.split j = .error u) ↔ Shapeless j := by
  constructor
  · rintro ⟨u, failed⟩
    rw [Design.split.eq_def] at failed
    split at failed
    · rename_i es
      cases nodes : Design.listed ((Json.obj es).getD "nodes") with
      | error u =>
        obtain ⟨-, given, memberless⟩ := listed_error.mp nodes
        exact .memberless (List.mem_pair.mpr (.inl rfl)) given memberless
      | ok ns =>
        cases edges : Design.listed ((Json.obj es).getD "edges") with
        | error u =>
          obtain ⟨-, given, memberless⟩ := listed_error.mp edges
          exact .memberless (List.mem_pair.mpr (.inr rfl)) given memberless
        | ok es =>
          rw [nodes, edges] at failed
          cases failed
    · rename_i other
      exact .other fun es same => other es same
  · intro shapeless
    cases shapeless with
    | other other =>
      refine ⟨.notObject, ?_⟩
      cases j with
      | obj es => exact absurd rfl (other es)
      | _ => rfl
    | @memberless es name listed given memberless =>
      have failed : Design.listed ((Json.obj es).getD name) = .error .notList :=
        listed_error.mpr ⟨rfl, given, memberless⟩
      rw [Design.split]
      rcases List.mem_pair.mp listed with rfl | rfl
      · exact ⟨.notList, by rw [failed]; rfl⟩
      · rw [failed]
        cases Design.listed ((Json.obj es).getD "nodes") with
        | error u => exact ⟨u, rfl⟩
        | ok ns => exact ⟨.notList, rfl⟩

theorem fails_readDesign (hd : d ≠ .reported) : Fails d (readDesign files name) ↔
    Unreadable files name d ∨
      d = .passedOn ∧ ∃ j, readJson files name = .ok j ∧ Shapeless j := by
  have unusable : (∃ j, readJson files name = .ok j ∧
      ∃ u, Design.split j = .error u ∧ (Failure.unusable u).fate = d) ↔
      d = .passedOn ∧ ∃ j, readJson files name = .ok j ∧ Shapeless j := by
    simp only [← split_error, Failure.fate]
    constructor
    · rintro ⟨j, read, u, failed, rfl⟩
      exact ⟨rfl, j, read, u, failed⟩
    · rintro ⟨rfl, j, read, u, failed⟩
      exact ⟨j, read, u, failed, rfl⟩
  simp only [readDesign, fails_bind, fails_readJson hd, fails_mapError, unusable]

/-- How the check of a design is reported. -/
theorem validate_result (files : Files) (ids : IdSupply) (design : String) (json : Bool) :
    ∃ text : List Json × List Json → String,
    (validate files ids design json).result = (readDesign files design >>= fun lists =>
      pure (if Problem.isValid (Draft.ofRaw ids lists.1 lists.2).validate then 0 else 1,
        text lists, none)) := by
  unfold validate
  cases readDesign files design with
  | error x => exact ⟨fun _ => "", rfl⟩
  | ok lists => exact ⟨fun _ => _, rfl⟩

theorem fails_validate {json : Bool} :
    Fails d (validate files ids design json).result ↔ Fails d (readDesign files design) := by
  obtain ⟨text, result⟩ := validate_result files ids design json
  rw [result, fails_bind]
  simp only [fails_pure, and_false, exists_false, or_false]

theorem fails_compileFile (hd : d ≠ .reported) :
    Fails d (compileFile files ids design).2 ↔ Fails d (readDesign files design) := by
  unfold compileFile
  split
  · rename_i x unread
    rw [unread, fails_error, fails_error]
  · rename_i nodes edges read
    rw [read]
    refine iff_of_false ?_ (fails_ok _)
    rw [fails_mapError]
    rintro ⟨fs, -, rfl⟩
    exact hd rfl

theorem fails_target (hd : d ≠ .reported) : Fails d ((files.target name).mapError .file) ↔
    d = .passedOn ∧ '\x00' ∈ (Files.plainName name).toList := by
  have named : (∃ e, Files.named files.writable name = .error e ∧ e.fault = .zeroCharacter) ↔
      '\x00' ∈ (Files.plainName name).toList := Files.named_zero fun _ => Files.writable_zero
  rw [← named, Files.target, fails_mapError]
  cases Files.named files.writable name with
  | ok place => simp [Except.map]
  | error e =>
    by_cases zero : e.fault = .zeroCharacter
    · simp [Except.map, Failure.fate, zero, eq_comm]
    · simp [Except.map, Failure.fate, zero, hd.symm]

/-- A compiled design is printed, or written to the file that is named for it. -/
def deliver (files : Files) (output : Option String) (g : Graph) :
    Except Failure (Nat × String × Option (String × String)) :=
  match output.filter (!·.isEmpty) with
  | none => pure (printed (g.toJson.pretty 0))
  | some name => (files.target name).mapError .file >>= fun place =>
      pure (0, "", some (place, g.toJson.pretty 0 ++ "\n"))

theorem compile_result {output : Option String} : (compile files ids design output).result =
    ((compileFile files ids design).2 >>= deliver files output) := by
  unfold compile deliver
  rcases compileFile files ids design with ⟨records, x | g⟩
  · rfl
  · cases output.filter (!·.isEmpty) <;> rfl

theorem fails_deliver (hd : d ≠ .reported) {output : Option String} {g : Graph} :
    Fails d (deliver files output g) ↔
      d = .passedOn ∧ ∃ name, output = some name ∧ '\x00' ∈ (Files.plainName name).toList := by
  rw [deliver]
  cases given : output.filter (!·.isEmpty) with
  | none =>
    -- without a name the text is printed, and the empty name holds no zero character
    refine iff_of_false (fails_pure _) ?_
    rintro ⟨-, name, rfl, zero⟩
    have empty : name = "" := by simpa using given
    subst empty
    revert zero
    decide +kernel
  | some name =>
    obtain ⟨rfl, -⟩ := Option.filter_eq_some_iff.mp given
    simp only [fails_bind, fails_target hd, fails_pure, and_false, exists_false, or_false,
      Option.some.injEq, exists_eq_left']

theorem fails_compile (hd : d ≠ .reported) {output : Option String} :
    Fails d (compile files ids design output).result ↔ Fails d (readDesign files design) ∨
      Compiles files ids design ∧ d = .passedOn ∧
        ∃ name, output = some name ∧ '\x00' ∈ (Files.plainName name).toList := by
  rw [compile_result, fails_bind, fails_compileFile hd]
  refine or_congr_right ?_
  simp only [fails_deliver hd, Compiles, exists_and_right]

/-- The engine of a design's graph, under the settings. -/
def engineOf (settings : Settings) (g : Graph) : Engine :=
  Engine.ofGraph g settings.otherValue settings.defaultOtherLabel

theorem withEngine_result {responses : Option String} {use : Engine → Json → Work} :
    (withEngine files settings ids design responses use).result =
      ((compileFile files ids design).2 >>= fun g =>
        responses.elim (.error .nameless) (readJson files) >>= fun answers =>
          (use (engineOf settings g) answers).result) := by
  unfold withEngine
  rcases compileFile files ids design with ⟨records, x | g⟩
  · rfl
  · cases responses.elim (.error .nameless) (readJson files) <;> rfl

theorem fails_withEngine (hd : d ≠ .reported) {responses : Option String}
    {use : Engine → Json → Work} :
    Fails d (withEngine files settings ids design responses use).result ↔
      Fails d (readDesign files design) ∨ ∃ g, (compileFile files ids design).2 = .ok g ∧
        (responses = none ∧ d = .passedOn ∨ ∃ name, responses = some name ∧
          (Unreadable files name d ∨ ∃ j, readJson files name = .ok j ∧
            Fails d (use (engineOf settings g) j).result)) := by
  rw [withEngine_result, fails_bind, fails_compileFile hd]
  refine or_congr_right (exists_congr fun g => and_congr_right fun _ => ?_)
  rw [fails_bind]
  cases responses with
  | none => simp [Failure.fate, eq_comm]
  | some name => simp [fails_readJson hd]

/-- A compiled design has no bundle for a route, so no walk through it breaks. -/
theorem compiled_not_astray {g : Graph} (compiled : (compileFile files ids design).2 = .ok g)
    (evaluator : Evaluator) (r : Json) (k : String) : ¬ Engine.Astray ⟨g, evaluator⟩ r k := by
  rintro ⟨a, n, j, -, found, taken, bundle⟩
  have named : g.RoutesNamed := by
    unfold compileFile at compiled
    split at compiled
    · cases compiled
    · obtain ⟨ns, es, rfl, -⟩ := Graph.compileRaw_typed (mapError_ok.mp compiled)
      exact Graph.routesNamed_compile ns es
  rcases named a n found j (Engine.route_slot (Engine.route_takes.mpr taken)) with rfl | ⟨id, rfl⟩
  · cases bundle
  · cases bundle

theorem breaks_of_fate {α : Type} {w : Except WalkError α} {x : WalkError} (failed : w = .error x)
    (unreported : (Failure.walk x).fate ≠ .reported) : Breaks w := by
  refine ⟨x, failed, ?_⟩
  rw [Failure.fate] at unreported
  cases told : x.isTold with
  | true => exact absurd (if_pos told) unreported
  | false => rfl

theorem not_fails_path (hd : d ≠ .reported) {g : Graph}
    (compiled : (compileFile files ids design).2 = .ok g) (json : Bool) (answers : Json) :
    ¬ Fails d (path json (engineOf settings g) answers).result := by
  unfold path
  rw [fails_bind, fails_mapError]
  rintro (⟨x, failed, rfl⟩ | ⟨t, -, fails⟩)
  · obtain ⟨-, -, n, -, -, -, astray⟩ :=
      Engine.trace_unusable.mp (breaks_iff.mp (breaks_of_fate failed hd))
    exact compiled_not_astray compiled _ _ _ astray
  · exact fails_ok _ fails

theorem fails_next (hd : d ≠ .reported) {g : Graph}
    (compiled : (compileFile files ids design).2 = .ok g) {node : Option String} {answers : Json} :
    Fails d (next node (engineOf settings g) answers).result ↔ node = none ∧ d = .passedOn := by
  cases node with
  | none => simp [next, Failure.fate, eq_comm]
  | some node =>
    refine iff_of_false ?_ nofun
    unfold next
    rw [fails_bind, fails_mapError]
    rintro (⟨x, failed, rfl⟩ | ⟨n, -, fails⟩)
    · exact compiled_not_astray compiled _ _ _
        (Engine.next_unusable.mp (breaks_iff.mp (breaks_of_fate failed hd)))
    · exact fails_ok _ fails

theorem fails_of_design (hd : d ≠ .reported) {a : Action}
    (h : Fails d (readDesign files a.design)) : Fails d (perform files settings ids a).result := by
  cases a with
  | validate =>
    rw [perform, fails_validate]
    exact h
  | compile =>
    rw [perform, fails_compile hd]
    exact .inl h
  | path | next =>
    rw [perform, fails_withEngine hd]
    exact .inl h

theorem unreported_of_design (hd : d ≠ .reported) {a : Action}
    (h : Fails d (readDesign files a.design)) : Unreported files ids a d := by
  rcases (fails_readDesign hd).mp h with unread | ⟨rfl, j, read, shapeless⟩
  · exact .design unread
  · exact .shape read shapeless

theorem unreported_of_perform (hd : d ≠ .reported) {a : Action}
    (h : Fails d (perform files settings ids a).result) : Unreported files ids a d := by
  cases a with
  | validate design json =>
    rw [perform, fails_validate] at h
    exact unreported_of_design hd h
  | compile design output =>
    rw [perform, fails_compile hd] at h
    rcases h with fails | ⟨compiles, rfl, name, rfl, zero⟩
    · exact unreported_of_design hd fails
    · exact .output compiles zero
  | path design responses json =>
    rw [perform, fails_withEngine hd] at h
    rcases h with fails | ⟨g, compiled, ⟨rfl, rfl⟩ | ⟨name, rfl, unread | ⟨j, -, fails⟩⟩⟩
    · exact unreported_of_design hd fails
    · exact .unnamed rfl ⟨g, compiled⟩
    · exact .answers rfl ⟨g, compiled⟩ unread
    · exact absurd fails (not_fails_path hd compiled json j)
  | next design node responses =>
    rw [perform, fails_withEngine hd] at h
    rcases h with fails | ⟨g, compiled, ⟨rfl, rfl⟩ | ⟨name, rfl, unread | ⟨j, read, fails⟩⟩⟩
    · exact unreported_of_design hd fails
    · exact .unnamed rfl ⟨g, compiled⟩
    · exact .answers rfl ⟨g, compiled⟩ unread
    · obtain ⟨rfl, rfl⟩ := (fails_next hd compiled).mp fails
      exact .node ⟨g, compiled⟩ read

theorem perform_of_unreported {a : Action} (h : Unreported files ids a d) :
    Fails d (perform files settings ids a).result := by
  have hd := h.ne_reported
  cases h with
  | design unread => exact fails_of_design hd ((fails_readDesign hd).mpr (.inl unread))
  | shape read shapeless =>
    exact fails_of_design hd ((fails_readDesign hd).mpr (.inr ⟨rfl, _, read, shapeless⟩))
  | output compiles zero =>
    rw [perform, fails_compile hd]
    exact .inr ⟨compiles, rfl, _, rfl, zero⟩
  | answers asked compiles unread =>
    obtain ⟨g, compiled⟩ := compiles
    cases a with
    | validate | compile => cases asked
    | path | next =>
      obtain rfl := Option.some.inj asked
      rw [perform, fails_withEngine hd]
      exact .inr ⟨g, compiled, .inr ⟨_, rfl, .inl unread⟩⟩
  | unnamed asked compiles =>
    obtain ⟨g, compiled⟩ := compiles
    cases a with
    | validate | compile => cases asked
    | path | next =>
      obtain rfl := Option.some.inj asked
      rw [perform, fails_withEngine hd]
      exact .inr ⟨g, compiled, .inl ⟨rfl, rfl⟩⟩
  | node compiles read =>
    obtain ⟨g, compiled⟩ := compiles
    rw [perform, fails_withEngine hd]
    exact .inr ⟨g, compiled,
      .inr ⟨_, rfl, .inr ⟨_, read, (fails_next hd compiled).mpr ⟨rfl, rfl⟩⟩⟩⟩

/-- The work of an action ends unreported exactly for the inputs listed. -/
theorem fails_perform (hd : d ≠ .reported) {a : Action} :
    Fails d (perform files settings ids a).result ↔ Unreported files ids a d :=
  ⟨unreported_of_perform hd, perform_of_unreported⟩

/-- With what exit code the work of a command is done, and what is to be written then. -/
inductive Finishes (files : Files) (ids : IdSupply) :
    Action → Nat → Option (String × String) → Prop
  | judged {design json nodes edges} : readDesign files design = .ok (nodes, edges) →
      Finishes files ids (.validate design json)
        (if Problem.isValid (Draft.ofRaw ids nodes edges).validate then 0 else 1) none
  | printed {design output} : Finishes files ids (.compile design output) 0 none
  | stored {design name place text} : files.target name = .ok place →
      Finishes files ids (.compile design (some name)) 0 (some (place, text))
  | walked {design responses json} : Finishes files ids (.path design responses json) 0 none
  | moved {design node responses} : Finishes files ids (.next design node responses) 0 none

theorem perform_finishes {a : Action} {exit : Nat} {output : String}
    {written : Option (String × String)}
    (h : (perform files settings ids a).result = .ok (exit, output, written)) :
    Finishes files ids a exit written := by
  cases a with
  | validate design json =>
    obtain ⟨text, result⟩ := validate_result files ids design json
    rw [perform, result, bind_ok] at h
    obtain ⟨lists, read, h⟩ := h
    cases h
    exact .judged read
  | compile design name? =>
    rw [perform, compile_result, bind_ok] at h
    obtain ⟨g, -, h⟩ := h
    unfold deliver at h
    split at h
    · cases h
      exact .printed
    · rename_i name given
      obtain ⟨rfl, -⟩ := Option.filter_eq_some_iff.mp given
      obtain ⟨place, target, h⟩ := bind_ok.mp h
      cases h
      exact .stored (mapError_ok.mp target)
  | path design responses json =>
    rw [perform, withEngine_result, bind_ok] at h
    obtain ⟨g, -, h⟩ := h
    obtain ⟨answers, -, h⟩ := bind_ok.mp h
    obtain ⟨t, -, h⟩ := bind_ok.mp h
    cases json <;> cases h <;> exact .walked
  | next design node responses =>
    rw [perform, withEngine_result, bind_ok] at h
    obtain ⟨g, -, h⟩ := h
    obtain ⟨answers, -, h⟩ := bind_ok.mp h
    cases node with
    | none => cases h
    | some node =>
      obtain ⟨n, -, h⟩ := bind_ok.mp h
      cases h
      exact .moved

/-- A design is checked, and it is not valid. -/
def Rejects (files : Files) (ids : IdSupply) (a : Action) : Prop :=
  ∃ design json nodes edges, a = .validate design json ∧
    readDesign files design = .ok (nodes, edges) ∧
      Problem.isValid (Draft.ofRaw ids nodes edges).validate = false

theorem Rejects.performed {a : Action} (h : Rejects files ids a) (settings : Settings) :
    ∃ done, (perform files settings ids a).result = .ok done := by
  obtain ⟨design, json, nodes, edges, rfl, read, -⟩ := h
  obtain ⟨text, result⟩ := validate_result files ids design json
  rw [perform, result, read]
  exact ⟨_, rfl⟩

theorem Finishes.exit {a : Action} {exit : Nat} {written : Option (String × String)}
    (h : Finishes files ids a exit written) : exit ≤ 1 ∧ (exit = 1 ↔ Rejects files ids a) := by
  have accepts {b : Action} (other : ∀ design json, b ≠ .validate design json) :
      (0 : Nat) ≤ 1 ∧ (0 = 1 ↔ Rejects files ids b) := by
    refine ⟨Nat.zero_le 1, iff_of_false Nat.zero_ne_one ?_⟩
    rintro ⟨design, json, nodes, edges, rfl, -⟩
    exact other design json rfl
  cases h with
  | @judged design json nodes edges read =>
    cases verdict : Problem.isValid (Draft.ofRaw ids nodes edges).validate with
    | false => exact ⟨Nat.le_refl 1, iff_of_true rfl ⟨_, _, _, _, rfl, read, verdict⟩⟩
    | true =>
      refine ⟨Nat.zero_le 1, iff_of_false (by simp) ?_⟩
      rintro ⟨_, _, _, _, same, read', rejected⟩
      cases same
      cases read.symm.trans read'
      rw [verdict] at rejected
      cases rejected
  | _ => exact accepts nofun

theorem Finishes.stored_only {a : Action} {exit : Nat} {place text : String}
    (h : Finishes files ids a exit (some (place, text))) :
    exit = 0 ∧ ∃ design name, a = .compile design (some name) ∧ files.target name = .ok place := by
  cases h with
  | stored target => exact ⟨rfl, _, _, rfl, target⟩

end

/-- What a run reports of an action by its exit code, and what it leaves behind. -/
structure Reports (files : Files) (ids : IdSupply) (a : Action) (r : Report) : Prop where
  exit : r.exit = 0 ∨ r.exit = 1 ∨ r.exit = 2
  rejected : r.exit = 1 ↔ Rejects files ids a
  failed : r.exit = 2 ↔ r.complaint.isSome = true
  untouched : r.exit = 2 → r.written = none
  stored : ∀ place text, r.written = some (place, text) → r.exit = 0 ∧
    ∃ design name, a = .compile design (some name) ∧ files.target name = .ok place

section

variable {describe : List Fault → String} {files : Files} {known : Settings} {told : List String}
  {ids : IdSupply} {request : Request}

theorem carryOut_broken {x : Failure} (hx : x.fate ≠ .reported)
    (failed : (perform files known ids request.action).result = .error x) :
    carryOut describe files known told ids request = .broken x := by
  rw [carryOut, failed]
  dsimp only
  cases report : x.report? describe with
  | none => rfl
  | some text => exact absurd ((Failure.report?_isSome describe x).mp (by rw [report]; rfl)) hx

theorem carryOut_done
    (h : ∀ d, d ≠ .reported → ¬ Fails d (perform files known ids request.action).result) :
    ∃ r, carryOut describe files known told ids request = .done r ∧
      Reports files ids request.action r := by
  rw [carryOut]
  cases work : (perform files known ids request.action).result with
  | ok done =>
    obtain ⟨exit, output, written⟩ := done
    have finishes := perform_finishes work
    obtain ⟨small, rejected⟩ := finishes.exit
    have ended : exit ≠ 2 := by omega
    refine ⟨_, rfl, ?_, rejected, ?_, ?_, ?_⟩
    · dsimp only
      omega
    · exact iff_of_false ended nofun
    · exact fun failed => absurd failed ended
    · rintro place text rfl
      exact finishes.stored_only
  | error x =>
    have reported : x.fate = .reported := by
      by_contra unreported
      exact h _ unreported ⟨x, work, rfl⟩
    obtain ⟨text, report⟩ := Option.isSome_iff_exists.mp
      ((Failure.report?_isSome describe x).mpr reported)
    dsimp only
    rw [report]
    refine ⟨_, rfl, .inr (.inr rfl), ?_, iff_of_true rfl rfl, fun _ => rfl, nofun⟩
    refine iff_of_false (by simp) fun rejects => ?_
    -- a design that is rejected was read, and its check does not fail
    obtain ⟨done, performed⟩ := rejects.performed known
    rw [work] at performed
    cases performed

theorem run_eq_carryOut {environment : List (String × String)} {args : List String}
    (parsed : Request.ofArguments args = .ok request)
    (valid : settings environment files = .ok known) :
    run describe environment files ids args =
      carryOut describe files known (warnings environment files) ids request := by
  rw [run, parsed]
  dsimp only
  rw [valid]

end

/-- A command whose arguments are understood and whose settings are valid ends with a report, unless
its inputs are among those that are not reported. Of texts that go beyond those that are read
nothing more is said; for all other such inputs the failure is passed on. A report says with 1 that
a design was checked and is not valid, and with 2 that something failed, after which nothing is
written. -/
theorem run_reports (describe : List Fault → String) (environment : List (String × String))
    (files : Files) (ids : IdSupply) (args : List String) (request : Request) (known : Settings)
    (parsed : Request.ofArguments args = .ok request)
    (valid : settings environment files = .ok known) :
    (Unreported files ids request.action .untold ∧
      ∃ excess, run describe environment files ids args = .broken (.beyond excess)) ∨
    (Unreported files ids request.action .passedOn ∧
      ∃ x, x.fate = .passedOn ∧ run describe environment files ids args = .broken x) ∨
    ((∀ d, ¬ Unreported files ids request.action d) ∧
      ∃ r, run describe environment files ids args = .done r ∧
        Reports files ids request.action r) := by
  rw [run_eq_carryOut parsed valid]
  by_cases untold : Unreported files ids request.action .untold
  · obtain ⟨x, failed, fate⟩ := perform_of_unreported untold
    obtain ⟨excess, rfl⟩ := Failure.of_untold fate
    exact .inl ⟨untold, excess, carryOut_broken nofun failed⟩
  by_cases passedOn : Unreported files ids request.action .passedOn
  · obtain ⟨x, failed, fate⟩ := perform_of_unreported passedOn
    exact .inr (.inl ⟨passedOn, x, fate, carryOut_broken (fate ▸ passedOn.ne_reported) failed⟩)
  · have reported : ∀ d, ¬ Unreported files ids request.action d
      | .reported => fun h => h.ne_reported rfl
      | .passedOn => passedOn
      | .untold => untold
    exact .inr (.inr ⟨reported, carryOut_done fun d hd => mt (fails_perform hd).mp (reported d)⟩)

/-- A folder with a design in it, and without settings. -/
def folder (design : String) : Files := [(".env", ""), ("d", design)]

theorem folder_settings (design : String) :
    settings [] (folder design) = .ok ⟨.info, false, "other", "Other"⟩ := by
  have plain : Files.plainName ".env" = ".env" := by decide +kernel
  have parts : Files.parts ".env" = [".env"] := by decide +kernel
  have read : (folder design).read ".env" = .ok "" := by
    rw [Files.read, Files.named, plain, Files.textAt, Files.locate, parts]
    rfl
  rw [settings, assignments, read]
  decide +kernel

theorem folder_read (design : String) :
    (folder design).read "d" = .ok (String.ofList (Files.unifyBreaks design.toList)) := by
  have plain : Files.plainName "d" = "d" := by decide +kernel
  have parts : Files.parts "d" = ["d"] := by decide +kernel
  rw [Files.read, Files.named, plain, Files.textAt, Files.locate, parts]
  rfl

/-- A design without nodes is read, checked and rejected. -/
theorem run_reports_folder :
    Request.ofArguments ["validate", "d"] = .ok ⟨none, .validate "d" false⟩ ∧
    settings [] (folder "\x7b\x7d") = .ok ⟨.info, false, "other", "Other"⟩ ∧
    ∃ r, run Fault.report [] (folder "\x7b\x7d") ⟨toString, 0⟩ ["validate", "d"] = .done r ∧
      r.exit = 1 := by
  have parsed : Request.ofArguments ["validate", "d"] = .ok ⟨none, .validate "d" false⟩ := by
    decide +kernel
  have read : readDesign (folder "\x7b\x7d") "d" = .ok ([], []) := by
    rw [readDesign, readJson, folder_read]
    decide +kernel
  have rejects : Rejects (folder "\x7b\x7d") ⟨toString, 0⟩ (.validate "d" false) :=
    ⟨_, _, _, _, rfl, read, by decide +kernel⟩
  have reported {d : Fate} (hd : d ≠ .reported) :
      ¬ Unreported (folder "\x7b\x7d") ⟨toString, 0⟩ (.validate "d" false) d := by
    intro h
    obtain ⟨done, performed⟩ := rejects.performed ⟨.info, false, "other", "Other"⟩
    obtain ⟨x, failed, -⟩ := perform_of_unreported h
    cases failed.symm.trans performed
  refine ⟨parsed, folder_settings _, ?_⟩
  rcases run_reports Fault.report [] _ ⟨toString, 0⟩ _ _ _ parsed (folder_settings "\x7b\x7d")
    with ⟨untold, -⟩ | ⟨passedOn, -⟩ | ⟨-, r, done, reports⟩
  · exact absurd untold (reported nofun)
  · exact absurd passedOn (reported nofun)
  · exact ⟨r, done, reports.rejected.mpr rejects⟩

/-- A list in the place of a design breaks the command that checks it. -/
theorem list_unreported :
    Request.ofArguments ["validate", "d"] = .ok ⟨none, .validate "d" false⟩ ∧
    settings [] (folder "[]") = .ok ⟨.info, false, "other", "Other"⟩ ∧
    run Fault.report [] (folder "[]") ⟨toString, 0⟩ ["validate", "d"]
      = .broken (.unusable .notObject) := by
  have parsed : Request.ofArguments ["validate", "d"] = .ok ⟨none, .validate "d" false⟩ := by
    decide +kernel
  have read : readDesign (folder "[]") "d" = .error (.unusable .notObject) := by
    rw [readDesign, readJson, folder_read]
    decide +kernel
  refine ⟨parsed, folder_settings _, ?_⟩
  rw [run_eq_carryOut parsed (folder_settings _)]
  obtain ⟨text, result⟩ := validate_result (folder "[]") ⟨toString, 0⟩ "d" false
  refine carryOut_broken nofun ?_
  rw [perform, result, read]
  rfl

end Command
end Questionnaire
