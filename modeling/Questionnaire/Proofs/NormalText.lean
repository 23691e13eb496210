import Questionnaire.Proofs.LowerCase

namespace Questionnaire

namespace Text

theorem foldGaps_nil {gap : Bool} {cs : List Char} : foldGaps gap cs = [] ↔ cs.all isBlank := by
  induction cs generalizing gap with
  | nil => simp [foldGaps]
  | cons c cs ih =>
    cases blank : isBlank c <;> cases gap <;> simp [foldGaps, blank, ih]

theorem squeeze_nil {cs : List Char} : squeeze cs = [] ↔ cs.all isBlank := by
  rw [squeeze, foldGaps_nil]
  induction cs with
  | nil => simp
  | cons c cs ih => cases blank : isBlank c <;> simp [blank, ih]

theorem lower_nil {cs : List Char} : lower cs = [] ↔ cs = [] := by
  cases cs with
  | nil => simp [lower, lowerFrom]
  | cons c cs =>
    obtain ⟨ds, lowers, eq⟩ := lowerFrom_cons [] c cs
    simp [lower, eq, lowers.nonempty]

/-- There is no white space but single plain spaces, and none at the end. -/
inductive Spaced : List Char → Prop
  | nil : Spaced []
  | char {c : Char} {cs : List Char} : isBlank c = false → Spaced cs → Spaced (c :: cs)
  | gap {c : Char} {cs : List Char} : isBlank c = false → Spaced cs → Spaced (' ' :: c :: cs)

theorem spaced_foldGaps (gap : Bool) (cs : List Char) : Spaced (foldGaps gap cs) := by
  induction cs generalizing gap with
  | nil => exact .nil
  | cons c cs ih =>
    rw [foldGaps]
    cases blank : isBlank c with
    | true => exact ih true
    | false =>
      cases gap with
      | true => exact .gap blank (ih false)
      | false => exact .char blank (ih false)

theorem Spaced.foldGaps {cs : List Char} (h : Spaced cs) : foldGaps false cs = cs := by
  induction h with
  | nil => rfl
  | char blank _ ih => simp [Text.foldGaps, blank, ih]
  | gap blank _ ih =>
    have space : isBlank ' ' = true := by decide
    simp [Text.foldGaps, space, blank, ih]

theorem Spaced.append {cs ds : List Char} (filled : ∀ d ∈ ds, isBlank d = false) (h : Spaced cs) :
    Spaced (ds ++ cs) := by
  induction ds with
  | nil => exact h
  | cons d ds ih =>
    obtain ⟨here, rest⟩ := List.forall_mem_cons.mp filled
    exact .char here (ih rest)

/-- The text does not start with white space. -/
def Started (cs : List Char) : Prop := ∀ c ∈ cs.head?, isBlank c = false

theorem squeeze_started (cs : List Char) : Started (squeeze cs) := by
  intro c first
  rw [squeeze] at first
  cases rest : cs.dropWhile isBlank with
  | nil =>
    rw [rest] at first
    cases first
  | cons d ds =>
    have filled : isBlank d = false := by
      have := List.head?_dropWhile_not isBlank cs
      rw [rest] at this
      simpa using this
    rw [rest, foldGaps, filled] at first
    simp only [Bool.false_eq_true, ↓reduceIte, List.head?_cons, Option.mem_def,
      Option.some.injEq] at first
    rwa [← first]

theorem Spaced.squeeze {cs : List Char} (h : Spaced cs) (started : Started cs) :
    squeeze cs = cs := by
  have kept : cs.dropWhile isBlank = cs := by
    cases cs with
    | nil => rfl
    | cons c cs => rw [List.dropWhile_cons, started c rfl, if_neg Bool.false_ne_true]
  rw [Text.squeeze, kept, h.foldGaps]

theorem mem_foldGaps {gap : Bool} {cs : List Char} {d : Char} (h : d ∈ foldGaps gap cs) :
    d = ' ' ∨ d ∈ cs := by
  induction cs generalizing gap with
  | nil => cases h
  | cons c cs ih =>
    rw [foldGaps] at h
    split at h
    · exact (ih h).imp_right (List.mem_cons_of_mem _)
    · split at h
      · rcases List.mem_cons.mp h with rfl | h
        · exact .inl rfl
        · rcases List.mem_cons.mp h with rfl | h
          · exact .inr List.mem_cons_self
          · exact (ih h).imp_right (List.mem_cons_of_mem _)
      · rcases List.mem_cons.mp h with rfl | h
        · exact .inr List.mem_cons_self
        · exact (ih h).imp_right (List.mem_cons_of_mem _)

theorem mem_squeeze {cs : List Char} {d : Char} (h : d ∈ squeeze cs) : d = ' ' ∨ d ∈ cs :=
  (mem_foldGaps h).imp_right fun kept => (List.dropWhile_sublist _).subset kept

theorem Lowers.filled {c : Char} {ds : List Char} (lowers : Lowers c ds) (h : isBlank c = false) :
    ∀ d ∈ ds, isBlank d = false := by
  intro d hd
  rcases lowers.fresh d hd with rfl | fresh
  · exact h
  · exact fresh.filled

/-- Lower case keeps words and gaps where they are. -/
theorem Spaced.lowerFrom {before cs : List Char} (h : Spaced cs) :
    Spaced (lowerFrom before cs) := by
  induction h generalizing before with
  | nil => exact .nil
  | @char c cs blank _ ih =>
    obtain ⟨ds, lowers, eq⟩ := lowerFrom_cons before c cs
    rw [eq]
    exact ih.append (lowers.filled blank)
  | @gap c cs blank _ ih =>
    obtain ⟨ds, lowers, eq⟩ := lowerFrom_cons (' ' :: before) c cs
    -- what the sigma rule sees of the gap is part of `before` from here on
    have space : Text.lowerFrom before (' ' :: c :: cs) =
        ' ' :: Text.lowerFrom (' ' :: before) (c :: cs) := by
      rw [Text.lowerFrom]
      rfl
    rw [space, eq]
    cases ds with
    | nil => exact absurd rfl lowers.nonempty
    | cons d ds =>
      obtain ⟨here, rest⟩ := List.forall_mem_cons.mp (lowers.filled blank)
      exact .gap here (ih.append rest)

theorem Started.lower {cs : List Char} (h : Started cs) : Started (lower cs) := by
  cases cs with
  | nil => exact h
  | cons c cs =>
    obtain ⟨ds, lowers, eq⟩ := lowerFrom_cons [] c cs
    have filled := lowers.filled (h c rfl)
    rw [Text.lower, eq]
    cases ds with
    | nil => exact absurd rfl lowers.nonempty
    | cons d ds =>
      intro d' first
      obtain rfl : d = d' := Option.some.inj first
      exact filled d List.mem_cons_self

end Text

namespace Answer

theorem isBlank_straighten (c : Char) : Text.isBlank (straighten c) = Text.isBlank c := by
  rw [straighten]
  split
  · rename_i quote
    rcases quote with rfl | rfl <;> decide
  · split
    · rename_i quote
      rcases quote with rfl | rfl <;> decide
    · rfl

/-- Of white space alone nothing is left to compare. -/
theorem normal_empty {s : String} : normal s = "" ↔ Text.allBlank s = true := by
  have chars : normal s = "" ↔ normalChars s.toList = [] :=
    ⟨fun h => by simpa [normal] using congrArg String.toList h, fun h => by rw [normal, h]⟩
  rw [chars, normalChars, Text.lower_nil, Text.squeeze_nil, List.all_map, Text.allBlank]
  simp only [Function.comp_def, isBlank_straighten]

theorem straighten_straighten (c : Char) : straighten (straighten c) = straighten c := by
  have image : straighten c = '\'' ∨ straighten c = '"' ∨ straighten c = c := by
    rw [straighten]
    split
    · exact .inl rfl
    · split
      · exact .inr (.inl rfl)
      · exact .inr (.inr rfl)
  rcases image with h | h | h
  · rw [h]
    decide
  · rw [h]
    decide
  · rw [h, h]

/-- No curly quotation mark is left, nor does lower case bring one back. -/
theorem straighten_of_mem_normalChars {cs : List Char} {d : Char} (h : d ∈ normalChars cs) :
    straighten d = d := by
  rcases (Text.settled_of_mem_lowerFrom h).2 with kept | fresh
  · rcases Text.mem_squeeze kept with rfl | kept
    · decide
    · obtain ⟨c, -, rfl⟩ := List.mem_map.mp kept
      exact straighten_straighten c
  · exact fresh.straight

theorem normalChars_normalChars (cs : List Char) :
    normalChars (normalChars cs) = normalChars cs := by
  have straight : (normalChars cs).map straighten = normalChars cs :=
    (List.map_congr_left fun _ hd => straighten_of_mem_normalChars hd).trans (List.map_id _)
  have squeezed : Text.squeeze (normalChars cs) = normalChars cs :=
    (Text.spaced_foldGaps _ _).lowerFrom.squeeze (Text.squeeze_started _).lower
  rw [normalChars, straight, squeezed]
  exact Text.lower_lower _

/-- What a text is compared as is compared as itself. -/
theorem normal_normal (s : String) : normal (normal s) = normal s := by
  rw [normal, normal, String.toList_ofList, normalChars_normalChars]

end Answer
end Questionnaire
