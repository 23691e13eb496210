import Mathlib.Data.List.Chain
import Questionnaire.Proofs.NormalText

namespace Questionnaire

namespace Text

/-- White space stands only between words, and there as one plain space. At the start there may be
a space still. -/
structure Apart (cs : List Char) : Prop where
  ended : ∀ c ∈ cs.getLast?, isBlank c = false
  single : cs.IsChain fun c d => isBlank c = false ∨ isBlank d = false
  plain : ∀ c ∈ cs, isBlank c = true → c = ' '

theorem isBlank_space : isBlank ' ' = true := by decide

section

variable {c : Char} {cs : List Char}

theorem apart_nil : Apart [] := ⟨by simp, .nil, by simp⟩

theorem Apart.cons (filled : isBlank c = false) (h : Apart cs) : Apart (c :: cs) where
  ended d last := by
    rw [List.getLast?_cons, Option.mem_some_iff] at last
    cases rest : cs.getLast? with
    | none =>
      rw [rest] at last
      exact last ▸ filled
    | some e =>
      rw [rest] at last
      exact last ▸ h.ended e rest
  single := List.isChain_cons.mpr ⟨fun _ _ => .inl filled, h.single⟩
  plain d hd blank := by
    rcases List.mem_cons.mp hd with rfl | hd
    · simp [filled] at blank
    · exact h.plain d hd blank

theorem Apart.space (filled : isBlank c = false) (h : Apart (c :: cs)) :
    Apart (' ' :: c :: cs) where
  ended d last := h.ended d (by rwa [List.getLast?_cons_cons] at last)
  single := List.isChain_cons_cons.mpr ⟨.inr filled, h.single⟩
  plain d hd blank := by
    rcases List.mem_cons.mp hd with rfl | hd
    · rfl
    · exact h.plain d hd blank

theorem Apart.tail (h : Apart (c :: cs)) : Apart cs where
  ended d last := by
    refine h.ended d ?_
    rw [List.getLast?_cons, last]
    rfl
  single := h.single.tail
  plain d hd := h.plain d (List.mem_cons_of_mem c hd)

theorem apart_iff_spaced : Apart cs ↔ Spaced cs := by
  constructor
  · intro h
    induction cs with
    | nil => exact .nil
    | cons c cs ih =>
      have rest := ih h.tail
      cases blank : isBlank c with
      | false => exact .char blank rest
      | true =>
        obtain rfl := h.plain c List.mem_cons_self blank
        -- the next character begins a word, or the space would be the last or one of two
        cases rest with
        | nil => simp [h.ended ' ' rfl] at blank
        | char filled further => exact .gap filled further
        | gap _ _ => simpa [isBlank_space] using h.single
  · intro h
    induction h with
    | nil => exact apart_nil
    | char filled _ ih => exact ih.cons filled
    | gap filled _ ih => exact (ih.cons filled).space filled

end
end Text

namespace Answer

/-- A text is in the form in which texts are compared. -/
structure Tidy (cs : List Char) : Prop extends Text.Apart cs where
  started : ∀ c ∈ cs.head?, Text.isBlank c = false
  straight : ∀ c ∈ cs, c ∉ ['‘', '’', '“', '”']
  lowered : Text.lower cs = cs

theorem straighten_eq_self {c : Char} : straighten c = c ↔ c ∉ ['‘', '’', '“', '”'] := by
  constructor
  · rintro same listed
    simp only [List.mem_cons, List.not_mem_nil, or_false] at listed
    rcases listed with rfl | rfl | rfl | rfl <;> revert same <;> decide
  · intro unlisted
    simp only [List.mem_cons, List.not_mem_nil, or_false, not_or] at unlisted
    obtain ⟨single, single', double, double'⟩ := unlisted
    rw [straighten, if_neg (not_or.mpr ⟨single, single'⟩), if_neg (not_or.mpr ⟨double, double'⟩)]

theorem tidy_normalChars (cs : List Char) : Tidy (normalChars cs) where
  toApart := Text.apart_iff_spaced.mpr (Text.spaced_foldGaps _ _).lowerFrom
  started := (Text.squeeze_started _).lower
  straight _ hc := straighten_eq_self.mp (straighten_of_mem_normalChars hc)
  lowered := Text.lower_lower _

/-- On a text in that form none of the passes has anything to do. -/
theorem Tidy.normalChars {cs : List Char} (h : Tidy cs) : normalChars cs = cs := by
  have straight : cs.map straighten = cs :=
    (List.map_congr_left fun c hc => straighten_eq_self.mpr (h.straight c hc)).trans (List.map_id _)
  have squeezed : Text.squeeze cs = cs := (Text.apart_iff_spaced.mp h.toApart).squeeze h.started
  rw [Answer.normalChars, straight, squeezed, h.lowered]

theorem normal_eq_self {s : String} : normal s = s ↔ Tidy s.toList := by
  constructor
  · intro same
    rw [← same, normal, String.toList_ofList]
    exact tidy_normalChars _
  · intro tidy
    rw [normal, tidy.normalChars, String.ofList_toList]

/-- The text by which a value is compared is compared as itself: it has no curly quotation marks, no
capitals, and no white space but one plain space between two words. The texts of which this is so
are the only ones that are left as they are, and so the only ones by which values are compared. -/
theorem normalText_projects :
    (∀ v : Json, normalText (.str (normalText v)) = normalText v ∧ Tidy (normalText v).toList) ∧
    ∀ s : String, normalText (.str s) = s ↔ Tidy s.toList := by
  refine ⟨fun v => ⟨normal_normal (plainText v), ?_⟩, fun s => normal_eq_self⟩
  rw [normalText, normal, String.toList_ofList]
  exact tidy_normalChars _

/-- A capital sigma is final or not by what stands around it, and one capital becomes two
characters; neither is changed again. -/
example : normal "\u3000ΟΔΟΣ\u00a0\u2009“İΣ”" = "οδος \"i\u0307ς\"" := by decide +kernel

end Answer
end Questionnaire
