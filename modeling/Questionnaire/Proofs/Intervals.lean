import Mathlib.Data.List.TakeWhile
import Questionnaire.Proofs.Decimals

namespace Questionnaire.Answer

/-! ### Numerals at the front of a text -/

/-- The text neither goes on with digits nor with a point. -/
def Stopped (rest : List Char) : Prop := ∀ c ∈ rest.head?, Text.isDigit c = false ∧ c ≠ '.'

theorem takeFraction_point {ds rest : List Char} (digits : ∀ d ∈ ds, Text.isDigit d = true)
    (stopped : Stopped rest) :
    takeFraction (Literal.point ds ++ rest) = (Literal.point ds, rest) := by
  cases ds with
  | nil =>
    rw [Literal.point, List.nil_append, takeFraction]
    rintro _ _ rfl
    exact (stopped '.' rfl).2 rfl
  | cons d ds =>
    obtain ⟨here, later⟩ := List.forall_mem_cons.mp digits
    rw [Literal.point, List.cons_append, List.cons_append, takeFraction, if_pos here,
      Literal.span_digits later fun c hc => (stopped c hc).1]

theorem takeFraction_some {cs taken rest : List Char} (h : takeFraction cs = (taken, rest)) :
    ∃ ds, (∀ d ∈ ds, Text.isDigit d = true) ∧ taken = Literal.point ds ∧ cs = taken ++ rest := by
  unfold takeFraction at h
  split at h
  · rename_i d after
    split at h
    · rename_i digit
      rw [List.span_eq_takeWhile_dropWhile] at h
      obtain ⟨rfl, rfl⟩ := Prod.mk.inj h
      refine ⟨d :: after.takeWhile Text.isDigit,
        List.forall_mem_cons.mpr ⟨digit, fun _ hc => List.mem_takeWhile_imp hc⟩, rfl, ?_⟩
      simp [List.takeWhile_append_dropWhile]
    · obtain ⟨rfl, rfl⟩ := Prod.mk.inj h
      exact ⟨[], nofun, rfl, rfl⟩
  · obtain ⟨rfl, rfl⟩ := Prod.mk.inj h
    exact ⟨[], nofun, rfl, rfl⟩

/-- A numeral without a sign, and what follows it. -/
def takeUnsigned? (cs : List Char) : Option (List Char × List Char) :=
  let (ds, rest) := cs.span Text.isDigit
  if ds.isEmpty then none
  else
    let (fraction, rest) := takeFraction rest
    some (ds ++ fraction, rest)

theorem takeNumeral?_minus (cs : List Char) :
    takeNumeral? ('-' :: cs) = (takeUnsigned? cs).map fun (ds, rest) => ('-' :: ds, rest) := by
  simp only [takeNumeral?, takeUnsigned?]
  split <;> rfl

theorem takeNumeral?_unsigned {cs : List Char} (h : cs.head? ≠ some '-') :
    takeNumeral? cs = takeUnsigned? cs := by
  rw [takeNumeral?]
  · rfl
  · rintro _ rfl
    exact h rfl

theorem takeUnsigned?_append {whole fraction rest : List Char} (filled : whole ≠ [])
    (digits : ∀ d ∈ whole ++ fraction, Text.isDigit d = true) (stopped : Stopped rest) :
    takeUnsigned? (whole ++ Literal.point fraction ++ rest) =
      some (whole ++ Literal.point fraction, rest) := by
  obtain ⟨hw, hf⟩ := List.forall_mem_append.mp digits
  have stop : ∀ c ∈ (Literal.point fraction ++ rest).head?, Text.isDigit c = false := by
    cases fraction with
    | nil => exact fun c hc => (stopped c hc).1
    | cons d ds =>
      rintro _ ⟨⟩
      decide
  rw [takeUnsigned?, List.append_assoc, Literal.span_digits hw stop]
  simp [takeFraction_point hf stopped, filled]

theorem takeUnsigned?_some {cs taken rest : List Char} (h : takeUnsigned? cs = some (taken, rest)) :
    ∃ whole fraction, whole ≠ [] ∧ (∀ d ∈ whole ++ fraction, Text.isDigit d = true) ∧
      taken = whole ++ Literal.point fraction ∧ cs = taken ++ rest := by
  rw [takeUnsigned?, List.span_eq_takeWhile_dropWhile] at h
  simp only at h
  split at h
  · cases h
  · rename_i filled
    cases part : takeFraction (cs.dropWhile Text.isDigit) with
    | mk point after =>
      rw [part] at h
      obtain ⟨rfl, rfl⟩ := Prod.mk.inj (Option.some.inj h)
      obtain ⟨ds, digits, rfl, behind⟩ := takeFraction_some part
      refine ⟨cs.takeWhile Text.isDigit, ds, fun none => filled (List.isEmpty_iff.mpr none),
        List.forall_mem_append.mpr ⟨fun _ hc => List.mem_takeWhile_imp hc, digits⟩, rfl, ?_⟩
      rw [List.append_assoc, ← behind, List.takeWhile_append_dropWhile]

namespace Decimal

theorem takeNumeral?_chars (n : Decimal) {rest : List Char} (stopped : Stopped rest) :
    takeNumeral? (n.chars ++ rest) = some (n.chars, rest) := by
  have taken := takeUnsigned?_append n.filled n.digits stopped
  rw [chars]
  cases n.negative with
  | true =>
    rw [if_pos rfl, List.singleton_append, List.cons_append, takeNumeral?_minus, taken]
    rfl
  | false =>
    rw [if_neg Bool.false_ne_true, List.nil_append, takeNumeral?_unsigned, taken]
    obtain ⟨d, ds, whole⟩ := List.exists_cons_of_ne_nil n.filled
    have digit := n.digits d (by simp [whole])
    rw [whole]
    rintro ⟨⟩
    revert digit
    decide

theorem of_takeNumeral? {cs taken rest : List Char} (h : takeNumeral? cs = some (taken, rest)) :
    ∃ n : Decimal, taken = n.chars ∧ cs = n.chars ++ rest := by
  by_cases minus : cs.head? = some '-'
  · obtain ⟨body, rfl⟩ := List.head?_eq_some_iff.mp minus
    rw [takeNumeral?_minus, Option.map_eq_some_iff] at h
    obtain ⟨⟨ds, after⟩, unsigned, eq⟩ := h
    obtain ⟨rfl, rfl⟩ := Prod.mk.inj eq
    obtain ⟨whole, fraction, filled, digits, rfl, rfl⟩ := takeUnsigned?_some unsigned
    exact ⟨⟨true, whole, fraction, filled, digits⟩, rfl, rfl⟩
  · rw [takeNumeral?_unsigned minus] at h
    obtain ⟨whole, fraction, filled, digits, rfl, rfl⟩ := takeUnsigned?_some h
    exact ⟨⟨false, whole, fraction, filled, digits⟩, rfl, rfl⟩

end Decimal

/-- Two numerals with a dash between them; there may be white space on both sides of it. -/
structure Interval where
  low : Decimal
  before : List Char
  after : List Char
  high : Decimal
  blank_before : ∀ c ∈ before, Text.isBlank c = true
  blank_after : ∀ c ∈ after, Text.isBlank c = true

namespace Interval

variable (i : Interval)

def chars : List Char := i.low.chars ++ (i.before ++ '-' :: (i.after ++ i.high.chars))

theorem chars_ne_nil : i.chars ≠ [] := by simp [chars]

theorem trim_chars : Text.trimBy Text.isBlank i.chars = i.chars := by
  refine Text.trimBy_bare (fun c first => ?_) fun c last => ?_
  · rw [chars, List.head?_append_of_ne_nil _ i.low.chars_ne_nil] at first
    exact Decimal.filled_chars (List.mem_of_mem_head? first)
  · rw [chars, ← List.cons_append, ← List.append_assoc, ← List.append_assoc,
      List.getLast?_append_of_ne_nil _ i.high.chars_ne_nil] at last
    exact Decimal.filled_chars (List.mem_of_mem_getLast? last)

theorem comma_not_mem : ',' ∉ i.chars := by
  have numeral : ∀ n : Decimal, ',' ∉ n.chars := fun n comma => by
    rcases Decimal.mem_chars comma with digit | eq | eq
    · exact absurd digit (by decide)
    · exact absurd eq (by decide)
    · exact absurd eq (by decide)
  simp [chars, numeral, Text.comma_not_blank i.blank_before, Text.comma_not_blank i.blank_after]

/-- Neither white space nor a dash carries the lower numeral on, so its end is where it stands. -/
theorem stopped_gap : Stopped (i.before ++ '-' :: (i.after ++ i.high.chars)) := by
  intro c first
  have gap : Text.isBlank c = true ∨ c = '-' := by
    cases before : i.before with
    | nil =>
      rw [before] at first
      exact .inr (Option.some.inj first).symm
    | cons b bs =>
      rw [before] at first
      obtain rfl : b = c := Option.some.inj first
      exact .inl (i.blank_before b (before ▸ List.mem_cons_self))
  rcases gap with blank | rfl
  · refine ⟨Bool.eq_false_iff.mpr fun digit => ?_, ?_⟩
    · rw [Text.isBlank_digit digit] at blank
      cases blank
    · rintro rfl
      revert blank
      decide
  · decide

theorem rangeParts?_chars : rangeParts? i.chars = some (i.low.chars, i.high.chars) := by
  have dash : (i.before ++ '-' :: (i.after ++ i.high.chars)).dropWhile Text.isBlank =
      '-' :: (i.after ++ i.high.chars) := by
    rw [List.dropWhile_append_of_pos i.blank_before]
    rfl
  have behind : (i.after ++ i.high.chars).dropWhile Text.isBlank = i.high.chars := by
    rw [List.dropWhile_append_of_pos i.blank_after, List.dropWhile_eq_self_iff]
    intro first
    rw [Decimal.filled_chars (List.getElem_mem first)]
    exact Bool.false_ne_true
  -- a dash in front of the upper numeral is its sign by now
  have last : takeNumeral? i.high.chars = some (i.high.chars, []) := by
    have all : takeNumeral? (i.high.chars ++ []) = some (i.high.chars, []) :=
      i.high.takeNumeral?_chars nofun
    rwa [List.append_nil] at all
  rw [rangeParts?, chars, i.low.takeNumeral?_chars i.stopped_gap, Option.bind_some]
  simp only [dash, behind, last, Option.bind_some]
  rfl

end Interval

/-- The two numerals are found exactly where a range stands, and they are its own. -/
theorem rangeParts?_iff {cs low high : List Char} : rangeParts? cs = some (low, high) ↔
    ∃ i : Interval, cs = i.chars ∧ low = i.low.chars ∧ high = i.high.chars := by
  constructor
  · rw [rangeParts?, Option.bind_eq_some_iff]
    rintro ⟨⟨taken, rest⟩, first, h⟩
    obtain ⟨m, rfl, rfl⟩ := Decimal.of_takeNumeral? first
    dsimp only at h
    split at h
    · rename_i behind dash
      rw [Option.bind_eq_some_iff] at h
      obtain ⟨⟨taken, left⟩, second, h⟩ := h
      dsimp only at h
      split at h
      · rename_i done
        obtain ⟨n, rfl, all⟩ := Decimal.of_takeNumeral? second
        obtain ⟨rfl, rfl⟩ := Prod.mk.inj (Option.some.inj h)
        rw [List.isEmpty_iff.mp done, List.append_nil] at all
        refine ⟨⟨m, rest.takeWhile Text.isBlank, behind.takeWhile Text.isBlank, n,
          fun _ hc => List.mem_takeWhile_imp hc, fun _ hc => List.mem_takeWhile_imp hc⟩,
          ?_, rfl, rfl⟩
        rw [Interval.chars, ← all, List.takeWhile_append_dropWhile, ← dash,
          List.takeWhile_append_dropWhile]
      · cases h
    · cases h
  · rintro ⟨i, rfl, rfl, rfl⟩
    exact i.rangeParts?_chars

end Questionnaire.Answer
