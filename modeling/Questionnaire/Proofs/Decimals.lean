import Mathlib.Data.List.Basic
import Mathlib.Data.List.TakeDrop
import Mathlib.Data.List.TakeWhile
import Questionnaire.Answer.Range

namespace Questionnaire

namespace Text

section trim

variable {p : Char → Bool} {before cs after : List Char}

/-- What is trimmed makes no difference when it stands around a text. -/
theorem trimBy_pad (hb : ∀ c ∈ before, p c = true) (ha : ∀ c ∈ after, p c = true) :
    trimBy p (before ++ cs ++ after) = trimBy p cs := by
  rw [trimBy, List.append_assoc, List.dropWhile_append_of_pos hb, List.dropWhile_append]
  split
  · rename_i gone
    rw [trimBy, List.isEmpty_iff.mp gone, List.dropWhile_eq_nil_iff.mpr ha]
  · rw [List.reverse_append,
      List.dropWhile_append_of_pos fun c hc => ha c (List.mem_reverse.mp hc), trimBy]

theorem exists_pad (p : Char → Bool) (cs : List Char) : ∃ before after,
    (∀ c ∈ before, p c = true) ∧ (∀ c ∈ after, p c = true) ∧
      cs = before ++ trimBy p cs ++ after := by
  refine ⟨cs.takeWhile p, ((cs.dropWhile p).reverse.takeWhile p).reverse,
    fun _ hc => List.mem_takeWhile_imp hc,
    fun _ hc => List.mem_takeWhile_imp (List.mem_reverse.mp hc), ?_⟩
  rw [trimBy, List.append_assoc, ← List.reverse_append, List.takeWhile_append_dropWhile,
    List.reverse_reverse, List.takeWhile_append_dropWhile]

theorem trimBy_trimBy (p : Char → Bool) (cs : List Char) :
    trimBy p (trimBy p cs) = trimBy p cs := by
  obtain ⟨before, after, hb, ha, eq⟩ := exists_pad p cs
  calc trimBy p (trimBy p cs) = trimBy p (before ++ trimBy p cs ++ after) :=
        (trimBy_pad hb ha).symm
    _ = trimBy p cs := by rw [← eq]

theorem trimBy_nil : trimBy p cs = [] ↔ ∀ c ∈ cs, p c = true := by
  constructor
  · obtain ⟨before, after, hb, ha, eq⟩ := exists_pad p cs
    intro gone c hc
    rw [gone, List.append_nil] at eq
    rw [eq] at hc
    exact (List.mem_append.mp hc).elim (hb c) (ha c)
  · intro h
    rw [trimBy, List.dropWhile_eq_nil_iff.mpr h]
    rfl

theorem trimBy_bare (first : ∀ c ∈ cs.head?, p c = false) (last : ∀ c ∈ cs.getLast?, p c = false) :
    trimBy p cs = cs := by
  obtain ⟨before, after, hb, ha, eq⟩ := exists_pad p cs
  cases before with
  | cons c before =>
    have := hb c List.mem_cons_self
    rw [first c (by rw [eq]; rfl)] at this
    cases this
  | nil =>
    rcases List.eq_nil_or_concat after with rfl | ⟨after, c, rfl⟩
    · rw [List.nil_append, List.append_nil] at eq
      exact eq.symm
    · have := ha c (by simp)
      rw [last c (by rw [eq]; simp)] at this
      cases this

end trim

theorem comma_not_blank {cs : List Char} (blank : ∀ c ∈ cs, isBlank c = true) : ',' ∉ cs :=
  fun comma => absurd (blank _ comma) (by decide)

/-! ### Digits -/

theorem isDigit_cases {c : Char} (h : isDigit c = true) :
    ∃ z ∈ digitZeros, ∃ d < 10, c = Char.ofNat (z + d) ∧ digitValue? c = some d := by
  rw [isDigit, Option.isSome_iff_exists] at h
  obtain ⟨d, value⟩ := h
  obtain ⟨z, found, rfl⟩ := Option.map_eq_some_iff.mp value
  have within := List.find?_some found
  simp only [Bool.and_eq_true, decide_eq_true_eq] at within
  refine ⟨z, List.mem_of_find?_eq_some found, c.toNat - z, by omega, ?_, value⟩
  rw [Nat.add_sub_of_le within.1, Char.ofNat_toNat]

theorem isBlank_digit {c : Char} (h : isDigit c = true) : isBlank c = false := by
  have all : ∀ z ∈ digitZeros, ∀ d < 10, isBlank (Char.ofNat (z + d)) = false := by
    decide +kernel
  obtain ⟨z, hz, d, hd, rfl, -⟩ := isDigit_cases h
  exact all z hz d hd

end Text

namespace Literal

/-- The plain digit with the same value; other characters stay. -/
def plainDigit (c : Char) : Char := ((Text.digitValue? c).map fun d => Char.ofNat (48 + d)).getD c

theorem plainDigit_digit {c : Char} (h : Text.isDigit c = true) :
    (plainDigit c).isDigit = true ∧ some ((plainDigit c).toNat - 48) = Text.digitValue? c := by
  have all : ∀ d < 10, (Char.ofNat (48 + d)).isDigit = true ∧
      (Char.ofNat (48 + d)).toNat - 48 = d := by decide
  obtain ⟨-, -, d, hd, -, value⟩ := Text.isDigit_cases h
  simpa [plainDigit, value] using all d hd

theorem plainDigits_cons (c : Char) (cs : List Char) : plainDigits (c :: cs) =
    if Text.isDigit c = true ∨ c.toNat < 128 then (plainDigits cs).map (plainDigit c :: ·)
    else none := by
  rw [plainDigits, List.mapM_cons]
  change (_ >>= fun d => plainDigits cs >>= fun ds => some (d :: ds)) = _
  rw [plainDigit]
  cases value : Text.digitValue? c with
  | some d =>
    have digit : Text.isDigit c = true := by rw [Text.isDigit, value, Option.isSome_some]
    simp only [digit, true_or, if_true]
    cases plainDigits cs <;> rfl
  | none =>
    have letter : ¬ Text.isDigit c = true := by simp [Text.isDigit, value]
    simp only [letter]
    by_cases plain : c.toNat < 128
    · simp only [plain, if_true]
      cases plainDigits cs <;> rfl
    · simp only [plain, if_false]
      rfl

theorem plainDigits_iff {cs ds : List Char} : plainDigits cs = some ds ↔
    (∀ c ∈ cs, Text.isDigit c = true ∨ c.toNat < 128) ∧ ds = cs.map plainDigit := by
  induction cs generalizing ds with
  | nil => exact ⟨fun h => ⟨nofun, (Option.some.inj h).symm⟩, fun h => by rw [h.2]; rfl⟩
  | cons c cs ih =>
    rw [plainDigits_cons, List.forall_mem_cons, List.map_cons]
    split
    · rename_i here
      rw [Option.map_eq_some_iff]
      constructor
      · rintro ⟨rest, plain, rfl⟩
        obtain ⟨later, rfl⟩ := ih.mp plain
        exact ⟨⟨here, later⟩, rfl⟩
      · rintro ⟨⟨-, later⟩, rfl⟩
        exact ⟨_, ih.mpr ⟨later, rfl⟩, rfl⟩
    · rename_i here
      exact iff_of_false nofun fun h => here h.1.1

theorem joinDigits_of {cs : List Char} (h : '_' ∉ cs) (afterDigit : Bool) :
    joinDigits afterDigit cs = some cs := by
  induction cs generalizing afterDigit with
  | nil => rfl
  | cons c cs ih =>
    obtain ⟨here, rest⟩ := List.ne_and_not_mem_of_not_mem_cons h
    rw [joinDigits, ih rest, Option.map_some]
    · rintro rfl _
      exact here rfl
    · rintro _ _ rfl _
      exact here rfl

/-- A point and the digits behind it; nothing where there are none. -/
def point : List Char → List Char
  | [] => []
  | d :: ds => '.' :: d :: ds

theorem span_digits {p : Char → Bool} {ds rest : List Char} (digits : ∀ d ∈ ds, p d = true)
    (stop : ∀ c ∈ rest.head?, p c = false) : (ds ++ rest).span p = (ds, rest) := by
  rw [List.span_eq_takeWhile_dropWhile, List.takeWhile_append_of_pos digits,
    List.dropWhile_append_of_pos digits]
  cases rest with
  | nil => simp
  | cons c rest => simp [stop c rfl]

theorem mem_point {c : Char} {ds : List Char} (h : c ∈ point ds) : c = '.' ∨ c ∈ ds := by
  cases ds with
  | nil => cases h
  | cons d ds => exact List.mem_cons.mp h

variable {whole fraction : List Char}

theorem fraction_point (digits : ∀ d ∈ fraction, d.isDigit = true) :
    Literal.fraction (point fraction) = (fraction, []) := by
  cases fraction with
  | nil => rfl
  | cons d ds =>
    have all : (d :: ds ++ []).span Char.isDigit = (d :: ds, []) := span_digits digits nofun
    rwa [List.append_nil] at all

theorem stop_point {p : Char → Bool} (h : p '.' = false) :
    ∀ c ∈ (point fraction).head?, p c = false := by
  cases fraction with
  | nil => nofun
  | cons d ds =>
    rintro _ ⟨⟩
    exact h

theorem toLower_digit {d : Char} (h : d.isDigit = true) : d.toLower = d := by
  refine dif_neg ?_
  rintro ⟨least, -⟩
  simp only [Char.isDigit, Bool.and_eq_true, decide_eq_true_eq] at h
  have : d.val ≤ 57 := h.2
  exact absurd (UInt32.le_trans least this) (by decide)

/-- The words that are read in place of digits. -/
def words : List String := ["nan", "inf", "infinity"]

theorem unsigned?_of_not_word {cs : List Char} (h : String.ofList (cs.map Char.toLower) ∉ words)
    (negative : Bool) : unsigned? negative cs =
      let (whole, rest) := cs.span Char.isDigit
      let (part, rest) := Literal.fraction rest
      if whole.isEmpty && part.isEmpty then none
      else (exponent? rest).map fun e =>
        ofDecimal negative (natOfDigits (whole ++ part)) (e - part.length) := by
  simp only [words, List.mem_cons, List.not_mem_nil, or_false, not_or] at h
  rw [unsigned?, if_neg h.1, if_neg (not_or.mpr h.2)]

/-- What starts with a digit is none of the words. -/
theorem lower_not_word {d : Char} (digit : d.isDigit = true) (cs : List Char) :
    String.ofList ((d :: cs).map Char.toLower) ∉ words := by
  have letters : ∀ w ∈ words, w.toList.head?.any Char.isDigit = false := by decide
  intro word
  have letter := letters _ word
  rw [String.toList_ofList, List.map_cons, toLower_digit digit, List.head?_cons, Option.any_some,
    digit] at letter
  cases letter

theorem unsigned?_decimal (negative : Bool) (filled : whole ≠ [])
    (digits : ∀ d ∈ whole ++ fraction, d.isDigit = true) :
    unsigned? negative (whole ++ point fraction) =
      some (ofDecimal negative (natOfDigits (whole ++ fraction)) (-fraction.length)) := by
  obtain ⟨hw, hf⟩ := List.forall_mem_append.mp digits
  obtain ⟨d, ds, rfl⟩ := List.exists_cons_of_ne_nil filled
  have other := lower_not_word (hw d List.mem_cons_self) (ds ++ point fraction)
  rw [← List.cons_append] at other
  rw [unsigned?_of_not_word other, span_digits hw (stop_point rfl)]
  simp [fraction_point hf, exponent?]

theorem splitSign_digit {d : Char} (digit : d.isDigit = true) (cs : List Char) :
    splitSign (d :: cs) = (false, d :: cs) := by
  rw [splitSign]
  · rintro _ ⟨rfl, _⟩
    cases digit
  · rintro _ ⟨rfl, _⟩
    cases digit

theorem plain?_decimal (negative : Bool) (filled : whole ≠ [])
    (digits : ∀ d ∈ whole ++ fraction, d.isDigit = true) :
    plain? ((if negative then ['-'] else []) ++ (whole ++ point fraction)) =
      some (ofDecimal negative (natOfDigits (whole ++ fraction)) (-fraction.length)) := by
  rw [← unsigned?_decimal negative filled digits]
  cases negative with
  | true => rfl
  | false =>
    obtain ⟨d, ds, rfl⟩ := List.exists_cons_of_ne_nil filled
    have digit := digits d List.mem_cons_self
    simp [plain?, splitSign_digit digit]

/-! ### Commas -/

theorem mem_joinDigits {afterDigit : Bool} {cs ds : List Char} {c : Char}
    (joined : joinDigits afterDigit cs = some ds) (h : c ∈ cs) (other : c ≠ '_') : c ∈ ds := by
  fun_induction joinDigits afterDigit cs generalizing ds with
  | case1 => cases h
  | case2 => cases joined
  | case3 afterDigit d cs digit ih =>
    obtain ⟨rest, behind, rfl⟩ := Option.map_eq_some_iff.mp joined
    rcases List.mem_cons.mp (List.mem_of_ne_of_mem other h) with rfl | h
    · exact List.mem_cons_self
    · exact List.mem_cons_of_mem _ (ih behind h)
  | case4 => cases joined
  | case5 afterDigit d cs _ _ ih =>
    obtain ⟨rest, behind, rfl⟩ := Option.map_eq_some_iff.mp joined
    rcases List.mem_cons.mp h with rfl | h
    · exact List.mem_cons_self
    · exact List.mem_cons_of_mem _ (ih behind h)

theorem mem_splitSign {c : Char} {cs : List Char} (h : c ∈ cs) (minus : c ≠ '-') (plus : c ≠ '+') :
    c ∈ (splitSign cs).2 := by
  unfold splitSign
  split
  · exact List.mem_of_ne_of_mem minus h
  · exact List.mem_of_ne_of_mem plus h
  · exact h

theorem mem_dropWhile {p : Char → Bool} {c : Char} {cs : List Char} (h : c ∈ cs)
    (other : p c = false) : c ∈ cs.dropWhile p := by
  rw [← List.takeWhile_append_dropWhile (p := p) (l := cs)] at h
  refine (List.mem_append.mp h).resolve_left fun taken => ?_
  rw [List.mem_takeWhile_imp taken] at other
  cases other

theorem mem_fraction {c : Char} {cs : List Char} (h : c ∈ cs) (point : c ≠ '.')
    (other : c.isDigit = false) : c ∈ (Literal.fraction cs).2 := by
  unfold Literal.fraction
  split
  · rw [List.span_eq_takeWhile_dropWhile]
    exact mem_dropWhile (List.mem_of_ne_of_mem point h) other
  · exact h

theorem exponent?_comma {cs : List Char} {e : Int} (h : exponent? cs = some e) : ',' ∉ cs := by
  cases cs with
  | nil => exact List.not_mem_nil
  | cons c cs =>
    intro comma
    simp only [exponent?] at h
    split at h
    · rename_i power
      simp only [Bool.and_eq_true, List.all_eq_true] at power
      rcases List.mem_cons.mp comma with rfl | comma
      · exact absurd power.1.1 (by decide)
      · exact absurd (power.2 _ (mem_splitSign comma (by decide) (by decide))) (by decide)
    · cases h

theorem unsigned?_comma {negative : Bool} {cs : List Char} {x : Binary64}
    (h : unsigned? negative cs = some x) : ',' ∉ cs := by
  intro comma
  have other : String.ofList (cs.map Char.toLower) ∉ words := by
    have letters : ∀ w ∈ words, ',' ∉ w.toList := by decide
    intro word
    refine letters _ word ?_
    rw [String.toList_ofList]
    exact List.mem_map.mpr ⟨',', comma, by decide⟩
  rw [unsigned?_of_not_word other, List.span_eq_takeWhile_dropWhile] at h
  simp only at h
  split at h
  · cases h
  · obtain ⟨e, power, -⟩ := Option.map_eq_some_iff.mp h
    exact exponent?_comma power (mem_fraction (mem_dropWhile comma (by decide)) (by decide)
      (by decide))

theorem number?_trim (s : String) :
    number? (String.ofList (Text.trimBy Text.isBlank s.toList)) = number? s := by
  rw [number?, number?, String.toList_ofList, Text.trimBy_trimBy]

/-- White space alone is no number. -/
theorem number?_filled {s : String} {x : Binary64} (h : number? s = some x) :
    Text.allBlank s = false := by
  rw [Bool.eq_false_iff, Text.allBlank]
  intro blank
  rw [number?, Text.trimBy_nil.mpr (List.all_eq_true.mp blank)] at h
  cases h

/-- No step of the reading drops a comma, and the last one does not take it. -/
theorem number?_comma {s : String} {x : Binary64} (h : number? s = some x) : ',' ∉ s.toList := by
  intro comma
  rw [number?, Option.bind_eq_some_iff] at h
  obtain ⟨ds, joined, read⟩ := h
  rw [Option.bind_eq_some_iff] at joined
  obtain ⟨cs, plain, joined⟩ := joined
  obtain ⟨before, after, hb, ha, eq⟩ := Text.exists_pad Text.isBlank s.toList
  have trimmed : ',' ∈ Text.trimBy Text.isBlank s.toList := by
    rw [eq, List.mem_append, List.mem_append] at comma
    rcases comma with (blank | comma) | blank
    · exact absurd blank (Text.comma_not_blank hb)
    · exact comma
    · exact absurd blank (Text.comma_not_blank ha)
  have spelled : ',' ∈ cs := by
    rw [(plainDigits_iff.mp plain).2]
    exact List.mem_map.mpr ⟨',', trimmed, by decide⟩
  have kept : ',' ∈ ds := mem_joinDigits joined spelled (by decide)
  exact unsigned?_comma read (mem_splitSign kept (by decide) (by decide))

theorem isNaN_ofRatio (negative : Bool) (num den : Nat) :
    (Binary64.ofRatio negative num den).isNaN = false := by
  rw [Binary64.ofRatio, Binary64.ofUnits]
  split <;> rfl

theorem isNaN_ofDecimal (negative : Bool) (mant : Nat) (e : Int) :
    (ofDecimal negative mant e).isNaN = false := by
  rw [ofDecimal]
  split
  · rfl
  · split
    · rfl
    · split <;> exact isNaN_ofRatio _ _ _

end Literal

namespace Answer

/-- A decimal numeral: a minus or none, digits, and a point where there are digits behind it. -/
structure Decimal where
  negative : Bool
  whole : List Char
  fraction : List Char
  filled : whole ≠ []
  digits : ∀ d ∈ whole ++ fraction, Text.isDigit d = true

namespace Decimal

variable (n : Decimal)

def chars : List Char :=
  (if n.negative then ['-'] else []) ++ (n.whole ++ Literal.point n.fraction)

def text : String := String.ofList n.chars

/-- The digits before and behind the point as one whole number. -/
def units : Nat :=
  (n.whole ++ n.fraction).foldl (fun k d => 10 * k + (Text.digitValue? d).getD 0) 0

def value : Binary64 := Literal.ofDecimal n.negative n.units (-n.fraction.length)

variable {n}

theorem mem_chars {c : Char} (h : c ∈ n.chars) : Text.isDigit c = true ∨ c = '-' ∨ c = '.' := by
  rcases List.mem_append.mp h with sign | h
  · split at sign
    · exact .inr (.inl (List.mem_singleton.mp sign))
    · cases sign
  · rcases List.mem_append.mp h with whole | h
    · exact .inl (n.digits c (List.mem_append_left _ whole))
    · rcases Literal.mem_point h with point | fraction
      · exact .inr (.inr point)
      · exact .inl (n.digits c (List.mem_append_right _ fraction))

theorem filled_chars {c : Char} (h : c ∈ n.chars) : Text.isBlank c = false := by
  rcases mem_chars h with digit | rfl | rfl
  · exact Text.isBlank_digit digit
  · rfl
  · rfl

variable (n)

theorem chars_ne_nil : n.chars ≠ [] := by simp [chars, n.filled]

theorem trim_chars : Text.trimBy Text.isBlank n.chars = n.chars :=
  Text.trimBy_bare (fun _ h => filled_chars (List.mem_of_mem_head? h))
    fun _ h => filled_chars (List.mem_of_mem_getLast? h)

theorem plainDigit_chars : n.chars.map Literal.plainDigit = (if n.negative then ['-'] else []) ++
    (n.whole.map Literal.plainDigit ++ Literal.point (n.fraction.map Literal.plainDigit)) := by
  have minus : Literal.plainDigit '-' = '-' := by decide
  have point : Literal.plainDigit '.' = '.' := by decide
  rw [chars, List.map_append, List.map_append]
  congr 1
  · split <;> simp [minus]
  · cases n.fraction <;> simp [Literal.point, point]

theorem natOfDigits_units :
    Literal.natOfDigits ((n.whole ++ n.fraction).map Literal.plainDigit) = n.units := by
  rw [Literal.natOfDigits, List.foldl_map, units]
  refine List.foldl_ext _ _ _ fun k d hd => ?_
  rw [← (Literal.plainDigit_digit (n.digits d hd)).2, Option.getD_some]

theorem plainDigits_chars : Literal.plainDigits n.chars = some (n.chars.map Literal.plainDigit) := by
  refine Literal.plainDigits_iff.mpr ⟨fun c hc => (mem_chars hc).imp_right ?_, rfl⟩
  rintro (rfl | rfl) <;> decide

theorem underscore_not_mem : '_' ∉ n.chars.map Literal.plainDigit := by
  rw [List.mem_map]
  rintro ⟨c, hc, eq⟩
  rcases mem_chars hc with digit | rfl | rfl
  · have plain := (Literal.plainDigit_digit digit).1
    rw [eq] at plain
    cases plain
  · revert eq
    decide
  · revert eq
    decide

theorem number?_text : Literal.number? n.text = some n.value := by
  have digits : ∀ d ∈ n.whole.map Literal.plainDigit ++ n.fraction.map Literal.plainDigit,
      d.isDigit = true := by
    rw [← List.map_append, List.forall_mem_map]
    exact fun d hd => (Literal.plainDigit_digit (n.digits d hd)).1
  rw [Literal.number?, text, String.toList_ofList, trim_chars, plainDigits_chars, Option.bind_some,
    Literal.joinDigits_of n.underscore_not_mem, Option.bind_some, plainDigit_chars,
    Literal.plain?_decimal _ (by simpa using n.filled) digits, ← List.map_append,
    natOfDigits_units, List.length_map, value]

theorem number_text : number (.str n.text) = .ok (some n.value) := by
  rw [number, number?_text, Option.filter_some_pos]
  rw [value, Literal.isNaN_ofDecimal]
  rfl

end Decimal

end Answer
end Questionnaire
