import Mathlib.Data.Set.List
import Questionnaire.Proofs.Intervals
import Questionnaire.Proofs.NormalText

namespace Questionnaire

namespace Text

theorem foldGaps_append {gap : Bool} {cs after : List Char} (h : ∀ c ∈ after, isBlank c = true) :
    foldGaps gap (cs ++ after) = foldGaps gap cs := by
  induction cs generalizing gap with
  | nil => rw [List.nil_append, foldGaps_nil.mpr (List.all_eq_true.mpr h), foldGaps]
  | cons c cs ih =>
    rw [List.cons_append, foldGaps, foldGaps, ih, ih]

theorem squeeze_pad {before cs after : List Char} (hb : ∀ c ∈ before, isBlank c = true)
    (ha : ∀ c ∈ after, isBlank c = true) : squeeze (before ++ cs ++ after) = squeeze cs := by
  rw [squeeze, List.append_assoc, List.dropWhile_append_of_pos hb, List.dropWhile_append]
  split
  · rename_i gone
    rw [squeeze, List.isEmpty_iff.mp gone, List.dropWhile_eq_nil_iff.mpr ha]
  · rw [foldGaps_append ha, squeeze]

end Text

namespace Answer

/-- White space at the ends of a text is not compared. -/
theorem normal_trim (s : String) :
    normal (String.ofList (Text.trimBy Text.isBlank s.toList)) = normal s := by
  obtain ⟨before, after, hb, ha, eq⟩ := Text.exists_pad Text.isBlank s.toList
  have straight : ∀ {cs : List Char}, (∀ c ∈ cs, Text.isBlank c = true) →
      ∀ c ∈ cs.map straighten, Text.isBlank c = true := by
    intro cs blank
    rw [List.forall_mem_map]
    exact fun c hc => (isBlank_straighten c).trans (blank c hc)
  rw [normal, normal, String.toList_ofList, normalChars, normalChars]
  conv =>
    rhs
    rw [eq, List.map_append, List.map_append, Text.squeeze_pad (straight hb) (straight ha)]

theorem number_str {s : String} {x? : Option Binary64} :
    number (.str s) = .ok x? ↔ (Literal.number? s).filter (!·.isNaN) = x? := by
  rw [number, Except.ok.injEq]

/-! ### Items -/

/-- Is the text a range, with white space around it or without? -/
def IsRange (s : String) : Prop := ∃ (i : Interval) (before after : List Char),
  (∀ c ∈ before, Text.isBlank c = true) ∧ (∀ c ∈ after, Text.isBlank c = true) ∧
    s.toList = before ++ i.chars ++ after

theorem isRange_iff {s : String} :
    IsRange s ↔ (rangeParts? (Text.trimBy Text.isBlank s.toList)).isSome = true := by
  constructor
  · rintro ⟨i, before, after, hb, ha, eq⟩
    rw [eq, Text.trimBy_pad hb ha, i.trim_chars, i.rangeParts?_chars]
    rfl
  · rw [Option.isSome_iff_exists]
    rintro ⟨⟨low, high⟩, found⟩
    obtain ⟨i, eq, -, -⟩ := rangeParts?_iff.mp found
    obtain ⟨before, after, hb, ha, padded⟩ := Text.exists_pad Text.isBlank s.toList
    exact ⟨i, before, after, hb, ha, eq ▸ padded⟩

instance : DecidablePred IsRange := fun _ => decidable_of_iff _ isRange_iff.symm

/-- What may stand between two commas: a range, another text that is a number, or a text that is
neither. -/
inductive ListItem where
  | range (i : Interval)
  | number (s : String) (x : Binary64) (reads : Answer.number (.str s) = .ok (some x))
    (other : ¬ IsRange s)
  | word (s : String) (reads : Answer.number (.str s) = .ok none) (other : ¬ IsRange s)
    (filled : Text.allBlank s = false) (closed : ',' ∉ s.toList)

namespace ListItem

def chars : ListItem → List Char
  | range i => i.chars
  | number s .. | word s .. => s.toList

/-- What the item is read as. -/
def read : ListItem → RangeItem
  | range i => .range (some i.low.value) (some i.high.value)
  | number s x .. => .number x (normal s)
  | word s .. => .word (normal s)

/-- An answer with this text, and this number if it has one, is among what the item lists. -/
inductive Accepts (x? : Option Binary64) (text : String) : ListItem → Prop
  | between {i x} : x? = some x → i.low.value.le x = true → x.le i.high.value = true →
      Accepts x? text (.range i)
  | equal {s y reads other x} : x? = some x → x.eq y = true →
      Accepts x? text (.number s y reads other)
  | alike {s y reads other} : x? = none → text = normal s →
      Accepts x? text (.number s y reads other)
  | same {s reads other filled closed} : text = normal s →
      Accepts x? text (.word s reads other filled closed)

theorem accepts_read {x? : Option Binary64} {text : String} (item : ListItem) :
    item.read.accepts x? text = true ↔ item.Accepts x? text := by
  cases item with
  | range i =>
    rw [read, RangeItem.accepts, Option.any_eq_true]
    simp only [Bool.and_eq_true]
    exact ⟨fun ⟨x, known, low, high⟩ => .between known low high,
      fun | .between known low high => ⟨_, known, low, high⟩⟩
  | number s y =>
    rw [read, RangeItem.accepts]
    cases x? with
    | none => exact beq_iff_eq.trans ⟨.alike rfl, fun | .alike _ same => same⟩
    | some x => exact ⟨.equal rfl, fun | .equal rfl equal => equal⟩
  | word s =>
    exact beq_iff_eq.trans ⟨.same, fun | .same same => same⟩

theorem comma_not_mem : (item : ListItem) → ',' ∉ item.chars
  | range i => i.comma_not_mem
  | number _ _ reads _ =>
    Literal.number?_comma (Option.eq_some_of_filter_eq_some (number_str.mp reads))
  | word _ _ _ _ closed => closed

theorem trim_ne_nil (item : ListItem) : Text.trimBy Text.isBlank item.chars ≠ [] := by
  have text : ∀ {s : String}, Text.allBlank s = false →
      Text.trimBy Text.isBlank s.toList ≠ [] := fun filled gone => by
    rw [Text.allBlank, List.all_eq_true.mpr (Text.trimBy_nil.mp gone)] at filled
    cases filled
  cases item with
  | range i =>
    rw [chars, i.trim_chars]
    exact i.chars_ne_nil
  | number s x reads =>
    exact text (Literal.number?_filled (Option.eq_some_of_filter_eq_some (number_str.mp reads)))
  | word s reads other filled => exact text filled

theorem ofToken_other {s : String} (other : ¬ IsRange s) :
    RangeItem.ofToken (Text.trimBy Text.isBlank s.toList) =
      ((Literal.number? s).filter (!·.isNaN)).elim (.word (normal s)) (.number · (normal s)) := by
  have apart : rangeParts? (Text.trimBy Text.isBlank s.toList) = none := by
    rwa [isRange_iff, Option.not_isSome_iff_eq_none] at other
  simp only [RangeItem.ofToken, apart, Literal.number?_trim, normal_trim]
  cases (Literal.number? s).filter (!·.isNaN) <;> rfl

theorem ofToken_trim (item : ListItem) :
    RangeItem.ofToken (Text.trimBy Text.isBlank item.chars) = item.read := by
  cases item with
  | range i =>
    rw [chars, i.trim_chars, RangeItem.ofToken, i.rangeParts?_chars]
    exact congrArg₂ RangeItem.range i.low.number?_text i.high.number?_text
  | number s x reads other =>
    rw [chars, ofToken_other other, number_str.mp reads]
    rfl
  | word s reads other =>
    rw [chars, ofToken_other other, number_str.mp reads]
    rfl

end ListItem

/-! ### Lists -/

/-- The item of a text between commas, if it has one. -/
def partItem? (cs : List Char) : Option RangeItem :=
  let token := Text.trimBy Text.isBlank cs
  if token.isEmpty then none else some (RangeItem.ofToken token)

theorem commaParts_splitOn (cs : List Char) : commaParts cs = cs.splitOn ',' := by
  induction cs with
  | nil => rfl
  | cons c cs ih =>
    simp only [commaParts, List.splitOn_cons_eq_if_modifyHead, ih, beq_iff_eq]
    split
    · rfl
    · obtain ⟨w, ws, parts⟩ := List.exists_cons_of_ne_nil (List.splitOn_ne_nil ',' cs)
      rw [parts]
      rfl

theorem rangeItems_parts (s : String) :
    rangeItems s = (s.toList.splitOn ',').filterMap partItem? := by
  rw [rangeItems, commaParts_splitOn]
  induction s.toList.splitOn ',' with
  | nil => rfl
  | cons part parts ih =>
    rw [List.map_cons, List.filter_cons, List.filterMap_cons, partItem?]
    cases (Text.trimBy Text.isBlank part).isEmpty with
    | true => exact ih
    | false => exact congrArg (RangeItem.ofToken _ :: ·) ih

/-- A comma ends one list and begins another. -/
theorem rangeItems_append (s t : String) :
    rangeItems (s ++ "," ++ t) = rangeItems s ++ rangeItems t := by
  have comma : (s ++ "," ++ t).toList = s.toList ++ ',' :: t.toList := by simp
  rw [rangeItems_parts, rangeItems_parts, rangeItems_parts, comma,
    List.splitOn_append_cons_self, List.filterMap_append]

/-- The text between two commas: an item or none, and white space on both sides. -/
structure ListPart where
  before : List Char
  item : Option ListItem
  after : List Char
  blank_before : ∀ c ∈ before, Text.isBlank c = true
  blank_after : ∀ c ∈ after, Text.isBlank c = true

namespace ListPart

def chars (part : ListPart) : List Char :=
  part.before ++ part.item.elim [] ListItem.chars ++ part.after

theorem comma_not_mem (part : ListPart) : ',' ∉ part.chars := by
  have item : ',' ∉ part.item.elim [] ListItem.chars := by
    cases part.item with
    | none => exact List.not_mem_nil
    | some item => exact item.comma_not_mem
  simp [chars, item, Text.comma_not_blank part.blank_before,
    Text.comma_not_blank part.blank_after]

theorem partItem?_chars (part : ListPart) :
    partItem? part.chars = part.item.map ListItem.read := by
  rw [partItem?, chars, Text.trimBy_pad part.blank_before part.blank_after]
  cases part.item with
  | none => rfl
  | some item =>
    simp only [Option.elim_some, item.ofToken_trim, Option.map_some]
    rw [if_neg]
    exact fun gone => item.trim_ne_nil (List.isEmpty_iff.mp gone)

/-- Where there is no comma, there is an item or white space alone. -/
theorem exists_chars {cs : List Char} (closed : ',' ∉ cs) :
    ∃ part : ListPart, part.chars = cs := by
  by_cases range : IsRange (String.ofList cs)
  · obtain ⟨i, before, after, hb, ha, eq⟩ := range
    rw [String.toList_ofList] at eq
    exact ⟨⟨before, some (.range i), after, hb, ha⟩, eq.symm⟩
  · let lone (item : ListItem) : ListPart := ⟨[], some item, [], nofun, nofun⟩
    have same (item : ListItem) : (lone item).chars = item.chars := List.append_nil _
    cases reads : (Literal.number? (String.ofList cs)).filter (!·.isNaN) with
    | some x =>
      exact ⟨_, (same (.number _ x (number_str.mpr reads) range)).trans String.toList_ofList⟩
    | none =>
      cases filled : Text.allBlank (String.ofList cs) with
      | false =>
        refine ⟨_, (same (.word _ (number_str.mpr reads) range filled ?_)).trans
          String.toList_ofList⟩
        rwa [String.toList_ofList]
      | true =>
        rw [Text.allBlank, String.toList_ofList, List.all_eq_true] at filled
        exact ⟨⟨cs, none, [], filled, nofun⟩, by simp [chars]⟩

end ListPart

/-- The list of the parts, with commas between them. -/
def listText (parts : List ListPart) : String :=
  String.ofList ([','].intercalate (parts.map ListPart.chars))

theorem comma_not_mem_part {cs : List Char} : ∀ part ∈ cs.splitOn ',', ',' ∉ part := by
  induction cs with
  | nil => simp
  | cons c cs ih =>
    rw [List.splitOn_cons_eq_if_modifyHead]
    split
    · exact List.forall_mem_cons.mpr ⟨List.not_mem_nil, ih⟩
    · rename_i other
      obtain ⟨w, ws, parts⟩ := List.exists_cons_of_ne_nil (List.splitOn_ne_nil ',' cs)
      rw [parts] at ih ⊢
      obtain ⟨here, rest⟩ := List.forall_mem_cons.mp ih
      refine List.forall_mem_cons.mpr ⟨?_, rest⟩
      rw [List.mem_cons, not_or]
      exact ⟨fun eq => other (beq_iff_eq.mpr eq.symm), here⟩

/-- The items that are read from a list are those it was made of, in their order. -/
theorem rangeItems_listText (parts : List ListPart) :
    rangeItems (listText parts) = parts.filterMap fun part => part.item.map ListItem.read := by
  rw [rangeItems_parts, listText, String.toList_ofList]
  cases parts with
  | nil => rfl
  | cons part parts =>
    have closed : ∀ cs ∈ (part :: parts).map ListPart.chars, ',' ∉ cs :=
      List.forall_mem_map.mpr fun part _ => part.comma_not_mem
    rw [List.splitOn_intercalate ',' closed (List.cons_ne_nil _ _), List.filterMap_map]
    exact List.filterMap_congr fun part _ => part.partItem?_chars

/-- Every text is a list. -/
theorem exists_listText (s : String) : ∃ parts, listText parts = s := by
  have parts : s.toList.splitOn ',' ∈ Set.range (List.map ListPart.chars) := by
    rw [Set.range_list_map]
    exact fun part hp => ListPart.exists_chars (comma_not_mem_part part hp)
  obtain ⟨parts, eq⟩ := parts
  exact ⟨parts, by rw [listText, eq, List.intercalate_splitOn, String.ofList_toList]⟩

theorem inRange_items {value : Json} {x? : Option Binary64} (fits : number value = .ok x?)
    (s : String) : inRange value (.str s) =
      .ok ((rangeItems s).any (RangeItem.accepts x? (normalText value))) := by
  rw [inRange, fits]
  rfl

/-- Some item of the list accepts the answer. -/
def Listed (parts : List ListPart) (x? : Option Binary64) (text : String) : Prop :=
  ∃ part ∈ parts, ∃ item ∈ part.item, item.Accepts x? text

theorem any_listText {parts : List ListPart} {x? : Option Binary64} {text : String} :
    (rangeItems (listText parts)).any (RangeItem.accepts x? text) = true ↔
      Listed parts x? text := by
  rw [rangeItems_listText, List.any_eq_true]
  constructor
  · rintro ⟨read, mem, accepts⟩
    obtain ⟨part, hp, eq⟩ := List.mem_filterMap.mp mem
    obtain ⟨item, hi, rfl⟩ := Option.map_eq_some_iff.mp eq
    exact ⟨part, hp, item, hi, item.accepts_read.mp accepts⟩
  · rintro ⟨part, hp, item, hi, accepts⟩
    have mem : some item.read = part.item.map ListItem.read := by rw [hi, Option.map_some]
    exact ⟨item.read, List.mem_filterMap.mpr ⟨part, hp, mem.symm⟩,
      item.accepts_read.mpr accepts⟩

/-- An answer that is compared with a list of ranges is in it when some item accepts it and at no
other time. Every text is such a list, and every numeral of a range is a number. So a comma between
two lists means that one of them accepts the answer, and the order of a list does not matter. -/
theorem inRange_exact {value : Json} {x? : Option Binary64} (fits : number value = .ok x?) :
    (∀ parts, ∃ b, inRange value (.str (listText parts)) = .ok b ∧
      (b = true ↔ Listed parts x? (normalText value))) ∧
    (∀ s, ∃ parts, listText parts = s) ∧
    (∀ n : Decimal, number (.str n.text) = .ok (some n.value)) ∧
    (∀ s t, ∃ b c, inRange value (.str s) = .ok b ∧ inRange value (.str t) = .ok c ∧
      inRange value (.str (s ++ "," ++ t)) = .ok (b || c)) ∧
    ∀ parts parts', parts.Perm parts' →
      inRange value (.str (listText parts)) = inRange value (.str (listText parts')) := by
  refine ⟨fun parts => ⟨_, inRange_items fits _, any_listText⟩, exists_listText,
    Decimal.number_text, fun s t => ⟨_, _, inRange_items fits s, inRange_items fits t, ?_⟩,
    fun parts parts' perm => ?_⟩
  · rw [inRange_items fits, rangeItems_append, List.any_append]
  · rw [inRange_items fits, inRange_items fits, rangeItems_listText, rangeItems_listText,
      (perm.filterMap _).any_eq]

/-- A text, a range from minus ten to minus one, and nothing. -/
def belowZero : List ListPart :=
  let minus (whole : List Char) (filled : whole ≠ [])
      (digits : (whole ++ []).all Text.isDigit = true) : Decimal :=
    ⟨true, whole, [], filled, List.all_eq_true.mp digits⟩
  let spaced (item : Option ListItem) : ListPart :=
    ⟨[' '], item, [], List.all_eq_true.mp rfl, nofun⟩
  [⟨[], some (.word "n/a" (by decide +kernel) (by decide) (by decide) (by decide)), [],
      nofun, nofun⟩,
    spaced (some (.range ⟨minus ['1', '0'] (by decide) (by decide), [], [' '],
      minus ['1'] (by decide) (by decide), nofun, List.all_eq_true.mp rfl⟩)),
    spaced none]

theorem inRange_exact_below : listText belowZero = "n/a, -10- -1, " ∧
    number (.int (-4)) = .ok (some (.finite true (4 * Binary64.one))) ∧
    inRange (.int (-4)) (.str "n/a, -10- -1, ") = .ok true := by
  have fits : number (.int (-4)) = .ok (some (.finite true (4 * Binary64.one))) := by
    decide +kernel
  have text : listText belowZero = "n/a, -10- -1, " := by decide +kernel
  obtain ⟨b, result, listed⟩ := (inRange_exact fits).1 belowZero
  have accepted : Listed belowZero (some (.finite true (4 * Binary64.one)))
      (normalText (.int (-4))) :=
    ⟨_, List.mem_cons_of_mem _ List.mem_cons_self, _, rfl,
      .between rfl (by decide +kernel) (by decide +kernel)⟩
  rw [listed.mpr accepted, text] at result
  exact ⟨text, fits, result⟩

end Answer
end Questionnaire
