import Questionnaire.Answer.Value

namespace Questionnaire

namespace Text

section Runs

variable {runs : List Run} {r s : Run} {n m : Nat}

theorem run_of_moved (h : moved? runs n = some m) :
    ∃ r ∈ runs, r.covers n = true ∧ m = (n + r.shift).toNat := by
  induction runs with
  | nil => cases h
  | cons r runs ih =>
    rw [moved?] at h
    split at h
    · cases h
    · split at h
      · exact ⟨r, List.mem_cons_self, by assumption, (Option.some.inj h).symm⟩
      · obtain ⟨s, hs, covers, moved⟩ := ih h
        exact ⟨s, List.mem_cons_of_mem _ hs, covers, moved⟩

namespace Run

/-- The bounds of what a run moves its code points to. -/
def low (r : Run) : Nat := (r.first + r.shift).toNat
def high (r : Run) : Nat := (r.last + r.shift).toNat

/-- Are all code points of the run even, or all odd? -/
def strided (r : Run) : Bool := r.step == 2 || r.first == r.last

theorem covers_iff : r.covers n = true ↔
    r.first ≤ n ∧ n ≤ r.last ∧ (n - r.first) % r.step = 0 := by
  simp [covers, and_assoc]

theorem parity (h : r.covers n = true) (strided : r.strided = true) : n % 2 = r.first % 2 := by
  obtain ⟨above, below, step⟩ := covers_iff.mp h
  simp only [Run.strided, Bool.or_eq_true, beq_iff_eq] at strided
  rcases strided with two | single
  · rw [two] at step
    omega
  · omega

theorem moved_bounds (h : r.covers n = true) :
    r.low ≤ (n + r.shift).toNat ∧ (n + r.shift).toNat ≤ r.high := by
  obtain ⟨above, below, -⟩ := covers_iff.mp h
  rw [low, high]
  omega

theorem moved_parity (h : r.covers n = true) (strided : r.strided = true)
    (positive : 0 ≤ r.first + r.shift) : (n + r.shift).toNat % 2 = r.low % 2 := by
  have same := parity h strided
  obtain ⟨above, -, -⟩ := covers_iff.mp h
  rw [low]
  omega

end Run

/-- No run, of runs in rising order, covers a code point between the bounds, or only such as are odd
where those are even, and the other way round. -/
def uncovered (low high : Nat) (strided : Bool) : List Run → Bool
  | [] => true
  | s :: rest =>
    bif Nat.blt s.last low then uncovered low high strided rest
    else Nat.blt high s.first ||
      (strided && s.strided && (low + s.first) % 2 == 1 && uncovered low high strided rest)

theorem unmoved {low high : Nat} {strided : Bool} (above : low ≤ m) (below : m ≤ high)
    (parity : strided = true → m % 2 = low % 2) (h : uncovered low high strided runs = true) :
    moved? runs m = none := by
  induction runs with
  | nil => rfl
  | cons s runs ih =>
    rw [moved?]
    split
    · rfl
    · rename_i reached
      rw [uncovered] at h
      cases before : Nat.blt s.last low with
      | true =>
        rw [before, cond_true] at h
        have past : s.covers m ≠ true := by
          intro covers
          have := (Run.covers_iff.mp covers).2.1
          have := Nat.blt_eq.mp before
          omega
        rw [if_neg past, ih h]
      | false =>
        rw [before, cond_false] at h
        simp only [Bool.or_eq_true, Bool.and_eq_true, beq_iff_eq, Nat.blt_eq] at h
        rcases h with beyond | ⟨⟨⟨strides, strides'⟩, odd⟩, rest⟩
        · omega
        · have past : s.covers m ≠ true := by
            intro covers
            have here := parity strides
            have there := Run.parity covers strides'
            omega
          rw [if_neg past, ih rest]

end Runs

/-- Lower case leaves the character as it is. -/
structure Settled (c : Char) : Prop where
  notSigma : c ≠ 'Σ'
  itself : lowerChar c = [c]

/-- What lower case makes of a capital: a settled character that is neither white space nor a curly
quotation mark. -/
structure Fresh (c : Char) : Prop where
  settled : Settled c
  filled : isBlank c = false
  straight : Answer.straighten c = c

/-- White space, curly quotation marks, the two capitals with a rule of their own, and code points
of no character. -/
def marked : List (Nat × Nat) :=
  [(0x9, 0xD), (0x1C, 0x20), (0x85, 0x85), (0xA0, 0xA0), (0x130, 0x130), (0x3A3, 0x3A3),
    (0x1680, 0x1680), (0x2000, 0x205F), (0x3000, 0x3000), (0xD800, 0xDFFF)]

theorem fresh_of_unmarked {n : Nat} (unmarked : ∀ p ∈ marked, n < p.1 ∨ p.2 < n)
    (bound : n < 0x110000) (unmoved : moved? lowerRuns n = none) : Fresh (Char.ofNat n) := by
  simp only [marked, List.forall_mem_cons, List.not_mem_nil, false_implies, implies_true,
    and_true] at unmarked
  have valid : n.isValidChar := by
    unfold Nat.isValidChar
    omega
  -- a number that is no character would stand for the character 0
  have code : (Char.ofNat n).toNat = n := by
    rw [Char.ofNat, dif_pos valid]
    rfl
  have differs (c : Char) (h : c.toNat ≠ n) : Char.ofNat n ≠ c := by
    rintro rfl
    exact h code
  refine ⟨⟨differs _ ?_, ?_⟩, ?_, ?_⟩
  · change 0x3A3 ≠ n
    omega
  · rw [lowerChar, code, if_neg (by omega), unmoved]
  · simp only [isBlank, code, Bool.or_eq_false_iff, Bool.and_eq_false_imp, decide_eq_true_eq,
      decide_eq_false_iff_not, beq_eq_false_iff_ne]
    omega
  · have curly (c : Char) (h : 0x2018 ≤ c.toNat ∧ c.toNat ≤ 0x201D) : Char.ofNat n ≠ c :=
      differs c (by omega)
    have single : ¬(Char.ofNat n = '‘' ∨ Char.ofNat n = '’') :=
      not_or.mpr ⟨curly _ (by decide), curly _ (by decide)⟩
    have double : ¬(Char.ofNat n = '“' ∨ Char.ofNat n = '”') :=
      not_or.mpr ⟨curly _ (by decide), curly _ (by decide)⟩
    rw [Answer.straighten, if_neg single, if_neg double]

/-- Is all that the run moves to fresh? -/
def Run.freshens (r : Run) : Bool :=
  decide (0 ≤ r.first + r.shift) && Nat.blt r.high 0x110000 &&
    uncovered r.low r.high r.strided lowerRuns &&
    marked.all fun p => Nat.blt r.high p.1 || Nat.blt p.2 r.low

theorem lowerRuns_freshen : lowerRuns.all Run.freshens = true := by decide +kernel

theorem fresh_of_moved {n m : Nat} (h : moved? lowerRuns n = some m) : Fresh (Char.ofNat m) := by
  obtain ⟨r, hr, covers, rfl⟩ := run_of_moved h
  have freshens := List.all_eq_true.mp lowerRuns_freshen r hr
  simp only [Run.freshens, Bool.and_eq_true, decide_eq_true_eq, Nat.blt_eq, List.all_eq_true,
    Bool.or_eq_true] at freshens
  obtain ⟨⟨⟨positive, bound⟩, uncovered⟩, unmarked⟩ := freshens
  obtain ⟨above, below⟩ := Run.moved_bounds covers
  refine fresh_of_unmarked (fun p hp => ?_) (by omega) ?_
  · have := unmarked p hp
    omega
  · exact unmoved above below (fun strided => Run.moved_parity covers strided positive) uncovered

/-- What one character becomes in lower case. -/
structure Lowers (c : Char) (ds : List Char) : Prop where
  nonempty : ds ≠ []
  settled : ∀ d ∈ ds, Settled d
  fresh : ∀ d ∈ ds, d = c ∨ Fresh d

theorem lowers_lowerChar {c : Char} (h : c ≠ 'Σ') : Lowers c (lowerChar c) := by
  have all {ds : List Char} (nonempty : ds ≠ []) (fresh : ∀ d ∈ ds, Fresh d) : Lowers c ds :=
    ⟨nonempty, fun d hd => (fresh d hd).settled, fun d hd => .inr (fresh d hd)⟩
  by_cases dotted : c.toNat = 0x130
  · rw [lowerChar, if_pos dotted]
    refine all (List.cons_ne_nil _ _) fun d hd => ?_
    simp only [List.mem_cons, List.not_mem_nil, or_false] at hd
    rcases hd with rfl | rfl
    · exact ⟨⟨by decide, by decide +kernel⟩, by decide, by decide⟩
    · exact ⟨⟨by decide, by decide +kernel⟩, by decide, by decide⟩
  · cases moved : moved? lowerRuns c.toNat with
    | some m =>
      rw [lowerChar, if_neg dotted, moved]
      refine all (List.cons_ne_nil _ _) fun d hd => ?_
      rw [List.mem_singleton.mp hd]
      exact fresh_of_moved moved
    | none =>
      have itself : lowerChar c = [c] := by rw [lowerChar, if_neg dotted, moved]
      rw [itself]
      refine ⟨List.cons_ne_nil _ _, fun d hd => ?_, fun d hd => .inl (List.mem_singleton.mp hd)⟩
      rw [List.mem_singleton.mp hd]
      exact ⟨h, itself⟩

theorem lowers_sigma {d : Char} (h : d = 'ς' ∨ d = 'σ') : Lowers 'Σ' [d] := by
  have fresh : Fresh d := by
    rcases h with rfl | rfl
    · exact ⟨⟨by decide, by decide +kernel⟩, by decide, by decide⟩
    · exact ⟨⟨by decide, by decide +kernel⟩, by decide, by decide⟩
  refine ⟨List.cons_ne_nil _ _, fun d' hd => ?_, fun d' hd => .inr ?_⟩
  · exact List.mem_singleton.mp hd ▸ fresh.settled
  · exact List.mem_singleton.mp hd ▸ fresh

/-- Whatever stands around it, a character is lowered to characters of its own. -/
theorem lowerFrom_cons (before : List Char) (c : Char) (cs : List Char) :
    ∃ ds, Lowers c ds ∧ lowerFrom before (c :: cs) = ds ++ lowerFrom (c :: before) cs := by
  rw [lowerFrom]
  split
  · rename_i sigma
    rw [sigma]
    refine ⟨_, lowers_sigma ?_, rfl⟩
    split
    · exact .inl rfl
    · exact .inr rfl
  · rename_i other
    exact ⟨_, lowers_lowerChar other, rfl⟩

theorem settled_of_mem_lowerFrom {before cs : List Char} {d : Char} (h : d ∈ lowerFrom before cs) :
    Settled d ∧ (d ∈ cs ∨ Fresh d) := by
  induction cs generalizing before with
  | nil => cases h
  | cons c cs ih =>
    obtain ⟨ds, lowers, eq⟩ := lowerFrom_cons before c cs
    rw [eq] at h
    rcases List.mem_append.mp h with h | h
    · refine ⟨lowers.settled d h, (lowers.fresh d h).imp_left ?_⟩
      rintro rfl
      exact List.mem_cons_self
    · obtain ⟨settled, fresh⟩ := ih h
      exact ⟨settled, fresh.imp_left (List.mem_cons_of_mem _)⟩

theorem lowerFrom_settled {before cs : List Char} (h : ∀ c ∈ cs, Settled c) :
    lowerFrom before cs = cs := by
  induction cs generalizing before with
  | nil => rfl
  | cons c cs ih =>
    obtain ⟨settled, rest⟩ := List.forall_mem_cons.mp h
    rw [lowerFrom, if_neg settled.notSigma, settled.itself, ih rest]
    rfl

theorem lower_lower (cs : List Char) : lower (lower cs) = lower cs :=
  lowerFrom_settled fun _ h => (settled_of_mem_lowerFrom h).1

end Text
end Questionnaire
