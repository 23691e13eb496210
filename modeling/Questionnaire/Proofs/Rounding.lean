import Mathlib.Algebra.Group.Nat.Defs
import Questionnaire.Number.Binary64

namespace Questionnaire

namespace Binary64

theorem nearest_whole (m : Nat) : nearest m 1 =
    (if 2 ^ excess m < 2 * (m % 2 ^ excess m) ∨
        2 * (m % 2 ^ excess m) = 2 ^ excess m ∧ m / 2 ^ excess m % 2 = 1
      then m / 2 ^ excess m + 1 else m / 2 ^ excess m) * 2 ^ excess m := by
  simp [nearest, Nat.div_one, Nat.mod_one]

/-- What is kept of a number fits into 53 bits. -/
theorem kept_lt (m : Nat) : m / 2 ^ excess m < 2 ^ 53 := by
  rw [Nat.div_lt_iff_lt_mul (Nat.two_pow_pos _), ← Nat.pow_add]
  apply Nat.lt_of_lt_of_le Nat.lt_log2_self
  apply Nat.pow_le_pow_right (by decide)
  rw [excess]
  omega

theorem nearest_between (m : Nat) :
    m / 2 ^ excess m * 2 ^ excess m ≤ nearest m 1 ∧
      nearest m 1 ≤ (m / 2 ^ excess m + 1) * 2 ^ excess m := by
  rw [nearest_whole]
  split
  · exact ⟨Nat.mul_le_mul_right _ (Nat.le_succ _), Nat.le_refl _⟩
  · exact ⟨Nat.le_refl _, Nat.mul_le_mul_right _ (Nat.le_succ _)⟩

variable {m e : Nat}

theorem nearest_small (h : m < 2 ^ (e + 53)) : nearest m 1 < 2 ^ (e + 54) := by
  have step : 2 ^ excess m ≤ 2 ^ e := by
    apply Nat.pow_le_pow_right (by decide)
    by_cases zero : m = 0
    · simp [zero, excess]
    · have := (Nat.log2_lt zero).mpr h
      rw [excess]
      omega
  calc nearest m 1 ≤ (m / 2 ^ excess m + 1) * 2 ^ excess m := (nearest_between m).2
    _ ≤ 2 ^ 53 * 2 ^ e := Nat.mul_le_mul (kept_lt m) step
    _ = 2 ^ (e + 53) := by rw [← Nat.pow_add, Nat.add_comm]
    _ < 2 ^ (e + 54) := Nat.pow_lt_pow_right (by decide) (by omega)

theorem nearest_large (h : 2 ^ (e + 54) ≤ m) : 2 ^ (e + 54) ≤ nearest m 1 := by
  have positive : m ≠ 0 := by
    have := Nat.two_pow_pos (e + 54)
    omega
  have log := (Nat.le_log2 positive).mpr h
  have power : 2 ^ m.log2 = 2 ^ 52 * 2 ^ excess m := by
    rw [← Nat.pow_add, excess]
    congr 1
    omega
  calc 2 ^ (e + 54) ≤ 2 ^ m.log2 := Nat.pow_le_pow_right (by decide) log
    _ = 2 ^ 52 * 2 ^ excess m := power
    _ ≤ m / 2 ^ excess m * 2 ^ excess m := by
      apply Nat.mul_le_mul_right
      rw [Nat.le_div_iff_mul_le (Nat.two_pow_pos _), ← power]
      exact Nat.log2_self_le positive
    _ ≤ nearest m 1 := (nearest_between m).1

/-- Between the last two powers of two the significand has just its 53 bits. -/
theorem nearest_last (low : 2 ^ (e + 53) ≤ m) (high : m < 2 ^ (e + 54)) :
    nearest m 1 < 2 ^ (e + 54) ↔ m + 2 ^ e < 2 ^ (e + 54) := by
  have positive : m ≠ 0 := by
    have := Nat.two_pow_pos (e + 53)
    omega
  have log : m.log2 = e + 53 := (Nat.log2_eq_iff positive).mpr ⟨low, high⟩
  have step : 2 ^ excess m = 2 * 2 ^ e := by
    rw [excess, log, show e + 53 - 52 = e + 1 by omega, Nat.pow_succ, Nat.mul_comm]
  have split : 2 ^ (e + 54) = 2 ^ 53 * (2 * 2 ^ e) := by rw [Nat.pow_add]; omega
  have bits := kept_lt m
  have whole := Nat.div_add_mod m (2 ^ excess m)
  have rest := Nat.mod_lt m (Nat.two_pow_pos (excess m))
  rw [nearest_whole, split]
  rw [step] at bits whole rest ⊢
  generalize m / (2 * 2 ^ e) = kept at *
  generalize m % (2 * 2 ^ e) = rest at *
  by_cases last : kept = 2 ^ 53 - 1
  · subst last
    split <;> omega
  · have room := Nat.mul_le_mul_right (2 * 2 ^ e) (show kept + 2 ≤ 2 ^ 53 by omega)
    rw [Nat.add_mul] at room
    rw [Nat.mul_comm] at whole
    have below : m + 2 ^ e < 2 ^ 53 * (2 * 2 ^ e) := by omega
    refine iff_of_true ?_ below
    split <;> (try rw [Nat.add_mul]) <;> omega

/-- Rounding to 53 bits goes past a power of two from half a step below it on: the significand of
the greatest number below it is odd, so the tie goes up. -/
theorem nearest_lt : nearest m 1 < 2 ^ (e + 54) ↔ m + 2 ^ e < 2 ^ (e + 54) := by
  have half : 2 ^ (e + 54) = 2 * 2 ^ (e + 53) := by rw [Nat.pow_succ, Nat.mul_comm]
  have step : 2 ^ e ≤ 2 ^ (e + 53) := Nat.pow_le_pow_right (by decide) (by omega)
  have positive := Nat.two_pow_pos e
  by_cases small : m < 2 ^ (e + 53)
  · exact iff_of_true (nearest_small small) (by omega)
  by_cases large : 2 ^ (e + 54) ≤ m
  · exact iff_of_false (Nat.not_lt.mpr (nearest_large large)) (by omega)
  exact nearest_last (Nat.not_lt.mp small) (Nat.not_le.mp large)

/-- The same in units of which there are a power of two in one. -/
theorem le_nearest {k c : Nat} :
    2 ^ (e + 54 + c) ≤ nearest (k * 2 ^ c) 1 ↔ 2 ^ (e + 54) - 2 ^ e ≤ k := by
  have scaled : k * 2 ^ c + 2 ^ (e + c) < 2 ^ (e + 54 + c) ↔ k + 2 ^ e < 2 ^ (e + 54) := by
    rw [Nat.pow_add 2 e c, Nat.pow_add 2 (e + 54) c, ← Nat.add_mul]
    exact Nat.mul_lt_mul_right (Nat.two_pow_pos c)
  have rounds : nearest (k * 2 ^ c) 1 < 2 ^ (e + 54 + c) ↔ k + 2 ^ e < 2 ^ (e + 54) := by
    rw [← scaled, Nat.add_right_comm]
    exact nearest_lt
  rw [← Nat.not_lt, rounds]
  omega

/-- The first whole number that is too large: half a step above the largest finite one. -/
def beyond : Nat := 2 ^ 1024 - 2 ^ 970

theorem limit_le_nearest (k : Nat) : limit ≤ nearest (k * one) 1 ↔ beyond ≤ k := by
  have units : one = 2 ^ 1074 := by decide +kernel
  have bound : limit = 2 ^ (970 + 54 + 1074) := by decide +kernel
  have start : beyond = 2 ^ (970 + 54) - 2 ^ 970 := by decide +kernel
  rewrite [units, bound, start]
  exact le_nearest (e := 970) (c := 1074)

theorem finite?_none {x : Binary64} : x.finite? = none ↔ ∀ s u, x ≠ .finite s u := by
  cases x <;> simp [finite?]

theorem ofRatio_finite? (negative : Bool) (num den : Nat) :
    (ofRatio negative num den).finite? = none ↔ limit ≤ nearest (num * one) den := by
  rw [ofRatio]
  generalize nearest (num * one) den = units
  rw [finite?_none, ofUnits]
  split <;> simp_all

theorem ofInt?_none {n : Int} : ofInt? n = none ↔ beyond ≤ n.natAbs :=
  (ofRatio_finite? _ _ _).trans (limit_le_nearest _)

end Binary64
end Questionnaire
