import Mathlib.Algebra.Group.Nat.Defs
import SelectorCode.Number.Basic

/-!
# The range of doubles

Integers in the range of doubles have far fewer digits than are converted to decimal, so no integer that has passed
the check of its range is ever too long to be written. The significand of a finite double is below `2 ^ 53`: the last
place is chosen such that the quotient has at most 53 binary places, and a quotient that is rounded up to `2 ^ 53` is
renormalized.

## Main Statements

* `Binary64.log2_lt_of_isFinite_ofRatio`: a natural number whose double is finite has at most 1025 binary places.
* `Number.isTooLong_of_ofInt?`: an integer in the range of doubles is not too long.
* `mul_pow_toNat_le_iff`: the exponent of a power may be written as any difference.
* `Binary64.significand_lt_of_ofDecimal`: the significand of the double nearest to a decimal is below `2 ^ 53`.
-/

namespace SelectorCode

namespace Binary64

/-- The last place of a natural number is at most 53 binary places below its first. -/
theorem le_lastPlace (n : Nat) : (n.log2 : Int) - 53 ≤ lastPlace n 1 := by
  have hone : Nat.log2 1 = 0 := by decide
  unfold lastPlace
  rw [hone]
  refine Int.le_trans ?_ (Int.le_max_left _ _)
  split <;> omega

/-- Rounding may raise the exponent, but never lowers it. -/
theorem exponent_le_of_isFinite_ofParts {negative : Bool} {m : Nat} {e : Int}
    (h : (ofParts negative m e).isFinite = true) : e ≤ greatestExponent := by
  refine Int.not_lt.1 fun hbig => ?_
  have hnext : greatestExponent < e + 1 := Int.lt_trans hbig (Int.lt_succ e)
  have hinfinite : ofParts negative m e = infinite negative := by
    unfold ofParts
    by_cases hm : m = Nat.pow 2 53
    · rw [if_pos hm]
      exact if_pos hnext
    · rw [if_neg hm]
      exact if_pos hbig
  rw [hinfinite] at h
  exact Bool.noConfusion h

/-- A natural number whose double is finite has at most 1025 binary places. -/
theorem log2_lt_of_isFinite_ofRatio {negative : Bool} {n : Nat}
    (h : (ofRatio negative n 1).isFinite = true) : n.log2 < 1025 := by
  unfold ofRatio at h
  split at h
  next hzero =>
    rw [hzero]
    decide
  next =>
    have hexponent := exponent_le_of_isFinite_ofParts h
    have hplace := le_lastPlace n
    unfold greatestExponent at hexponent
    omega

end Binary64

/-- A natural number has no more decimal places than binary ones. -/
theorem lt_pow_of_log2_lt {n k d : Nat} (h : n.log2 < k) (hd : k ≤ d) : n < Nat.pow 10 d := by
  by_cases hn : n = 0
  · rw [hn]
    exact Nat.pow_pos (by decide)
  · calc n < 2 ^ k := (Nat.log2_lt hn).1 h
      _ ≤ 10 ^ k := Nat.pow_le_pow_left (by decide) k
      _ ≤ 10 ^ d := Nat.pow_le_pow_right (by decide) hd

/-- An integer in the range of doubles is not too long to be written. -/
theorem Number.isTooLong_of_ofInt? {n : Int} (h : (Binary64.ofInt? n).isSome = true) :
    Number.isTooLong n = false := by
  have hfinite : (Binary64.ofRatio (n < 0) n.natAbs 1).isFinite = true := by
    simp only [Binary64.ofInt?] at h
    split at h
    next hf => exact hf
    next => cases h
  have hlog := Binary64.log2_lt_of_isFinite_ofRatio hfinite
  have hlimit : 1025 ≤ Number.digitLimit := by decide
  rw [Number.isTooLong, decide_eq_false_iff_not, Nat.not_le]
  exact lt_pow_of_log2_lt hlog hlimit

/-! ### Powers with integral exponents -/

/-- A comparison with a power does not depend on how its exponent is written as a difference. -/
theorem mul_pow_toNat_le_iff {base x y a c : Nat} {e : Int} (hbase : 0 < base)
    (he : (a : Int) - c = e) :
    x * base ^ e.toNat ≤ y * base ^ (-e).toNat ↔ x * base ^ a ≤ y * base ^ c := by
  obtain ⟨d, rfl, rfl⟩ : ∃ d, a = e.toNat + d ∧ c = (-e).toNat + d :=
    ⟨min a c, by omega, by omega⟩
  rw [Nat.pow_add, Nat.pow_add, ← Nat.mul_assoc, ← Nat.mul_assoc]
  exact (Nat.mul_le_mul_right_iff (Nat.pow_pos hbase)).symm

/-! ### Significands -/

namespace Binary64

variable {num den k m : Nat} {e e' : Int} {negative negative' : Bool}

theorem scaled_eq (num den : Nat) (e : Int) :
    scaled num den e = (num * 2 ^ (-e).toNat, den * 2 ^ e.toNat) := by
  unfold scaled
  split
  · rw [Int.toNat_of_nonpos (by omega : -e ≤ 0), Nat.pow_zero, Nat.mul_one]
    rfl
  · rw [Int.toNat_of_nonpos (by omega : e ≤ 0), Nat.pow_zero, Nat.mul_one]
    rfl

/-- A quotient that is divided by a power of two is below another one. -/
theorem scaled_lt_iff {a c : Nat} (he : (a : Int) - c = e) :
    (scaled num den e).1 < (scaled num den e).2 * 2 ^ k ↔ num * 2 ^ c < den * 2 ^ k * 2 ^ a := by
  rw [scaled_eq, Nat.mul_right_comm, ← Nat.not_le, ← Nat.not_le,
    mul_pow_toNat_le_iff (by decide) he]

theorem scaled_lt_of_le (hle : e ≤ e')
    (h : (scaled num den e).1 < (scaled num den e).2 * 2 ^ k) :
    (scaled num den e').1 < (scaled num den e').2 * 2 ^ k := by
  rw [scaled_lt_iff (a := e.toNat) (c := (-e).toNat) (by omega)] at h
  rw [scaled_lt_iff (a := e.toNat + (e' - e).toNat) (c := (-e).toNat) (by omega)]
  exact Nat.lt_of_lt_of_le h
    (Nat.mul_le_mul_left _ (Nat.pow_le_pow_right (by decide) (Nat.le_add_right _ _)))

/-- The logarithms leave a quotient with 53 binary places at most. -/
theorem scaled_log2_lt (hden : den ≠ 0) :
    (scaled num den (num.log2 - den.log2 - 52)).1 <
      (scaled num den (num.log2 - den.log2 - 52)).2 * 2 ^ 53 := by
  rw [scaled_lt_iff (a := num.log2) (c := den.log2 + 52) (by omega)]
  calc num * 2 ^ (den.log2 + 52) < 2 ^ (num.log2 + 1) * 2 ^ (den.log2 + 52) :=
        Nat.mul_lt_mul_of_pos_right Nat.lt_log2_self (Nat.pow_pos (by decide))
    _ = 2 ^ den.log2 * 2 ^ 53 * 2 ^ num.log2 := by
        simp only [← Nat.pow_add]
        congr 1
        omega
    _ ≤ den * 2 ^ 53 * 2 ^ num.log2 :=
        Nat.mul_le_mul_right _ (Nat.mul_le_mul_right _ (Nat.log2_self_le hden))

/-- In its last place, a quotient has at most 53 binary places. -/
theorem scaled_lastPlace_lt (hden : den ≠ 0) :
    (scaled num den (lastPlace num den)).1 < (scaled num den (lastPlace num den)).2 * 2 ^ 53 := by
  refine scaled_lt_of_le (Int.le_max_left _ _) ?_
  split
  · exact scaled_log2_lt hden
  next hsmall =>
    -- one place less is one more binary place
    have hlt := Nat.not_le.1 hsmall
    rw [Nat.pow_eq, scaled_lt_iff (a := num.log2) (c := den.log2 + 52) (by omega)] at hlt
    rw [scaled_lt_iff (a := num.log2) (c := den.log2 + 52 + 1) (by omega)]
    calc num * 2 ^ (den.log2 + 52 + 1) = num * 2 ^ (den.log2 + 52) * 2 := by
          rw [Nat.pow_succ, Nat.mul_assoc]
      _ < den * 2 ^ 52 * 2 ^ num.log2 * 2 := Nat.mul_lt_mul_of_pos_right hlt (by decide)
      _ = den * 2 ^ 53 * 2 ^ num.log2 := by
          rw [Nat.mul_right_comm, Nat.mul_assoc den, ← Nat.pow_succ]

theorem roundHalfEven_le (h : num < den * k) : roundHalfEven num den ≤ k := by
  have hquotient : num / den < k := Nat.div_lt_of_lt_mul h
  unfold roundHalfEven
  split
  · exact hquotient
  · exact Nat.le_of_lt hquotient

/-- Renormalized parts have a significand below `2 ^ 53`. -/
theorem significand_lt_of_ofParts (hk : k ≤ 2 ^ 53)
    (h : ofParts negative k e = finite negative' m e') : m < 2 ^ 53 := by
  simp only [ofParts, Nat.pow_eq] at h
  split at h
  next =>
    split at h
    · cases h
    · cases h
      exact Nat.pow_lt_pow_right (by decide) (by decide)
  next hne =>
    split at h
    · cases h
    · cases h
      omega

theorem significand_lt_of_ofRatio (hden : den ≠ 0)
    (h : ofRatio negative num den = finite negative' m e) : m < 2 ^ 53 := by
  unfold ofRatio at h
  split at h
  · cases h
    decide
  · exact significand_lt_of_ofParts (roundHalfEven_le (scaled_lastPlace_lt hden)) h

/-- The significand of the double nearest to a decimal is below `2 ^ 53`. -/
theorem significand_lt_of_ofDecimal {digits : Nat} {exponent : Int}
    (h : ofDecimal negative digits exponent = finite negative' m e) : m < 2 ^ 53 := by
  unfold ofDecimal at h
  split at h
  · cases h
    decide
  split at h
  · cases h
  split at h
  · cases h
    decide
  split at h
  · exact significand_lt_of_ofRatio (by decide) h
  · exact significand_lt_of_ofRatio (Nat.ne_of_gt (Nat.pow_pos (by decide))) h

end Binary64

end SelectorCode
