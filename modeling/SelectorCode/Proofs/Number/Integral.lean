import Mathlib.Algebra.Group.Int.Defs
import SelectorCode.Number.Numeral
import SelectorCode.Proofs.Number.Range

/-!
# Natural numbers that are doubles

The double nearest to a natural number is that number if and only if the number has at most 53 significant binary places
and is in the range of finite doubles. Rounding then cuts off nothing but zeros, because the last place of the double is
not above the last significant place of the number.

## Main Definitions

* `Binary64.IsIntegral`: the natural numbers that are doubles.

## Main Statements

* `lastPlace_one`: the last place of a natural number.
* `toInt?_ofRatio_of_isIntegral`: a natural number that is a double is the double nearest to it.
* `toInt?_ofDecimal_eq_some_iff`: only those are.
-/

namespace SelectorCode

namespace Binary64

/-- The natural numbers that are doubles: those with at most 53 significant binary places, in the range of finite
doubles. -/
def IsIntegral (n : Nat) : Prop :=
  ∃ m k : Nat, m < 2 ^ 53 ∧ (k : Int) ≤ greatestExponent ∧ n = m * 2 ^ k

variable {n m k : Nat} {e e' : Int} {negative negative' : Bool}

/-- A number with 53 places before the last `k` has not more than `53 + k`. -/
theorem log2_mul_pow_lt (hm : m < 2 ^ 53) (k : Nat) : (m * 2 ^ k).log2 < 53 + k := by
  by_cases hzero : m * 2 ^ k = 0
  · rw [hzero, Nat.log2_zero]
    omega
  · rw [Nat.log2_lt hzero, Nat.pow_add]
    exact Nat.mul_lt_mul_of_pos_right hm (Nat.pow_pos (by decide))

theorem IsIntegral.log2_lt (h : IsIntegral n) : n.log2 < 1024 := by
  obtain ⟨m, k, hm, hk, rfl⟩ := h
  have hlog := log2_mul_pow_lt hm k
  unfold greatestExponent at hk
  omega

/-! ### Rounding -/

/-- A quotient without a remainder is not rounded. -/
theorem roundHalfEven_of_dvd {num den : Nat} (hden : den ≠ 0) (h : den ∣ num) :
    roundHalfEven num den = num / den := by
  have hmod : num % den = 0 := Nat.mod_eq_zero_of_dvd h
  rw [roundHalfEven, hmod]
  refine if_neg ?_
  omega

/-- The last of the 53 binary places that begin with the first one. -/
theorem lastPlace_one (hn : n ≠ 0) : lastPlace n 1 = n.log2 - 52 := by
  have hone : Nat.log2 1 = 0 := by decide
  -- a natural number is at least the power of two at its first place
  have hfits : (scaled n 1 (n.log2 - 52)).2 * 2 ^ 52 ≤ (scaled n 1 (n.log2 - 52)).1 := by
    rw [scaled_eq, Nat.one_mul, Nat.mul_comm,
      mul_pow_toNat_le_iff (a := n.log2) (c := 52) (by decide) (by omega), Nat.mul_comm]
    exact Nat.mul_le_mul_right _ (Nat.log2_self_le hn)
  unfold lastPlace leastExponent
  simp only [hone, Nat.pow_eq]
  rw [Int.natCast_zero, Int.sub_zero, if_pos hfits]
  omega

/-- The exponent of a finite double is in range. -/
theorem exponent_le_of_ofParts (h : ofParts negative k e = finite negative' m e') :
    e' ≤ greatestExponent := by
  simp only [ofParts] at h
  split at h
  all_goals
    split at h
    · cases h
    next hle =>
      cases h
      exact Int.not_lt.1 hle

theorem exponent_le_of_ofRatio {num den : Nat} (h : ofRatio negative num den = finite negative' m e) :
    e ≤ greatestExponent := by
  unfold ofRatio at h
  split at h
  · cases h
    decide
  · exact exponent_le_of_ofParts h

/-! ### Integral doubles -/

/-- The integer that a double is has the value of the double. -/
theorem toInt?_finite_eq_some_iff {i : Int} :
    (finite negative m e).toInt? = some i ↔
      (if negative then -(m : Int) else m) * 2 ^ e.toNat = i * 2 ^ (-e).toNat := by
  unfold toInt?
  simp only [Nat.pow_eq]
  by_cases he : 0 ≤ e
  · rw [if_pos he, Int.toNat_of_nonpos (by omega : -e ≤ 0), Int.pow_zero, Int.mul_one,
      Option.some_inj]
    cases negative <;> simp only [Bool.false_eq_true, if_false, if_true, Int.neg_mul, Int.natCast_mul,
      Int.natCast_pow, Int.cast_ofNat_Int]
  · rw [if_neg he, Int.toNat_of_nonpos (by omega : e ≤ 0), Int.pow_zero, Int.mul_one]
    generalize (-e).toNat = k
    have hpos : 0 < 2 ^ k := Nat.pow_pos (by decide)
    have hcast : ((2 ^ k : Nat) : Int) = 2 ^ k := Int.natCast_pow 2 k
    constructor
    · intro h
      split at h
      next hmod =>
        have hm : ((m / 2 ^ k : Nat) : Int) * 2 ^ k = m := by
          rw [← hcast, ← Int.natCast_mul, Nat.div_mul_cancel (Nat.dvd_of_mod_eq_zero hmod)]
        have hi := Option.some.inj h
        rw [← hi, ← hm]
        cases negative <;> simp only [Bool.false_eq_true, if_false, if_true, Int.neg_mul]
      · cases h
    · intro h
      have hdvd : 2 ^ k ∣ m := by
        have hint : ((2 ^ k : Nat) : Int) ∣ if negative then -(m : Int) else m :=
          ⟨i, by rw [h, hcast, Int.mul_comm]⟩
        cases negative
        · exact Int.natCast_dvd_natCast.1 hint
        · exact Int.natCast_dvd_natCast.1 (Int.dvd_neg.1 hint)
      obtain ⟨q, rfl⟩ := hdvd
      rw [if_pos (Nat.mul_mod_right _ _), Nat.mul_div_cancel_left q hpos, Option.some_inj]
      have hne : (2 : Int) ^ k ≠ 0 := hcast ▸ Int.natCast_ne_zero.2 (Nat.ne_of_gt hpos)
      apply Int.eq_of_mul_eq_mul_right hne
      rw [← h]
      cases negative <;> simp only [Bool.false_eq_true, if_false, if_true, Int.mul_comm, Int.neg_mul,
        Int.natCast_mul, Int.natCast_pow, Int.cast_ofNat_Int]

/-- A natural number that is a double is the double nearest to it. -/
theorem toInt?_ofRatio_of_isIntegral (h : IsIntegral n) :
    (ofRatio false n 1).toInt? = some (n : Int) := by
  by_cases hn : n = 0
  · rw [hn, ofRatio, if_pos rfl]
    exact toInt?_finite_eq_some_iff.2 (by simp)
  obtain ⟨m, k, hm, hk, hnm⟩ := h
  have hplace : lastPlace n 1 ≤ k := by
    have hlog := log2_mul_pow_lt hm k
    rw [← hnm] at hlog
    rw [lastPlace_one hn]
    omega
  have hbound : (scaled n 1 (lastPlace n 1)).1 < (scaled n 1 (lastPlace n 1)).2 * 2 ^ 53 :=
    scaled_lastPlace_lt (by decide)
  rw [ofRatio, if_neg hn]
  generalize lastPlace n 1 = e at hplace hbound ⊢
  simp only [scaled_eq, Nat.one_mul] at hbound ⊢
  have hpos : 0 < 2 ^ e.toNat := Nat.pow_pos (by decide)
  -- no place of the number is below the last place of the double
  have hdvd : 2 ^ e.toNat ∣ n * 2 ^ (-e).toNat := by
    rw [hnm]
    exact Nat.dvd_mul_right_of_dvd
      (Nat.dvd_mul_left_of_dvd (Nat.pow_dvd_pow 2 (by omega)) m) _
  obtain ⟨q, hq⟩ := hdvd
  have hsmall : q < 2 ^ 53 := by
    rw [hq] at hbound
    exact Nat.lt_of_mul_lt_mul_left hbound
  have hparts : ofParts false q e = finite false q e := by
    have hne : q ≠ Nat.pow 2 53 := Nat.ne_of_lt hsmall
    simp only [ofParts, if_neg hne]
    exact if_neg (by omega)
  rw [roundHalfEven_of_dvd (Nat.ne_of_gt hpos) ⟨q, hq⟩, hq, Nat.mul_div_cancel_left q hpos, hparts,
    toInt?_finite_eq_some_iff, if_neg Bool.false_ne_true]
  rw [Nat.mul_comm (2 ^ e.toNat)] at hq
  exact_mod_cast hq.symm

/-- A double that is a natural number has a significand of at most 53 binary places. -/
theorem isIntegral_of_toInt? (hm : m < 2 ^ 53) (he : e ≤ greatestExponent)
    (h : (finite negative m e).toInt? = some (n : Int)) : IsIntegral n := by
  have hvalue := congrArg Int.natAbs (toInt?_finite_eq_some_iff.1 h)
  have habs : (if negative then -(m : Int) else m).natAbs = m := by
    split <;> simp
  rw [Int.natAbs_mul, Int.natAbs_mul, habs, Int.natAbs_pow, Int.natAbs_pow, Int.natAbs_natCast] at hvalue
  by_cases hsign : 0 ≤ e
  · refine ⟨m, e.toNat, hm, by omega, ?_⟩
    rw [Int.toNat_of_nonpos (by omega : -e ≤ 0), Nat.pow_zero, Nat.mul_one] at hvalue
    exact hvalue.symm
  · refine ⟨n, 0, ?_, by decide, (Nat.mul_one n).symm⟩
    rw [Int.toNat_of_nonpos (by omega : e ≤ 0), Nat.pow_zero, Nat.mul_one] at hvalue
    rw [hvalue] at hm
    exact Nat.lt_of_le_of_lt (Nat.le_mul_of_pos_right n (Nat.pow_pos (by decide))) hm

/-- The double nearest to a natural number; one far out of range is taken for infinite at once. -/
theorem ofDecimal_zero (n : Nat) :
    ofDecimal false n 0 = if 309 < n.log2 * 3 / 10 then infinite false else ofRatio false n 1 := by
  by_cases hn : n = 0
  · rw [hn]
    rfl
  have hmiddle : ¬ ((n.log2 + 1) * 31 / 100 + 1 : Nat) + (0 : Int) < -330 := by omega
  unfold ofDecimal
  rw [if_neg hn, if_neg hmiddle, if_pos (Int.le_refl 0)]
  have hten : n * Nat.pow 10 (Int.toNat 0) = n := Nat.mul_one n
  rw [hten]
  split <;> split <;> first | rfl | omega

/-- **The natural numbers that are doubles** are the ones that are the double nearest to them. -/
theorem toInt?_ofDecimal_eq_some_iff :
    (ofDecimal false n 0).toInt? = some (n : Int) ↔ IsIntegral n := by
  rw [ofDecimal_zero]
  constructor
  · intro h
    split at h
    · cases h
    cases hx : ofRatio false n 1 with
    | finite negative m e =>
      rw [hx] at h
      exact isIntegral_of_toInt? (significand_lt_of_ofRatio (by decide) hx)
        (exponent_le_of_ofRatio hx) h
    | infinite negative =>
      rw [hx] at h
      cases h
    | nan =>
      rw [hx] at h
      cases h
  · intro h
    have hlog := h.log2_lt
    rw [if_neg (by omega)]
    exact toInt?_ofRatio_of_isIntegral h

end Binary64

/-- A double becomes an integer if it is one. -/
theorem Number.ofBinary64_eq_int_iff {x : Binary64} {n : Int} :
    Number.ofBinary64 x = .int n ↔ x.toInt? = some n := by
  unfold Number.ofBinary64
  cases x.toInt? with
  | none => simp
  | some i => simp

end SelectorCode
