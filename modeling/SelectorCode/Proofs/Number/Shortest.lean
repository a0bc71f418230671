import SelectorCode.Proofs.Number.Range

/-!
# Every double has a shortest decimal

The search for the shortest decimal of a positive double ends with one of at most seventeen digits, and not with zero.
If `m` is the significand and `u` a quarter of the last place, the first digit is in a place `k` with
`10 ^ k ≤ 4 * m * u`. On the grid of the seventeenth digit, a step is `10 ^ (k - 16)`, which is less than `4 * u`
because `m` is below `2 ^ 53`. At a power of two, where the interval is only `3 * u` wide, `m` is `2 ^ 52`, and a step is
less than `2 * u`.

## Main Definitions

* `RoundingInterval.step`, `RoundingInterval.unit`, `RoundingInterval.below`: the grid, the interval and the multiple
  below the value, as `onGrid?` compares them.

## Main Statements

* `pow_decimalExponent_le`: the first digit is in its place.
* `onGrid?_ne_none`: a grid with steps narrower than the interval has a point in it.
* `exists_shortest`: the shortest decimal has the digits of a positive number.
-/

namespace SelectorCode

/-! ### The first digit -/

theorem lt_pow_length_ofNat (n : Nat) : n < 10 ^ (Text.ofNat n).length :=
  (Nat.length_toDigits_le_iff (by decide) Nat.length_toDigits_pos).1 (Nat.le_refl _)

theorem pow_length_ofNat_le {n : Nat} (hn : 0 < n) : 10 ^ ((Text.ofNat n).length - 1) ≤ n := by
  by_cases hone : (Text.ofNat n).length - 1 = 0
  · rw [hone]
    exact hn
  · have hpos : 0 < (Text.ofNat n).length := Nat.length_toDigits_pos
    refine Nat.not_lt.1 fun hlt => ?_
    have hle : (Text.ofNat n).length ≤ (Text.ofNat n).length - 1 :=
      (Nat.length_toDigits_le_iff (by decide) (Nat.pos_of_ne_zero hone)).2 hlt
    omega

/-- The power of ten of the first digit does not exceed the quotient. -/
theorem pow_decimalExponent_le {num den : Nat} (hnum : 0 < num) (hden : 0 < den) :
    den * 10 ^ (decimalExponent num den).toNat ≤ num * 10 ^ (-decimalExponent num den).toNat := by
  unfold decimalExponent
  split
  next hle =>
    have hquotient : 0 < num / den := Nat.div_pos hle hden
    have hpos : 0 < (Text.ofNat (num / den)).length := Nat.length_toDigits_pos
    rw [mul_pow_toNat_le_iff (a := (Text.ofNat (num / den)).length - 1) (c := 0) (by decide)
      (by omega), Nat.pow_zero, Nat.mul_one, Nat.mul_comm]
    exact (Nat.le_div_iff_mul_le hden).1 (pow_length_ofNat_le hquotient)
  next hlt =>
    rw [mul_pow_toNat_le_iff (a := 0) (c := (Text.ofNat ((den + num - 1) / num - 1)).length)
      (by decide) (by omega), Nat.pow_zero, Nat.mul_one]
    -- the quotient of `den` and `num`, rounded up, is a power of ten at most
    have hpower : (den + num - 1) / num ≤ 10 ^ (Text.ofNat ((den + num - 1) / num - 1)).length :=
      Nat.le_of_pred_lt (lt_pow_length_ofNat _)
    have hround : den + num - 1 < num * ((den + num - 1) / num + 1) :=
      Nat.lt_mul_div_succ _ hnum
    have hmul := Nat.mul_le_mul_left num hpower
    rw [Nat.mul_add, Nat.mul_one] at hround
    omega

/-! ### Points of a grid -/

namespace RoundingInterval

variable {i : RoundingInterval} {grid : Int} {n : Nat}

/-- What a multiple of `10 ^ grid` is multiplied by to be compared. -/
def step (i : RoundingInterval) (grid : Int) : Nat :=
  i.den * 10 ^ grid.toNat

/-- What the ends of an interval are multiplied by to be compared. -/
def unit (i : RoundingInterval) (grid : Int) : Nat :=
  i.num * 10 ^ (-grid).toNat

/-- The last multiple of `10 ^ grid` up to the value. -/
def below (i : RoundingInterval) (grid : Int) : Nat :=
  i.value * i.unit grid / i.step grid

/-- A multiple of `10 ^ grid` is between the ends. -/
def Holds (i : RoundingInterval) (grid : Int) (n : Nat) : Prop :=
  i.low * i.unit grid < n * i.step grid ∧ n * i.step grid < i.high * i.unit grid

theorem onGrid?_eq_some_cases (h : onGrid? i grid = some n) :
    n = i.below grid ∨ n = i.below grid + 1 := by
  simp only [onGrid?] at h
  split at h
  · cases h
    split
    · exact Or.inr rfl
    · exact Or.inl rfl
  · cases h
    exact Or.inl rfl
  · cases h
    exact Or.inr rfl
  · cases h

/-- A neighbour of the value between the ends is enough for a point of the grid to be found. -/
theorem onGrid?_ne_none_of_holds
    (h : i.Holds grid (i.below grid) ∨ i.Holds grid (i.below grid + 1)) :
    onGrid? i grid ≠ none := by
  -- a point between the ends is inside whether or not the ends themselves are
  have hinside : ∀ a, i.Holds grid a →
      (if i.closed then decide (i.low * i.unit grid ≤ a * i.step grid) &&
          decide (a * i.step grid ≤ i.high * i.unit grid)
        else decide (i.low * i.unit grid < a * i.step grid) &&
          decide (a * i.step grid < i.high * i.unit grid)) = true := by
    rintro a ⟨hlow, hhigh⟩
    split
    · simp [Nat.le_of_lt hlow, Nat.le_of_lt hhigh]
    · simp [hlow, hhigh]
  intro hnone
  simp only [onGrid?] at hnone
  split at hnone
  · cases hnone
  · cases hnone
  · cases hnone
  next hbelow habove =>
    rcases h with h | h
    · exact Bool.noConfusion ((hinside _ h).symm.trans hbelow)
    · exact Bool.noConfusion ((hinside _ h).symm.trans habove)

/-- A grid with steps narrower than the interval has a point in it. -/
theorem onGrid?_ne_none (hlow : i.low ≤ i.value) (hhigh : i.value < i.high)
    (hunit : 0 < i.unit grid) (hstep : 0 < i.step grid)
    (hnarrow : i.low * i.unit grid + i.step grid < i.high * i.unit grid) :
    onGrid? i grid ≠ none := by
  refine onGrid?_ne_none_of_holds ?_
  have hvalue : i.low * i.unit grid ≤ i.value * i.unit grid := Nat.mul_le_mul_right _ hlow
  have hend : i.value * i.unit grid < i.high * i.unit grid :=
    Nat.mul_lt_mul_of_pos_right hhigh hunit
  have hbelow : i.below grid * i.step grid ≤ i.value * i.unit grid := Nat.div_mul_le_self _ _
  have habove : i.value * i.unit grid < (i.below grid + 1) * i.step grid := by
    rw [Nat.mul_comm (i.below grid + 1)]
    exact Nat.lt_mul_div_succ _ hstep
  by_cases h : i.low * i.unit grid < i.below grid * i.step grid
  · exact Or.inl ⟨h, by omega⟩
  · refine Or.inr ⟨by omega, ?_⟩
    rw [Nat.add_mul, Nat.one_mul]
    omega

/-- The place of the first digit of the value. -/
def first (i : RoundingInterval) : Int :=
  decimalExponent (i.value * i.num) i.den

/-- On the grid of the `k`-th digit behind the first one, `10 ^ k` steps do not exceed the value. -/
theorem step_mul_pow_le (hnum : 0 < i.value * i.num) (hden : 0 < i.den) (k : Nat) :
    i.step (i.first - k) * 10 ^ k ≤ i.value * i.unit (i.first - k) := by
  have hdigit : i.den * 10 ^ i.first.toNat ≤ i.value * i.num * 10 ^ (-i.first).toNat :=
    pow_decimalExponent_le hnum hden
  have hsplit := (mul_pow_toNat_le_iff (a := (i.first - k).toNat + k)
    (c := (-(i.first - k)).toNat) (by decide) (by omega)).1 hdigit
  rw [Nat.pow_add, ← Nat.mul_assoc, Nat.mul_assoc i.value] at hsplit
  exact hsplit

/-- On a grid with a step up to the value, no point that is found is zero. -/
theorem pos_of_onGrid? (hstep : 0 < i.step grid) (hle : i.step grid ≤ i.value * i.unit grid)
    (h : onGrid? i grid = some n) : 0 < n := by
  have hbelow : 0 < i.below grid := Nat.div_pos hle hstep
  rcases onGrid?_eq_some_cases h with rfl | rfl
  · exact hbelow
  · exact Nat.succ_pos _

end RoundingInterval

/-! ### The search -/

namespace RoundingInterval

variable {m : Nat} {e grid : Int}

theorem of_unit_pos (m : Nat) (e grid : Int) : 0 < (RoundingInterval.of m e).unit grid :=
  Nat.mul_pos (Nat.pow_pos (by decide)) (Nat.pow_pos (by decide))

theorem of_step_pos (m : Nat) (e grid : Int) : 0 < (RoundingInterval.of m e).step grid :=
  Nat.mul_pos (Nat.pow_pos (by decide)) (Nat.pow_pos (by decide))

/-- `10 ^ k` steps in the place `k` behind the first digit do not exceed a positive double. -/
theorem of_step_mul_pow_le (hm : 0 < m) (e : Int) (k : Nat) :
    (RoundingInterval.of m e).step ((RoundingInterval.of m e).first - k) * 10 ^ k ≤
      (RoundingInterval.of m e).value *
        (RoundingInterval.of m e).unit ((RoundingInterval.of m e).first - k) :=
  step_mul_pow_le (Nat.mul_pos (Nat.mul_pos (by decide) hm) (Nat.pow_pos (by decide)))
    (Nat.pow_pos (by decide)) k

/-- With seventeen digits, a step is narrower than the interval of a double. -/
theorem of_narrow (hm : 0 < m) (hbound : m < 2 ^ 53)
    (hstep : (RoundingInterval.of m e).step grid * 10 ^ 16 ≤
      (RoundingInterval.of m e).value * (RoundingInterval.of m e).unit grid) :
    (RoundingInterval.of m e).low * (RoundingInterval.of m e).unit grid +
        (RoundingInterval.of m e).step grid <
      (RoundingInterval.of m e).high * (RoundingInterval.of m e).unit grid := by
  have hunit := of_unit_pos m e grid
  generalize (RoundingInterval.of m e).unit grid = unit at *
  generalize (RoundingInterval.of m e).step grid = step at *
  have hvalue : (RoundingInterval.of m e).value = 4 * m := rfl
  have hhigh : (RoundingInterval.of m e).high = 4 * m + 2 := rfl
  have hlow : (RoundingInterval.of m e).low =
      4 * m - if m = 2 ^ 52 ∧ Binary64.leastExponent < e then 1 else 2 := rfl
  rw [hvalue] at hstep
  rw [hlow, hhigh]
  split
  next hpower =>
    rw [hpower.1] at hstep ⊢
    omega
  next =>
    -- the interval is four units wide, and a step is less than `2 ^ 55 / 10 ^ 16` of them
    have hwidth : (4 * m + 2) * unit = (4 * m - 2) * unit + 4 * unit := by
      rw [← Nat.add_mul]
      congr 1
      omega
    have hle : 4 * m * unit ≤ 2 ^ 55 * unit := Nat.mul_le_mul_right unit (by omega)
    omega

/-- The grid of the seventeenth digit has a point in the interval. -/
theorem of_onGrid?_ne_none (hm : 0 < m) (hbound : m < 2 ^ 53) (e : Int) :
    onGrid? (RoundingInterval.of m e) ((RoundingInterval.of m e).first - (16 : Nat)) ≠ none := by
  refine onGrid?_ne_none (Nat.sub_le _ _) ?_ (of_unit_pos ..) (of_step_pos ..)
    (of_narrow hm hbound (of_step_mul_pow_le hm e 16))
  exact Nat.lt_add_of_pos_right (by decide)

end RoundingInterval

/-- **Every double has a shortest decimal.** The digits of a positive double are those of a positive number. -/
theorem exists_shortest {m : Nat} (hm : 0 < m) (hbound : m < 2 ^ 53) (e : Int) :
    ∃ n > 0, (shortest m e).1 = (significantDigits n).1 := by
  have hfound : (List.range 17).findSome? (fun k : Nat =>
      (onGrid? (RoundingInterval.of m e) ((RoundingInterval.of m e).first - k)).map
        (·, (RoundingInterval.of m e).first - k)) ≠ none := by
    intro hnone
    have hlast := List.findSome?_eq_none_iff.1 hnone 16 (by decide)
    exact RoundingInterval.of_onGrid?_ne_none hm hbound e (Option.map_eq_none_iff.1 hlast)
  obtain ⟨⟨n, grid⟩, hsome⟩ := Option.ne_none_iff_exists'.1 hfound
  obtain ⟨k, -, hpoint⟩ := List.exists_of_findSome?_eq_some hsome
  obtain ⟨n, hn, heq⟩ := Option.map_eq_some_iff.1 hpoint
  cases heq
  refine ⟨n, RoundingInterval.pos_of_onGrid? (RoundingInterval.of_step_pos ..) ?_ hn, ?_⟩
  · exact Nat.le_trans (Nat.le_mul_of_pos_right _ (Nat.pow_pos (by decide)))
      (RoundingInterval.of_step_mul_pow_le hm e k)
  · simp only [shortest]
    rw [RoundingInterval.first] at hsome
    rw [hsome]

end SelectorCode
