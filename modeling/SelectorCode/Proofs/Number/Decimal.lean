import SelectorCode.Number.Numeral
import SelectorCode.Proofs.Number.Shortest

/-!
# Numbers are written as decimals

The grammar of the decimal numbers that JavaScript, Java and C# share: a minus sign if there is one, a whole part
without superfluous zeros, a fraction and an exponent. Every integer and every finite double that is read is written in
it.

## Main Definitions

* `Text.IsSignificant`: digits, the first of which is not zero.
* `Text.IsDecimal`: decimal numbers, with `Text.IsWhole`, `Text.IsFraction` and `Text.IsExponent` for their parts.

## Main Statements

* `isSignificant_shortest`: the digits of the shortest decimal of a positive double.
* `Binary64.isDecimal_text`: a finite double is written as a decimal number.
* `Number.isDecimal_text_of_numeral?`: so is a number that is read, unless it is infinite.
-/

namespace SelectorCode

namespace Text

/-! ### Decimal numbers -/

/-- Digits, the first of which is not zero. -/
inductive IsSignificant : Text → Prop
  | intro {c : Char} {r : Text} (digit : c.isDigit = true) (ne_zero : c ≠ '0')
      (rest : ∀ d ∈ r, d.isDigit = true) : IsSignificant (c :: r)

/-- What stands before the decimal point: a zero, or digits that do not begin with one. -/
inductive IsWhole : Text → Prop
  | zero : IsWhole ['0']
  | significant {t : Text} (digits : IsSignificant t) : IsWhole t

/-- The decimal point and digits, or nothing. -/
inductive IsFraction : Text → Prop
  | absent : IsFraction []
  | point {t : Text} (ne_nil : t ≠ []) (digits : ∀ c ∈ t, c.isDigit = true) :
      IsFraction ('.' :: t)

/-- The power of ten with a sign, or nothing. -/
inductive IsExponent : Text → Prop
  | absent : IsExponent []
  | power {sign : Char} {t : Text} (sign_mem : sign ∈ ['+', '-']) (ne_nil : t ≠ [])
      (digits : ∀ c ∈ t, c.isDigit = true) : IsExponent ('e' :: sign :: t)

/-- The decimal numbers without a sign. -/
inductive IsUnsigned : Text → Prop
  | intro {whole fraction exponent : Text} (isWhole : IsWhole whole)
      (isFraction : IsFraction fraction) (isExponent : IsExponent exponent) :
      IsUnsigned (whole ++ fraction ++ exponent)

/-- The decimal numbers. -/
inductive IsDecimal : Text → Prop
  | unsigned {t : Text} (isUnsigned : IsUnsigned t) : IsDecimal t
  | negative {t : Text} (isUnsigned : IsUnsigned t) : IsDecimal ('-' :: t)

variable {t u : Text} {n k : Nat}

theorem IsSignificant.append (ht : t.IsSignificant) (hu : ∀ c ∈ u, c.isDigit = true) :
    IsSignificant (t ++ u) := by
  cases ht with
  | intro hdigit hne hrest => exact .intro hdigit hne (List.forall_mem_append.2 ⟨hrest, hu⟩)

theorem IsSignificant.take (ht : t.IsSignificant) (hk : 0 < k) : IsSignificant (t.take k) := by
  cases ht with
  | intro hdigit hne hrest =>
    obtain ⟨k, rfl⟩ := Nat.exists_eq_succ_of_ne_zero (Nat.ne_of_gt hk)
    exact .intro hdigit hne fun c hc => hrest c (List.mem_of_mem_take hc)

theorem IsSignificant.isDigit (ht : t.IsSignificant) : ∀ c ∈ t, c.isDigit = true := by
  cases ht with
  | intro hdigit _ hrest => exact List.forall_mem_cons.2 ⟨hdigit, hrest⟩

theorem IsSignificant.ne_nil (ht : t.IsSignificant) : t ≠ [] := by
  cases ht with
  | intro => exact List.cons_ne_nil _ _

theorem IsWhole.isUnsigned (ht : t.IsWhole) : t.IsUnsigned := by
  have h := IsUnsigned.intro ht .absent .absent
  rw [List.append_nil, List.append_nil] at h
  exact h

/-- A decimal number begins with a digit or with a minus sign. -/
theorem IsDecimal.exists_head (ht : t.IsDecimal) :
    ∃ c, t.head? = some c ∧ (c.isDigit = true ∨ c = '-') := by
  cases ht with
  | negative => exact ⟨'-', rfl, Or.inr rfl⟩
  | unsigned hunsigned =>
    obtain ⟨hwhole, -, -⟩ := hunsigned
    cases hwhole with
    | zero => exact ⟨'0', rfl, Or.inl (by decide)⟩
    | significant hdigits =>
      cases hdigits with
      | intro hdigit => exact ⟨_, rfl, Or.inl hdigit⟩

/-! ### Natural numbers -/

theorem isDigit_of_mem_ofNat {c : Char} (h : c ∈ ofNat n) : c.isDigit = true :=
  Nat.isDigit_of_mem_toDigits (by decide) (by decide) h

theorem isDigit_of_mem_zeros {c : Char} (h : c ∈ List.replicate n '0') : c.isDigit = true := by
  rw [List.eq_of_mem_replicate h]
  decide

/-- The digits of a positive number do not begin with a zero. -/
theorem isSignificant_ofNat (hn : 0 < n) : (ofNat n).IsSignificant := by
  induction n using Nat.strongRecOn with
  | ind n ih =>
    by_cases hsmall : n < 10
    · have hall : ∀ n < 10, 0 < n → n.digitChar.isDigit = true ∧ n.digitChar ≠ '0' := by decide
      obtain ⟨hdigit, hne⟩ := hall n hsmall hn
      rw [ofNat, Nat.toDigits_of_lt_base hsmall]
      exact .intro hdigit hne (List.forall_mem_nil _)
    · have hdiv : 0 < n / 10 := by omega
      have hlast : (n % 10).digitChar.isDigit = true := by
        rw [Nat.isDigit_digitChar, decide_eq_true_iff]
        exact Nat.mod_lt n (by decide)
      rw [ofNat, Nat.toDigits_of_base_le (by decide) (Nat.not_lt.1 hsmall)]
      refine (ih (n / 10) (by omega) hdiv).append fun c hc => ?_
      rw [List.mem_singleton.1 hc]
      exact hlast

theorem isWhole_ofNat (n : Nat) : (ofNat n).IsWhole := by
  by_cases hn : n = 0
  · rw [hn]
    exact .zero
  · exact .significant (isSignificant_ofNat (Nat.pos_of_ne_zero hn))

theorem isDecimal_ofInt (n : Int) : (ofInt n).IsDecimal := by
  cases n with
  | ofNat n => exact .unsigned (isWhole_ofNat n).isUnsigned
  | negSucc n => exact .negative (isWhole_ofNat (n + 1)).isUnsigned

end Text

/-! ### Doubles -/

open Text (IsSignificant IsWhole IsFraction IsExponent IsUnsigned IsDecimal)

variable {digits : Text} {k : Int} {m n : Nat} {e : Int}

/-- Without its final zeros, a positive number still has its first digit. -/
theorem isSignificant_significantDigits (hn : 0 < n) : (significantDigits n).1.IsSignificant := by
  have hsignificant := Text.isSignificant_ofNat hn
  have hlength : (Text.ofNat n).reverse.length = (Text.ofNat n).length := List.length_reverse
  refine hsignificant.take (Nat.sub_pos_of_lt (Nat.lt_of_le_of_ne ?_ fun heq => ?_))
  · rw [← hlength]
    exact (List.takeWhile_sublist _).length_le
  · -- the digits would all be zeros, and the first one is not
    rw [← hlength] at heq
    have hall := (List.takeWhile_prefix _).eq_of_length heq
    generalize Text.ofNat n = t at hsignificant hall
    cases hsignificant with
    | @intro c _ _ hne _ =>
      have hc : c ∈ List.takeWhile (· = '0') (c :: _).reverse :=
        hall ▸ List.mem_reverse.2 List.mem_cons_self
      exact hne (of_decide_eq_true (List.all_eq_true.1 List.all_takeWhile c hc))

theorem isSignificant_shortest (hm : 0 < m) (hbound : m < 2 ^ 53) :
    (shortest m e).1.IsSignificant := by
  obtain ⟨n, hn, hdigits⟩ := exists_shortest hm hbound e
  rw [hdigits]
  exact isSignificant_significantDigits hn

theorem isUnsigned_positional (h : digits.IsSignificant) : (positional digits k).IsUnsigned := by
  unfold positional
  split
  · have hfraction : ∀ c ∈ List.replicate (-k - 1).toNat '0' ++ digits, c.isDigit = true :=
      List.forall_mem_append.2 ⟨fun c hc => Text.isDigit_of_mem_zeros hc, h.isDigit⟩
    have hunsigned := IsUnsigned.intro .zero
      (.point (List.append_ne_nil_of_right_ne_nil _ h.ne_nil) hfraction) .absent
    rw [List.append_nil] at hunsigned
    exact hunsigned
  · have hwhole := (h.take (Nat.succ_pos k.toNat)).append fun c hc =>
      Text.isDigit_of_mem_zeros (n := k.toNat + 1 - (digits.take (k.toNat + 1)).length) hc
    have hfraction : IsFraction ('.' :: if (digits.drop (k.toNat + 1)).isEmpty then ['0']
        else digits.drop (k.toNat + 1)) := by
      split
      · exact .point (by decide) (List.forall_mem_singleton.2 (by decide))
      next hempty =>
        exact .point (by simpa using hempty) fun c hc => h.isDigit c (List.mem_of_mem_drop hc)
    have hunsigned := IsUnsigned.intro (.significant hwhole) hfraction .absent
    rw [List.append_nil] at hunsigned
    exact hunsigned

theorem isUnsigned_scientific (h : digits.IsSignificant) : (scientific digits k).IsUnsigned := by
  have hfraction : IsFraction (if digits.length ≤ 1 then [] else '.' :: digits.drop 1) := by
    split
    · exact .absent
    next hlong =>
      refine .point ?_ fun c hc => h.isDigit c (List.mem_of_mem_drop hc)
      rw [Ne, List.drop_eq_nil_iff]
      exact hlong
  have hexponent : IsExponent ('e' :: (if k < 0 then '-' else '+') ::
      (List.replicate (2 - (Text.ofNat k.natAbs).length) '0' ++ Text.ofNat k.natAbs)) := by
    refine .power ?_ (List.append_ne_nil_of_right_ne_nil _ Nat.toDigits_ne_nil) ?_
    · split <;> decide
    · exact List.forall_mem_append.2 ⟨fun c hc => Text.isDigit_of_mem_zeros hc,
        fun c hc => Text.isDigit_of_mem_ofNat hc⟩
  have hunsigned := IsUnsigned.intro (.significant (h.take Nat.one_pos)) hfraction hexponent
  unfold scientific
  simp only [List.append_assoc, List.cons_append] at hunsigned ⊢
  exact hunsigned

/-- A double with a significand below `2 ^ 53` is written as a decimal number. -/
theorem Binary64.isDecimal_text {negative : Bool} (hbound : m < 2 ^ 53) :
    (finite negative m e).text.IsDecimal := by
  have hunsigned : IsUnsigned (if m = 0 then "0.0".toList
      else if -4 ≤ (shortest m e).2 ∧ (shortest m e).2 < 16 then
        positional (shortest m e).1 (shortest m e).2
      else scientific (shortest m e).1 (shortest m e).2) := by
    split
    · exact .intro .zero (.point (by decide) (List.forall_mem_singleton.2 (by decide))) .absent
    next hzero =>
      have hdigits := isSignificant_shortest (e := e) (Nat.pos_of_ne_zero hzero) hbound
      split
      · exact isUnsigned_positional hdigits
      · exact isUnsigned_scientific hdigits
  cases negative with
  | false => exact .unsigned hunsigned
  | true => exact .negative hunsigned

/-! ### Numbers that are read -/

theorem isFinite_infinity? {t : Text} {x : Binary64} (h : infinity? t = some x) :
    x.isFinite = false := by
  unfold infinity? at h
  split at h
  · cases h
    rfl
  split at h
  · cases h
    rfl
  cases h

theorem Number.eq_of_ofBinary64 {x y : Binary64} (h : Number.ofBinary64 x = .float y) : x = y := by
  unfold Number.ofBinary64 at h
  split at h
  · cases h
  · cases h
    rfl

/-- The finite doubles that are read are those of decimals. -/
theorem exists_decimal_of_numeral? {t : Text} {x : Binary64} (h : numeral? t = some (.float x))
    (hfinite : x.isFinite = true) : ∃ d : Decimal, d.toBinary64 = x := by
  unfold numeral? trimmedNumeral? at h
  split at h
  · cases h
  split at h
  · cases h
  split at h
  next hinfinity =>
    cases h
    rw [isFinite_infinity? hinfinity] at hfinite
    cases hfinite
  obtain ⟨d, -, hd⟩ := Option.map_eq_some_iff.1 h
  exact ⟨d, Number.eq_of_ofBinary64 hd⟩

/-- A number that is read is written as a decimal number, unless it is infinite. -/
theorem Number.isDecimal_text_of_numeral? {t : Text} {number : Number}
    (h : numeral? t = some number) (hfinite : ∀ x, number = .float x → x.isFinite = true) :
    number.text.IsDecimal := by
  cases number with
  | int n => exact Text.isDecimal_ofInt n
  | float x =>
    obtain ⟨d, hd⟩ := exists_decimal_of_numeral? h (hfinite x rfl)
    cases x with
    | finite negative m e => exact Binary64.isDecimal_text (Binary64.significand_lt_of_ofDecimal hd)
    | infinite negative => exact absurd (hfinite _ rfl) Bool.false_ne_true
    | nan => exact absurd (hfinite _ rfl) Bool.false_ne_true

end SelectorCode
