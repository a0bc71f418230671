import Mathlib.Data.List.Forall2
import SelectorCode.Proofs.Number.Decimal
import SelectorCode.Proofs.Number.Integral
import SelectorCode.Proofs.Text.Trim

/-!
# Spellings of a natural number

A natural number can be written in decimal, or in base sixteen, eight or two behind a prefix. Digits behind a prefix are
read as the exact integer. A decimal is read as the double nearest to it first, so it agrees with the other spellings if
and only if the number is a double.

## Main Definitions

* `Number.IsRadixSpelling`: the spellings with a prefix, in small and in capital letters.
* `Number.IsSpelling`: these and the decimal one.

## Main Statements

* `exists_digits`: the digits of a number in any base.
* `numeral?_of_isRadixSpelling`: a spelling with a prefix is read as its number.
* `numeral?_ofNat`: a decimal is read as the double nearest to it.
* `numeral?_spelling_iff`: when all spellings are read alike.
-/

namespace SelectorCode

/-- The letters behind a zero that name a base. -/
def Number.radixMarks : List (Char × Nat) :=
  [('x', 16), ('X', 16), ('o', 8), ('O', 8), ('b', 2), ('B', 2)]

/-- A zero, a letter that names the base, and the digits of a natural number in that base. Each digit that is a letter
is a small or a capital one. -/
inductive Number.IsRadixSpelling (n : Nat) : Text → Prop
  | intro {mark : Char} {base : Nat} {digits : Text} (mark_mem : (mark, base) ∈ radixMarks)
      (written : List.Forall₂ (fun c d => c = d ∨ c = d.toUpper) digits (Nat.toDigits base n)) :
      IsRadixSpelling n ('0' :: mark :: digits)

/-- The decimal numeral of a natural number, and its spellings in other bases. -/
inductive Number.IsSpelling (n : Nat) : Text → Prop
  | decimal : IsSpelling n (Text.ofNat n)
  | radix {t : Text} (spelling : IsRadixSpelling n t) : IsSpelling n t

open Number (IsRadixSpelling IsSpelling)

variable {n base d : Nat} {ds : List Nat} {t : Text}

/-! ### Digits -/

theorem ofDigits_concat (base : Nat) (ds : List Nat) (d : Nat) :
    ofDigits base (ds ++ [d]) = ofDigits base ds * base + d := by
  simp [ofDigits]

/-- The digits of a number in a base, and what they stand for. -/
theorem exists_digits (hbase : 1 < base) (n : Nat) :
    ∃ ds, ds ≠ [] ∧ (∀ d ∈ ds, d < base) ∧ Nat.toDigits base n = ds.map Nat.digitChar ∧
      ofDigits base ds = n := by
  induction n using Nat.strongRecOn with
  | ind n ih =>
    by_cases hsmall : n < base
    · refine ⟨[n], List.cons_ne_nil _ _, by simpa using hsmall, Nat.toDigits_of_lt_base hsmall, ?_⟩
      simp [ofDigits]
    · have hle := Nat.not_lt.1 hsmall
      obtain ⟨ds, -, hds, hdigits, hvalue⟩ := ih (n / base) (Nat.div_lt_self (by omega) hbase)
      refine ⟨ds ++ [n % base], List.append_ne_nil_of_right_ne_nil _ (List.cons_ne_nil _ _), ?_, ?_, ?_⟩
      · rw [List.forall_mem_append]
        exact ⟨hds, by simpa using Nat.mod_lt n (Nat.lt_trans Nat.one_pos hbase)⟩
      · rw [Nat.toDigits_of_base_le hbase hle, hdigits, List.map_append, List.map_singleton]
      · rw [ofDigits_concat, hvalue, Nat.div_add_mod']

/-- A digit of base sixteen, small or capital, is no blank and has its value. -/
theorem hexValue?_digitChar : ∀ d < 16,
    (Text.isBlank d.digitChar = false ∧ Text.hexValue? d.digitChar = some d) ∧
      Text.isBlank d.digitChar.toUpper = false ∧ Text.hexValue? d.digitChar.toUpper = some d := by
  decide

theorem digitIn?_of_written {c : Char} (hbase : base ≤ 16) (hd : d < base)
    (h : c = d.digitChar ∨ c = d.digitChar.toUpper) :
    Text.isBlank c = false ∧ digitIn? base c = some d := by
  have hdigit := hexValue?_digitChar d (Nat.lt_of_lt_of_le hd hbase)
  obtain ⟨hblank, hvalue⟩ : Text.isBlank c = false ∧ Text.hexValue? c = some d := by
    rcases h with rfl | rfl
    · exact hdigit.1
    · exact hdigit.2
  refine ⟨hblank, ?_⟩
  rw [digitIn?, hvalue]
  exact Option.filter_some_pos (decide_eq_true hd)

/-- Digits in small or capital letters have the values of the digits. -/
theorem mapM_digitIn?_of_written (hbase : base ≤ 16) (hds : ∀ d ∈ ds, d < base)
    (h : List.Forall₂ (fun c d => c = d ∨ c = d.toUpper) t (ds.map Nat.digitChar)) :
    (∀ c ∈ t, Text.isBlank c = false) ∧ t.mapM (digitIn? base) = some ds := by
  rw [List.forall₂_map_right_iff] at h
  induction h with
  | nil => exact ⟨List.forall_mem_nil _, rfl⟩
  | @cons c d t ds hc _ ih =>
    rw [List.forall_mem_cons] at hds
    obtain ⟨hblank, hdigit⟩ := digitIn?_of_written hbase hds.1 hc
    obtain ⟨hblanks, hdigits⟩ := ih hds.2
    refine ⟨List.forall_mem_cons.2 ⟨hblank, hblanks⟩, ?_⟩
    rw [List.mapM_cons, hdigit, hdigits]
    rfl

/-! ### Spellings with a prefix -/

theorem radix?_of_mem_radixMarks : ∀ m ∈ Number.radixMarks,
    radix? m.1 = some m.2 ∧ 1 < m.2 ∧ m.2 ≤ 16 ∧ Text.isBlank m.1 = false := by
  decide

/-- **A spelling with a prefix** is read as its number, however large that is. -/
theorem numeral?_of_isRadixSpelling (h : IsRadixSpelling n t) : numeral? t = some (.int n) := by
  cases h with
  | @intro mark base digits hmark hwritten =>
    obtain ⟨hradix, hone, hbase, hblank⟩ := radix?_of_mem_radixMarks _ hmark
    obtain ⟨ds, hne, hds, hdigits, hvalue⟩ := exists_digits hone n
    rw [hdigits] at hwritten
    obtain ⟨hblanks, hread⟩ := mapM_digitIn?_of_written hbase hds hwritten
    have htrim : Text.trim ('0' :: mark :: digits) = '0' :: mark :: digits :=
      Text.trim_of_forall
        (List.forall_mem_cons.2 ⟨by decide, List.forall_mem_cons.2 ⟨hblank, hblanks⟩⟩)
    have hinteger : radixInteger? ('0' :: mark :: digits) = some n := by
      obtain ⟨c, r, rfl⟩ : ∃ c r, digits = c :: r := by
        refine List.exists_cons_of_ne_nil fun hnil => hne ?_
        rw [hnil, List.forall₂_nil_left_iff, List.map_eq_nil_iff] at hwritten
        exact hwritten
      simp only [radixInteger?, hradix, hread, Option.bind_eq_bind, Option.bind_some, hvalue]
      rfl
    rw [numeral?, htrim, trimmedNumeral?, hinteger]
    rfl

/-! ### Decimal spellings -/

/-- Digits of base ten are no signs, blanks or letters, and have their values. -/
theorem digitValue?_digitChar : ∀ d < 10, Text.isBlank d.digitChar = false ∧
    Text.digitValue? d.digitChar = some d ∧ radix? d.digitChar = none ∧
    d.digitChar ∉ "-+I".toList := by
  decide

theorem readDigits_digitChar (hds : ∀ d ∈ ds, d < 10) :
    readDigits (ds.map Nat.digitChar) = (ds, []) := by
  induction ds with
  | nil => rfl
  | cons d ds ih =>
    rw [List.forall_mem_cons] at hds
    have hvalue := (digitValue?_digitChar d hds.1).2.1
    have hdigit : Text.isDecimalDigit d.digitChar = true := by
      rw [Text.isDecimalDigit, hvalue]
      rfl
    have hrest := ih hds.2
    simp only [readDigits, Prod.mk.injEq] at hrest
    rw [readDigits, List.map_cons, List.takeWhile_cons_of_pos hdigit,
      List.dropWhile_cons_of_pos hdigit, List.filterMap_cons_some hvalue, hrest.1, hrest.2]

/-- Digits do not begin with a sign or with the letter of an infinity. -/
theorem not_mem_of_digitChar (hds : ∀ d ∈ ds, d < 10) {c : Char} {r : Text}
    (h : ds.map Nat.digitChar = c :: r) : c ∉ "-+I".toList := by
  cases ds with
  | nil => cases h
  | cons d ds =>
    obtain ⟨rfl, -⟩ := List.cons.inj h
    exact (digitValue?_digitChar d (hds d List.mem_cons_self)).2.2.2

/-- Digits alone are a decimal with no sign, no fraction and no exponent. -/
theorem decimal?_digitChar (hne : ds ≠ []) (hds : ∀ d ∈ ds, d < 10) :
    decimal? (ds.map Nat.digitChar) = some ⟨false, ofDigits 10 ds, 0⟩ := by
  have hsign : readSign (ds.map Nat.digitChar) = (false, ds.map Nat.digitChar) := by
    unfold readSign
    split
    next r heq => exact absurd (by decide) (not_mem_of_digitChar hds heq)
    next r heq => exact absurd (by decide) (not_mem_of_digitChar hds heq)
    next => rfl
  have hempty : ds.isEmpty = false := List.isEmpty_eq_false_iff.2 hne
  simp [decimal?, hsign, readDigits_digitChar hds, readFraction, hempty, exponent?]

/-- **A decimal** is read as the double nearest to its number. -/
theorem numeral?_ofNat (n : Nat) :
    numeral? (Text.ofNat n) = some (Number.ofBinary64 (Binary64.ofDecimal false n 0)) := by
  obtain ⟨ds, hne, hds, hdigits, hvalue⟩ := exists_digits (by decide : 1 < 10) n
  rw [Text.ofNat, hdigits]
  have htrim : Text.trim (ds.map Nat.digitChar) = ds.map Nat.digitChar := by
    refine Text.trim_of_forall fun c hc => ?_
    obtain ⟨d, hd, rfl⟩ := List.mem_map.1 hc
    exact (digitValue?_digitChar d (hds d hd)).1
  have hinteger : radixInteger? (ds.map Nat.digitChar) = none := by
    unfold radixInteger?
    split
    next p c r heq =>
      -- the second digit is no letter that names a base
      have hp : p ∈ ds.map Nat.digitChar := heq ▸ List.mem_cons_of_mem _ List.mem_cons_self
      obtain ⟨d, hd, rfl⟩ := List.mem_map.1 hp
      rw [(digitValue?_digitChar d (hds d hd)).2.2.1]
      rfl
    next => rfl
  have hinfinity : infinity? (ds.map Nat.digitChar) = none := by
    unfold infinity?
    split
    next h =>
      rcases h with h | h
      · exact absurd (by decide) (not_mem_of_digitChar hds h)
      · exact absurd (by decide) (not_mem_of_digitChar hds h)
    split
    next h => exact absurd (by decide) (not_mem_of_digitChar hds h)
    next => rfl
  have hempty : (ds.map Nat.digitChar).isEmpty = false := by simpa using hne
  simp [numeral?, htrim, trimmedNumeral?, hempty, hinteger, hinfinity, decimal?_digitChar hne hds,
    hvalue, Decimal.toBinary64]

/-! ### All spellings -/

theorem isRadixSpelling_hexadecimal (n : Nat) :
    IsRadixSpelling n ('0' :: 'x' :: Nat.toDigits 16 n) :=
  have hmark : ('x', 16) ∈ Number.radixMarks := by decide
  .intro hmark (List.forall₂_same.2 fun _ _ => Or.inl rfl)

/-- **The spellings of a natural number.** With a prefix, every spelling is read as the number; in decimal, it is read as
the double nearest to the number, which becomes an integer if it is one. So all spellings are read alike if and only if
the number is a double. -/
theorem numeral?_spelling_iff (n : Nat) :
    (∀ t, IsRadixSpelling n t → numeral? t = some (.int n)) ∧
      numeral? (Text.ofNat n) = some (Number.ofBinary64 (Binary64.ofDecimal false n 0)) ∧
      ((∀ t u, IsSpelling n t → IsSpelling n u → numeral? t = numeral? u) ↔
        Binary64.IsIntegral n) := by
  refine ⟨fun t => numeral?_of_isRadixSpelling, numeral?_ofNat n, ?_⟩
  rw [← Binary64.toInt?_ofDecimal_eq_some_iff, ← Number.ofBinary64_eq_int_iff]
  constructor
  · intro halike
    have hhex := isRadixSpelling_hexadecimal n
    have heq := halike _ _ .decimal (.radix hhex)
    rw [numeral?_ofNat, numeral?_of_isRadixSpelling hhex] at heq
    exact Option.some.inj heq
  · intro hnearest
    have hint : ∀ t, IsSpelling n t → numeral? t = some (.int n) := by
      intro t ht
      cases ht with
      | decimal => rw [numeral?_ofNat, hnearest]
      | radix hradix => exact numeral?_of_isRadixSpelling hradix
    intro t u ht hu
    rw [hint t ht, hint u hu]

/-- Small and capital digits behind a capital letter. -/
theorem numeral?_spelling_capitals :
    IsRadixSpelling 1023 "0X3fF".toList ∧ numeral? "0X3fF".toList = some (.int 1023) ∧
      numeral? "0X3fF".toList = numeral? "1023".toList := by
  have hdigits : List.Forall₂ (fun c d => c = d ∨ c = d.toUpper) "3fF".toList
      (Nat.toDigits 16 1023) :=
    .cons (Or.inl rfl) (.cons (Or.inl rfl) (.cons (Or.inr rfl) .nil))
  have hspelling : IsRadixSpelling 1023 "0X3fF".toList := .intro (by decide) hdigits
  obtain ⟨hradix, -, hiff⟩ := numeral?_spelling_iff 1023
  exact ⟨hspelling, hradix _ hspelling,
    hiff.2 ⟨1023, 0, by decide, by decide, rfl⟩ _ _ (.radix hspelling) .decimal⟩

/-- Not all spellings of a number are read alike: between `2 ^ 53` and `2 ^ 54` only the even numbers are doubles. -/
theorem not_numeral?_spelling :
    ¬ ∀ n t u, IsSpelling n t → IsSpelling n u → numeral? t = numeral? u := by
  intro h
  have heq := h 9007199254740993 _ _ .decimal (.radix (isRadixSpelling_hexadecimal _))
  exact absurd heq (by decide +kernel)

end SelectorCode
