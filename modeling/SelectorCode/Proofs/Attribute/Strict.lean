import Mathlib.Data.List.Forall2
import Mathlib.Data.Option.Basic
import SelectorCode.Proofs.Attribute.Locality

/-!
# The strict mode refines the permissive one

The two modes differ only in words without quotation marks. A word of the strict mode ends at the first blank, and only
blanks stand between it and the closing bracket; the permissive mode takes the blanks as a part of the word and is at the
same bracket then. So both read on at the same place behind every condition, and a value of the strict mode is what the
text of the permissive mode stands for.

## Main Definitions

* `Value.ofWord?`: the truth value or the number that a text stands for, blanks at its end aside.
* `Value.Refines`: the same value, or what a text stands for.
* `Condition.Refines`: the same test with a value that refines.

## Main Statements

* `readUnquoted_refines`, `readOperand_refines`: the modes read on at the same bracket.
* `readConditions_refines`: they read the same conditions.
* `AttributeSelector.ofText_refines`: what the strict mode reads, the permissive mode reads too.
-/

namespace SelectorCode

/-! ### Refinement -/

/-- What a text stands for where a truth value or a number is expected; blanks at its end do not count. -/
def Value.ofWord? (t : Text) : Option Value :=
  if Text.trimEnd t = "true".toList then some (.bool true)
  else if Text.trimEnd t = "false".toList then some (.bool false)
  else (numeral? t).map .number

/-- A value is the other one, or what that stands for if it is a text. -/
def Value.Refines (v w : Value) : Prop :=
  v = w ∨ ∃ t, w = .text t ∧ Value.ofWord? t = some v

/-- Two conditions that differ at most in a value that the one refines. -/
structure Condition.Refines (c d : Condition) : Prop where
  path : c.path = d.path
  operator : c.test.operator = d.test.operator
  isCaseSensitive : c.test.isCaseSensitive = d.test.isCaseSensitive
  value : Option.Rel Value.Refines c.test.value? d.test.value?

theorem Value.Refines.refl (v : Value) : v.Refines v :=
  Or.inl rfl

/-- No word stands for a text. -/
theorem Value.not_isText_of_ofWord? {t : Text} {v : Value} (h : Value.ofWord? t = some v) :
    v.isText = false := by
  unfold Value.ofWord? at h
  split at h
  · cases h
    rfl
  split at h
  · cases h
    rfl
  · obtain ⟨n, -, rfl⟩ := Option.map_eq_some_iff.1 h
    rfl

/-- A text refines only itself. -/
theorem Value.Refines.eq_of_isText {v w : Value} (h : v.Refines w) (hv : v.isText = true) : v = w := by
  rcases h with rfl | ⟨t, -, hword⟩
  · rfl
  · rw [Value.not_isText_of_ofWord? hword] at hv
    exact Bool.noConfusion hv

namespace Attribute

variable {op : Comparison} {o : Operand} {t u rest : Text} {v : Value}

/-! ### Words -/

/-- The strict mode reads what a word stands for, also with blanks behind it. -/
theorem ofWord?_append {word b : Text} (hword : ∀ c ∈ word, Text.isBlank c = false)
    (hb : Text.isAllBlank b = true) (h : wordValue false word rest = .ok v) :
    Value.ofWord? (word ++ b) = some v := by
  have htrim : Text.trimEnd (word ++ b) = word :=
    (Text.trimEnd_append hb word).trans (Text.trimEnd_of_forall hword)
  have hnumeral : numeral? (word ++ b) = numeral? word := by
    rw [numeral?, Text.trim_append_right hb, numeral?]
  rw [Value.ofWord?, htrim, hnumeral]
  unfold wordValue at h
  split at h
  next htrue =>
    cases h
    rw [if_pos htrue]
  next htrue =>
    rw [if_neg htrue]
    split at h
    next hfalse =>
      cases h
      rw [if_pos hfalse]
    next hfalse =>
      rw [if_neg hfalse]
      split at h
      next hpermissive => cases hpermissive
      split at h
      next n hn =>
        cases h
        rw [hn]
        rfl
      · cases h

/-- The permissive mode reads a word as a text, or as what it stands for. -/
theorem wordValue_refines {word : Text} (h : Value.ofWord? word = some v) (rest : Text) :
    ∃ w, wordValue true word rest = .ok w ∧ v.Refines w := by
  by_cases htrue : word = "true".toList
  · rw [htrue] at h ⊢
    cases h
    exact ⟨.bool true, rfl, .refl _⟩
  by_cases hfalse : word = "false".toList
  · rw [hfalse] at h ⊢
    cases h
    exact ⟨.bool false, rfl, .refl _⟩
  · refine ⟨.text word, ?_, Or.inr ⟨word, rfl, h⟩⟩
    rw [wordValue, if_neg htrue, if_neg hfalse, if_pos rfl]

/-- The blanks between a word of the strict mode and the bracket belong to the word of the permissive mode. -/
theorem readUnquoted_refines (h : readUnquoted false t = .ok (o, u)) (hclose : readClose u = .ok rest) :
    ∃ p, readUnquoted true t = .ok (p, ']' :: rest) ∧ o.value.Refines p.value ∧
      o.caseSensitive = p.caseSensitive := by
  obtain ⟨hu, hvalue, hcase⟩ := readUnquoted_eq_ok_iff.1 h
  obtain ⟨b, hb, hub⟩ := Text.exists_eq_append_trimStart u
  rw [readClose_eq_ok_iff.1 hclose] at hub
  have hword := List.all_eq_true.1 (List.all_takeWhile (p := isWordChar false) (l := t))
  have ht : t = t.takeWhile (isWordChar false) ++ b ++ ']' :: rest := by
    rw [List.append_assoc, ← hub, hu, List.takeWhile_append_dropWhile]
  generalize t.takeWhile (isWordChar false) = word at hvalue hword ht
  have hnotBlank : ∀ c ∈ word, Text.isBlank c = false := by
    intro c hc
    have hchar := hword c hc
    simp only [isWordChar, Bool.false_or, Bool.and_eq_true, Bool.not_eq_true'] at hchar
    exact hchar.1
  -- neither the word nor the blanks hold a bracket
  have hlong : ∀ c ∈ word ++ b, isWordChar true c = true := by
    intro c hc
    rcases List.mem_append.1 hc with hc | hc
    · have hchar := hword c hc
      simp only [isWordChar, Bool.and_eq_true] at hchar ⊢
      exact ⟨rfl, hchar.2⟩
    · have hne : c ≠ ']' := by
        rintro rfl
        exact Text.not_mem_of_isAllBlank hb (by decide) hc
      simpa [isWordChar] using hne
  have hstop : ¬ isWordChar true ']' = true := by decide
  have htake : t.takeWhile (isWordChar true) = word ++ b := by
    rw [ht, List.takeWhile_append_of_pos hlong, List.takeWhile_cons_of_neg hstop, List.append_nil]
  have hdrop : t.dropWhile (isWordChar true) = ']' :: rest := by
    rw [ht, List.dropWhile_append_of_pos hlong, List.dropWhile_cons_of_neg hstop]
  obtain ⟨w, hw, hrefines⟩ := wordValue_refines (ofWord?_append hnotBlank hb hvalue) (']' :: rest)
  refine ⟨⟨w, true⟩, readUnquoted_eq_ok_iff.2 ⟨hdrop.symm, ?_, rfl⟩, hrefines, hcase⟩
  rw [htake]
  exact hw

/-! ### Conditions -/

/-- Behind an operator the two modes read operands that end before the same bracket. -/
theorem readOperand_refines (h : readOperand false op t = .ok (o, u))
    (hclose : readClose u = .ok rest) :
    ∃ p w, readOperand true op t = .ok (p, w) ∧ readClose w = .ok rest ∧
      o.value.Refines p.value ∧ o.caseSensitive = p.caseSensitive := by
  have hbracket : readClose (']' :: rest) = .ok rest := rfl
  rw [readOperand_trimStart] at h ⊢
  cases ht : Text.trimStart t with
  | nil =>
    have hnil : ∀ permissive, readOperand permissive op [] = readUnquoted permissive [] := fun _ => rfl
    rw [ht, hnil] at h
    rw [hnil]
    obtain ⟨p, hp, hrefines, hcase⟩ := readUnquoted_refines h hclose
    exact ⟨p, _, hp, hbracket, hrefines, hcase⟩
  | cons c r =>
    have hc := Text.isBlank_of_trimStart_cons ht
    rw [ht, readOperand_cons hc] at h
    rw [readOperand_cons hc]
    split at h
    next hslash =>
      rw [if_pos hslash]
      exact ⟨o, u, h, hclose, .refl _, rfl⟩
    next hslash =>
      rw [if_neg hslash]
      split at h
      next hquote =>
        rw [if_pos hquote]
        exact ⟨o, u, h, hclose, .refl _, rfl⟩
      next hquote =>
        rw [if_neg hquote]
        obtain ⟨p, hp, hrefines, hcase⟩ := readUnquoted_refines h hclose
        exact ⟨p, _, hp, hbracket, hrefines, hcase⟩

/-- Behind a path the two modes read the same test, up to the value. -/
theorem readTest_refines {test : Test} (h : readTest false t = .ok (test, rest)) :
    ∃ test', readTest true t = .ok (test', rest) ∧ test.operator = test'.operator ∧
      test.isCaseSensitive = test'.isCaseSensitive ∧
      Option.Rel Value.Refines test.value? test'.value? := by
  rcases readTest_eq_ok_iff.1 h with ⟨rfl, rfl⟩ | ⟨hopen, hcomparing⟩
  · exact ⟨.truthy, rfl, rfl, rfl, .none⟩
  obtain ⟨op, u, operand, w, hop, hoperand, hclose, hsuits, rfl⟩ := readComparing_eq_ok_iff.1 hcomparing
  obtain ⟨p, w', hp, hclose', hrefines, hcase⟩ := readOperand_refines hoperand hclose
  -- what suits an operator other than the equals sign is a text, which both modes read
  have hsuits' : op = .equals ∨ p.value.isText = true :=
    hsuits.imp_right fun htext => hrefines.eq_of_isText htext ▸ htext
  exact ⟨.compare op p.value p.caseSensitive, readTest_eq_ok_iff.2 (Or.inr ⟨hopen,
    readComparing_eq_ok_iff.2 ⟨op, u, p, w', hop, hp, hclose', hsuits', rfl⟩⟩), rfl, hcase,
    .some hrefines⟩

theorem readCondition_refines {c : Condition} (h : readCondition false t = .ok (c, rest)) :
    ∃ d, readCondition true t = .ok (d, rest) ∧ c.Refines d := by
  obtain ⟨u, hpath, htest⟩ := readCondition_eq_ok_iff.1 h
  obtain ⟨test, htest', hoperator, hcase, hvalue⟩ := readTest_refines htest
  exact ⟨⟨c.path, test⟩, readCondition_eq_ok_iff.2 ⟨u, hpath, htest'⟩, rfl, hoperator, hcase, hvalue⟩

/-- The two modes read the same conditions, up to the values. -/
theorem readConditions_refines {cs : List Condition} (h : readConditions false t = .ok (cs, rest)) :
    ∃ ds, readConditions true t = .ok (ds, rest) ∧ List.Forall₂ Condition.Refines cs ds := by
  induction cs generalizing t with
  | nil =>
    rcases readConditions_eq_ok_iff.1 h with ⟨r, c, left, cs, -, -, -, heq⟩ | ⟨hopen, -, hrest⟩
    · cases heq
    · exact ⟨[], readConditions_eq_ok_iff.2 (Or.inr ⟨hopen, rfl, hrest⟩), .nil⟩
  | cons c cs ih =>
    rcases readConditions_eq_ok_iff.1 h with ⟨r, c', left, cs', hopen, hc, hcs, heq⟩ | ⟨-, hnil, -⟩
    · cases heq
      obtain ⟨d, hd, hrefines⟩ := readCondition_refines hc
      obtain ⟨ds, hds, hall⟩ := ih hcs
      exact ⟨d :: ds, readConditions_eq_ok_iff.2 (Or.inl ⟨r, d, left, ds, hopen, hd, hds, rfl⟩),
        .cons hrefines hall⟩
    · cases hnil

end Attribute

open Attribute

namespace AttributeSelector

/-- **The strict mode refines the permissive one.** What the strict mode reads, the permissive mode reads with the same
name and with conditions at the same paths, with the same operators and the same cases; each value is the same one, or
what the text of the permissive mode stands for. -/
theorem ofText_refines {t : Text} {s : AttributeSelector} (h : ofText false t = .ok s) :
    ∃ s', ofText true t = .ok s' ∧ s.name = s'.name ∧
      List.Forall₂ Condition.Refines s.conditions s'.conditions := by
  obtain ⟨hname, hconditions, hempty⟩ := ofText_eq_ok_iff.1 h
  obtain ⟨ds, hds, hall⟩ := readConditions_refines hconditions
  refine ⟨⟨s.name, ds⟩, ofText_eq_ok_iff.2 ⟨hname, hds, hempty.imp_right fun hne hnil => hne ?_⟩, rfl,
    hall⟩
  rw [show ds = [] from hnil] at hall
  exact List.forall₂_nil_right_iff.1 hall

/-- The conditions of a text with words that have blanks behind them, in one mode with the given values. -/
def spacedConditions (x y : Value) : List Condition :=
  [⟨["b".toList], .compare .equals x true⟩, ⟨["c".toList], .compare .equals y true⟩,
    ⟨["d".toList], .compare .equals (.bool false) true⟩, ⟨["e".toList, "f".toList], .truthy⟩,
    ⟨["g".toList], .compare .contains (.text "h ".toList) false⟩]

/-- Words with and without blanks behind them, no value, and a quoted one. -/
theorem ofText_refines_words :
    ofText false "a [b=0x1F ][c = true\t][d=false][e.f][g*='h 'i ]".toList =
        .ok ⟨"a".toList, spacedConditions (.number (.int 31)) (.bool true)⟩ ∧
      ofText true "a [b=0x1F ][c = true\t][d=false][e.f][g*='h 'i ]".toList =
        .ok ⟨"a".toList, spacedConditions (.text "0x1F ".toList) (.text "true\t".toList)⟩ ∧
      List.Forall₂ Condition.Refines (spacedConditions (.number (.int 31)) (.bool true))
        (spacedConditions (.text "0x1F ".toList) (.text "true\t".toList)) := by
  refine (fun hstrict hpermissive => ⟨hstrict, hpermissive, ?_⟩) (by decide +kernel) (by decide +kernel)
  obtain ⟨s, hs, -, hall⟩ := ofText_refines hstrict
  cases hpermissive.symm.trans hs
  exact hall

end AttributeSelector

end SelectorCode
