import SelectorCode.Proofs.Attribute.Reading
import SelectorCode.Proofs.Pattern.Normal
import SelectorCode.Proofs.Text.Trim

/-!
# What the permissive mode reads

Attribute selectors in the body of a part are read in the permissive mode, in which a word that is no truth value is a
text. So no value of such a selector is a number: every number in a call has been made from a text afterwards. A truth
value or a pattern is only compared by an equals sign, and then case counts.

## Main Definitions

* `Test.IsLegible`, `Condition.IsLegible`, `AttributeSelector.IsLegible`: what is known of tests, conditions and
  selectors that have been read.
* `Value.IsNumber`: the values that are numbers.

## Main Statements

* `isLegible_of_readTest`, `isLegible_of_readConditions`: what the readers answer is legible.
* `AttributeSelector.isLegible_of_ofText`: so is a selector.
* `Test.IsLegible.not_isNumber`: no value of a legible test is a number.
-/

namespace SelectorCode

/-! ### Legible selectors -/

/-- The tests that the reader answers. -/
inductive Test.IsLegible : Test → Prop
  | truthy : IsLegible .truthy
  | text (op : Comparison) (t : Text) (caseSensitive : Bool) :
      IsLegible (.compare op (.text t) caseSensitive)
  | bool (b : Bool) : IsLegible (.compare .equals (.bool b) true)
  | pattern (p : Pattern) (legible : p.IsLegible) : IsLegible (.compare .equals (.pattern p) true)

/-- A path of tokens that are not empty, and a legible test. -/
structure Condition.IsLegible (c : Condition) : Prop where
  path_ne_nil : c.path ≠ []
  nil_not_mem_path : [] ∉ c.path
  test : c.test.IsLegible

/-- A name that the reader takes as a whole, and legible conditions; at least one of the two is there. -/
structure AttributeSelector.IsLegible (s : AttributeSelector) : Prop where
  isBlank_head : ∀ c r, s.name = c :: r → Text.isBlank c = false
  isNameChar_of_mem : ∀ c ∈ s.name, Attribute.isNameChar c = true
  ne_empty : s.name ≠ [] ∨ s.conditions ≠ []
  conditions : ∀ c ∈ s.conditions, c.IsLegible

namespace Attribute

variable {t rest : Text}

/-! ### Operands and tests -/

/-- The operands that are read for a comparison. -/
inductive Operand.IsLegible (op : Comparison) : Operand → Prop
  | text (t : Text) (caseSensitive : Bool) : IsLegible op ⟨.text t, caseSensitive⟩
  | bool (b : Bool) : IsLegible op ⟨.bool b, true⟩
  | pattern (p : Pattern) (equals : op = .equals) (legible : p.IsLegible) :
      IsLegible op ⟨.pattern p, true⟩

theorem isLegible_of_readUnquoted {op : Comparison} {o : Operand}
    (h : readUnquoted true t = .ok (o, rest)) : Operand.IsLegible op o := by
  obtain ⟨-, hvalue, hcase⟩ := readUnquoted_eq_ok_iff.1 h
  obtain ⟨v, caseSensitive⟩ := o
  cases hcase
  rcases wordValue_cases hvalue with ⟨b, rfl⟩ | ⟨-, rfl⟩ | ⟨n, hmode, -⟩
  · exact .bool b
  · exact .text _ true
  · cases hmode

/-- An operand is a text, a truth value, or a pattern behind an equals sign. -/
theorem isLegible_of_readOperand {op : Comparison} {o : Operand}
    (h : readOperand true op t = .ok (o, rest)) : Operand.IsLegible op o := by
  rcases readOperand_cases h with ⟨r, p, hequals, hp, rfl⟩ | ⟨token, s, rfl⟩ | ⟨u, -, hu⟩
  · exact .pattern p hequals (isLegible_of_readPattern hp)
  · exact .text token s
  · exact isLegible_of_readUnquoted hu

theorem isLegible_of_readTest {test : Test} (h : readTest true t = .ok (test, rest)) :
    test.IsLegible := by
  rcases readTest_eq_ok_iff.1 h with ⟨-, rfl⟩ | ⟨-, hcomparing⟩
  · exact .truthy
  obtain ⟨op, u, operand, v, -, hoperand, -, hsuits, rfl⟩ := readComparing_eq_ok_iff.1 hcomparing
  cases isLegible_of_readOperand hoperand with
  | text t s => exact .text op t s
  | bool b =>
    -- no operator but the equals sign takes a truth value
    obtain rfl : op = .equals := hsuits.resolve_right Bool.noConfusion
    exact .bool b
  | pattern p hequals hp =>
    rw [hequals]
    exact .pattern p hp

/-! ### Conditions and selectors -/

theorem isLegible_of_readCondition {c : Condition} (h : readCondition true t = .ok (c, rest)) :
    c.IsLegible := by
  obtain ⟨u, hpath, htest⟩ := readCondition_eq_ok_iff.1 h
  exact ⟨(ne_nil_of_readPath hpath).1, (ne_nil_of_readPath hpath).2, isLegible_of_readTest htest⟩

theorem isLegible_of_readConditions {cs : List Condition}
    (h : readConditions true t = .ok (cs, rest)) : ∀ c ∈ cs, c.IsLegible :=
  forall_of_readConditions isLegible_of_readCondition h

end Attribute

open Attribute

/-- **What is read is legible.** -/
theorem AttributeSelector.isLegible_of_ofText {t : Text} {s : AttributeSelector}
    (h : AttributeSelector.ofText true t = .ok s) : s.IsLegible := by
  obtain ⟨hname, hconditions, hempty⟩ := AttributeSelector.ofText_eq_ok_iff.1 h
  refine ⟨fun c r hc => ?_, fun c hc => ?_, hempty, isLegible_of_readConditions hconditions⟩
  · -- the name begins where the blanks end
    rw [hname, readIdentifier] at hc
    cases htrim : Text.trimStart t with
    | nil =>
      rw [htrim] at hc
      cases hc
    | cons d s =>
      rw [htrim] at hc
      have hhead : d = c := by
        rw [List.takeWhile_cons] at hc
        split at hc
        · exact (List.cons.inj hc).1
        · cases hc
      rw [← hhead]
      exact Text.isBlank_of_trimStart_cons htrim
  · rw [hname] at hc
    exact List.all_eq_true.1 List.all_takeWhile c hc

/-! ### No numbers -/

/-- The values that are numbers. -/
def Value.IsNumber (v : Value) : Prop :=
  ∃ n, v = .number n

/-- No value of a legible test is a number. -/
theorem Test.IsLegible.not_isNumber {test : Test} (h : test.IsLegible) :
    ∀ v, test.value? = some v → ¬ v.IsNumber := by
  rintro v hv ⟨n, rfl⟩
  cases h <;> cases hv

end SelectorCode
