import SelectorCode.Proofs.Attribute.Permissive

/-!
# The parts of a condition go together

A condition is put together at several places: without an operator it ends early, the operator is held against a pattern
before the pattern is read and against any other value afterwards, a letter for the case is looked for behind quotation
marks only, and a pattern is normalized and checked elsewhere. The translation of a condition relies on its parts to
go together. They do in both modes, and the modes differ in no more than that the strict one reads numbers.

## Main Definitions

* `Pattern.IsConsistent`: a source that is normal, with distinct flags.
* `Value.IsConsistent`: a value that suits its operator, its case and the mode.
* `Test.IsConsistent`, `Condition.IsConsistent`, `AttributeSelector.IsConsistent`: no test without all of its parts.

## Main Statements

* `isConsistent_of_readOperand`: an operand that suits its operator is consistent with it.
* `isConsistent_of_readTest`, `isConsistent_of_readCondition`: so are tests and conditions.
* `AttributeSelector.isConsistent_of_ofText`: so is a selector, in either mode.
-/

namespace SelectorCode

/-! ### Consistency -/

/-- A pattern with distinct flags, all of them flags of patterns, and with a source that is normal and not empty. -/
structure Pattern.IsConsistent (p : Pattern) : Prop where
  nodup_flags : p.flags.Nodup
  flags_subset : p.flags ⊆ "dgimsuy".toList
  source_ne_nil : p.source ≠ []
  normalizeSource_source : Pattern.normalizeSource p.source = p.source

/-- The operators of the six comparisons. -/
def Comparison.operators : List Text :=
  ["=", "*=", "^=", "$=", "|=", "~="].map String.toList

/-- A value behind an operator. Only an equals sign compares with anything but a text, case is disregarded in texts only,
and only the strict mode has numbers. -/
structure Value.IsConsistent (permissive : Bool) (operator : Text) (caseSensitive : Bool) (v : Value) :
    Prop where
  operator_eq : v.isText = false → operator = "=".toList
  isText_eq : caseSensitive = false → v.isText = true
  permissive_eq : v.IsNumber → permissive = false
  pattern : ∀ p, v = .pattern p → p.IsConsistent

/-- A test for presence has neither a value nor a case; a comparison has one of the operators and a value that goes with
it. -/
inductive Test.IsConsistent (permissive : Bool) (test : Test) : Prop
  | truthy (operator : test.operator = "<truthy>".toList) (value : test.value? = none)
      (caseSensitive : test.isCaseSensitive = false)
  | compare (v : Value) (operator : test.operator ∈ Comparison.operators) (value : test.value? = some v)
      (consistent : v.IsConsistent permissive test.operator test.isCaseSensitive)

/-- A path with tokens that are all there, the name that it makes up, and a consistent test. -/
structure Condition.IsConsistent (permissive : Bool) (c : Condition) : Prop where
  path_ne_nil : c.path ≠ []
  token_ne_nil : ∀ token ∈ c.path, token ≠ []
  name_eq : c.name = List.intercalate ".".toList c.path
  test : c.test.IsConsistent permissive

/-- A name or conditions, and all conditions are consistent. -/
structure AttributeSelector.IsConsistent (permissive : Bool) (s : AttributeSelector) : Prop where
  ne_empty : s.name ≠ [] ∨ s.conditions ≠ []
  conditions : ∀ c ∈ s.conditions, c.IsConsistent permissive

/-! ### Patterns -/

/-- An accepted pattern repeats no flag. -/
theorem Pattern.nodup_of_ofSource {source flags : Text} {p : Pattern}
    (h : Pattern.ofSource source flags = .ok p) : flags.Nodup := by
  unfold Pattern.ofSource Pattern.check? at h
  split at h
  next hflags => exact hflags
  next => cases h

/-- A pattern that has been read is consistent. -/
theorem Pattern.IsLegible.isConsistent {p : Pattern} (h : p.IsLegible) : p.IsConsistent where
  nodup_flags := Pattern.nodup_of_ofSource h.accepted
  flags_subset := fun c hc => List.contains_iff_mem.1 (h.flagged c hc)
  source_ne_nil := by
    rw [Pattern.eq_of_ofSource h.accepted]
    exact Pattern.normalizeSource_ne_nil p.source
  normalizeSource_source := (congrArg Pattern.source (Pattern.eq_of_ofSource h.accepted)).symm

/-! ### Readers -/

namespace Attribute

variable {permissive : Bool} {t rest : Text}

theorem text_mem_operators (op : Comparison) : op.text ∈ Comparison.operators := by
  cases op <;> decide

/-- A word is never a pattern, and a number in the strict mode only. -/
theorem isConsistent_of_wordValue {operator word : Text} {v : Value}
    (h : wordValue permissive word rest = .ok v) (hoperator : v.isText = false → operator = "=".toList) :
    v.IsConsistent permissive operator true := by
  have hcase : true = false → v.isText = true := fun h => Bool.noConfusion h
  rcases wordValue_cases h with ⟨b, rfl⟩ | ⟨-, rfl⟩ | ⟨n, hstrict, -, rfl⟩
  · exact ⟨hoperator, hcase, (fun ⟨_, hn⟩ => nomatch hn), nofun⟩
  · exact ⟨hoperator, hcase, (fun ⟨_, hn⟩ => nomatch hn), nofun⟩
  · exact ⟨hoperator, hcase, fun _ => hstrict, nofun⟩

/-- An operand that suits its operator is consistent with it. -/
theorem isConsistent_of_readOperand {op : Comparison} {o : Operand}
    (h : readOperand permissive op t = .ok (o, rest)) (hsuits : op = .equals ∨ o.value.isText = true) :
    o.value.IsConsistent permissive op.text o.caseSensitive := by
  have hoperator : o.value.isText = false → op.text = "=".toList := by
    intro hnot
    rcases hsuits with rfl | htext
    · rfl
    · exact Bool.noConfusion (htext.symm.trans hnot)
  rcases readOperand_cases h with ⟨r, p, -, hp, rfl⟩ | ⟨token, s, rfl⟩ | ⟨u, -, hu⟩
  · refine ⟨hoperator, nofun, (fun ⟨_, hn⟩ => nomatch hn), fun q hq => ?_⟩
    cases hq
    exact (isLegible_of_readPattern hp).isConsistent
  · exact ⟨hoperator, fun _ => rfl, (fun ⟨_, hn⟩ => nomatch hn), nofun⟩
  · obtain ⟨-, hvalue, hcase⟩ := readUnquoted_eq_ok_iff.1 hu
    rw [hcase]
    exact isConsistent_of_wordValue hvalue hoperator

theorem isConsistent_of_readTest {test : Test} (h : readTest permissive t = .ok (test, rest)) :
    test.IsConsistent permissive := by
  rcases readTest_eq_ok_iff.1 h with ⟨-, rfl⟩ | ⟨-, hcomparing⟩
  · exact .truthy rfl rfl rfl
  · obtain ⟨op, u, operand, v, -, hoperand, -, hsuits, rfl⟩ := readComparing_eq_ok_iff.1 hcomparing
    exact .compare operand.value (text_mem_operators op) rfl (isConsistent_of_readOperand hoperand hsuits)

theorem isConsistent_of_readCondition {c : Condition}
    (h : readCondition permissive t = .ok (c, rest)) : c.IsConsistent permissive := by
  obtain ⟨u, hpath, htest⟩ := readCondition_eq_ok_iff.1 h
  obtain ⟨hne, hnil⟩ := ne_nil_of_readPath hpath
  exact ⟨hne, fun token hmem htoken => hnil (htoken ▸ hmem), rfl, isConsistent_of_readTest htest⟩

end Attribute

open Attribute

namespace AttributeSelector

/-- **What has been read is consistent.** In either mode a selector has a name or conditions; each condition has a path of
tokens that are not empty, and either tests for presence or compares with a value that goes with its operator, its case
and the mode. -/
theorem isConsistent_of_ofText {permissive : Bool} {t : Text} {s : AttributeSelector}
    (h : ofText permissive t = .ok s) : s.IsConsistent permissive := by
  obtain ⟨-, hconditions, hempty⟩ := ofText_eq_ok_iff.1 h
  exact ⟨hempty, forall_of_readConditions isConsistent_of_readCondition hconditions⟩

/-- A selector that compares with a value of each kind. -/
def mixed : AttributeSelector :=
  ⟨"b".toList,
    [⟨["c".toList], .compare .equals (.number (.int 31)) true⟩,
    ⟨["d".toList, "e".toList], .compare .equals (.pattern ⟨"[/]\\n".toList, "gi".toList⟩) true⟩,
    ⟨["f".toList], .compare .contains (.text "g".toList) false⟩, ⟨["h".toList], .truthy⟩,
    ⟨["i".toList], .compare .equals (.bool true) true⟩]⟩

/-- A number, a line break in a pattern, a text without regard to case, presence and a truth value. -/
theorem isConsistent_of_ofText_mixed :
    ofText false "b[c=0x1F][d.'e'=/[/]\n/gi][f*='g'I][h][i=true]".toList = .ok mixed ∧
      mixed.IsConsistent false := by
  refine (fun hread => ⟨hread, isConsistent_of_ofText hread⟩) ?_
  exact eq_ok_of_toOption_eq_some (by decide +kernel)

end AttributeSelector

end SelectorCode
