import SelectorCode.Attribute.Reader
import SelectorCode.Proofs.Outcome
import SelectorCode.Proofs.Text.Trim

/-!
# Inverting the readers of attributes

What a successful reader of attribute selectors has seen, one statement for each reader that is put together from
others. Proofs about what is read, and about texts that are read, take these instead of the readers.

## Main Statements

* `readIdentifier_append`: names.
* `readToken_eq_ok_iff`, `readPath_cons`, `readPath_singleton`: tokens and paths.
* `readUnquoted_eq_ok_iff`, `wordValue_cases`: words without quotation marks.
* `readOperand_cases`, `readClose_eq_ok_iff`: what stands behind an operator, and closing brackets.
* `readComparing_eq_ok_iff`, `readTest_eq_ok_iff`, `readCondition_eq_ok_iff`: conditions.
* `readConditions_eq_ok_iff`, `forall_of_readConditions`: as many conditions as there are.
* `AttributeSelector.ofText_eq_ok_iff`: whole selectors.
-/

namespace SelectorCode

namespace Attribute

variable {permissive : Bool} {t rest : Text}

/-! ### Names and paths -/

/-- A name that does not begin with a blank is read up to a character that belongs to no name. -/
theorem readIdentifier_append {name : Text} (hhead : ∀ c r, name = c :: r → Text.isBlank c = false)
    (hname : ∀ c ∈ name, isNameChar c = true)
    (hrest : ∀ c r, rest = c :: r → isNameChar c = false ∧ Text.isBlank c = false) :
    readIdentifier (name ++ rest) = (name, rest) := by
  have htrim : Text.trimStart (name ++ rest) = name ++ rest := by
    cases name with
    | nil =>
      cases rest with
      | nil => rfl
      | cons c r => exact Text.trimStart_cons (hrest c r rfl).2 r
    | cons c name => exact Text.trimStart_cons (hhead c name rfl) (name ++ rest)
  have hstop : rest.takeWhile isNameChar = [] ∧ rest.dropWhile isNameChar = rest := by
    cases rest with
    | nil => exact ⟨rfl, rfl⟩
    | cons c r =>
      have hc := (hrest c r rfl).1
      exact ⟨List.takeWhile_cons_of_neg (by simp [hc]), List.dropWhile_cons_of_neg (by simp [hc])⟩
  rw [readIdentifier, htrim, List.takeWhile_append_of_pos hname, List.dropWhile_append_of_pos hname,
    hstop.1, hstop.2, List.append_nil]

/-- A token is a word that is not empty. -/
theorem readToken_eq_ok_iff {token : Text} :
    readToken t = .ok (token, rest) ↔ readWord t = .ok (token, rest) ∧ token ≠ [] := by
  unfold readToken
  cases readWord t with
  | error e => simp
  | ok p =>
    obtain ⟨word, left⟩ := p
    cases word with
    | nil =>
      constructor
      · intro h
        cases h
      · rintro ⟨h, hne⟩
        cases h
        exact absurd rfl hne
    | cons c word =>
      constructor
      · intro h
        cases h
        exact ⟨rfl, List.cons_ne_nil c word⟩
      · rintro ⟨h, -⟩
        cases h
        rfl

/-- A token with a point behind it is followed by more of the path. -/
theorem readPath_cons {token left r : Text} {tokens : List Text}
    (htoken : readToken t = .ok (token, left)) (hpoint : Text.trimStart left = '.' :: r)
    (htokens : readPath r = .ok (tokens, rest)) : readPath t = .ok (token :: tokens, rest) := by
  rw [readPath]
  split
  next hread => cases htoken.symm.trans hread
  next hread =>
    cases htoken.symm.trans hread
    split
    next s hs =>
      cases hpoint.symm.trans hs
      rw [htokens]
    next hnone => exact absurd hpoint (hnone r)

/-- A token without a point behind it ends the path. -/
theorem readPath_singleton {token left : Text} (htoken : readToken t = .ok (token, left))
    (hpoint : ∀ r, Text.trimStart left ≠ '.' :: r) :
    readPath t = .ok ([token], Text.trimStart left) := by
  rw [readPath]
  split
  next hread => cases htoken.symm.trans hread
  next hread =>
    cases htoken.symm.trans hread
    split
    next r hr => exact absurd hr (hpoint r)
    next => rfl

/-- A path has at least one token, and none of its tokens is empty. -/
theorem ne_nil_of_readPath {tokens : List Text} (h : readPath t = .ok (tokens, rest)) :
    tokens ≠ [] ∧ [] ∉ tokens := by
  fun_induction readPath t generalizing tokens rest with
  | case1 => cases h
  | case2 => cases h
  | case3 t token left ht r hl tokens' rest' hr ih =>
    cases h
    have htoken := (readToken_eq_ok_iff.1 ht).2
    refine ⟨List.cons_ne_nil _ _, fun hmem => ?_⟩
    rcases List.mem_cons.1 hmem with hnil | hmem
    · exact htoken hnil.symm
    · exact (ih hr).2 hmem
  | case4 t token left ht _ =>
    cases h
    have htoken := (readToken_eq_ok_iff.1 ht).2
    exact ⟨List.cons_ne_nil _ _, fun hmem => htoken (List.mem_singleton.1 hmem).symm⟩

/-! ### Conditions -/

/-- A value without quotation marks is a word and ends where the word ends. -/
theorem readUnquoted_eq_ok_iff {o : Operand} :
    readUnquoted permissive t = .ok (o, rest) ↔
      rest = t.dropWhile (isWordChar permissive) ∧
        wordValue permissive (t.takeWhile (isWordChar permissive)) rest = .ok o.value ∧
        o.caseSensitive = true := by
  unfold readUnquoted
  constructor
  · intro h
    simp only at h
    split at h
    · cases h
    next v hv =>
      cases h
      exact ⟨rfl, hv, rfl⟩
  · rintro ⟨rfl, hv, hcase⟩
    obtain ⟨value, caseSensitive⟩ := o
    cases hcase
    simp only at hv
    simp only [hv]

/-- A word is a truth value; any other is a text in the permissive mode and a number in the strict one. -/
theorem wordValue_cases {word : Text} {v : Value} (h : wordValue permissive word rest = .ok v) :
    (∃ b, v = .bool b) ∨ (permissive = true ∧ v = .text word) ∨
      ∃ n, permissive = false ∧ numeral? word = some n ∧ v = .number n := by
  unfold wordValue at h
  split at h
  · exact Or.inl ⟨true, (Except.ok.inj h).symm⟩
  split at h
  · exact Or.inl ⟨false, (Except.ok.inj h).symm⟩
  split at h
  next hmode => exact Or.inr (Or.inl ⟨hmode, (Except.ok.inj h).symm⟩)
  next hmode =>
    split at h
    next n hn =>
      exact Or.inr (Or.inr ⟨n, eq_false_of_ne_true hmode, hn, (Except.ok.inj h).symm⟩)
    next => cases h

/-- An operand is a pattern behind an equals sign, a quoted text, or a word further on in the text. -/
theorem readOperand_cases {op : Comparison} {o : Operand}
    (h : readOperand permissive op t = .ok (o, rest)) :
    (∃ r p, op = .equals ∧ readPattern r = .ok (p, rest) ∧ o = ⟨.pattern p, true⟩) ∨
      (∃ token caseSensitive, o = ⟨.text token, caseSensitive⟩) ∨
        ∃ u, u <:+ t ∧ readUnquoted permissive u = .ok (o, rest) := by
  have ht := trimStart_suffix t
  unfold readOperand at h
  split at h
  next => exact Or.inr (Or.inr ⟨[], List.nil_suffix, h⟩)
  next c r hr =>
    split at h
    · split at h
      · cases h
      next hequals =>
        split at h
        · cases h
        next p left hp =>
          cases h
          exact Or.inl ⟨r, p, Decidable.not_not.1 hequals, hp, rfl⟩
    split at h
    · split at h
      · cases h
      next token left htoken =>
        cases h
        exact Or.inr (Or.inl ⟨token, _, rfl⟩)
    · exact Or.inr (Or.inr ⟨c :: r, hr ▸ ht, h⟩)

/-- Only blanks may stand in front of a closing bracket. -/
theorem readClose_eq_ok_iff : readClose t = .ok rest ↔ Text.trimStart t = ']' :: rest := by
  unfold readClose
  split
  next r hr =>
    constructor
    · intro h
      cases h
      exact hr
    · intro h
      cases hr.symm.trans h
      rfl
  next hnone =>
    constructor
    · intro h
      cases h
    · exact fun h => absurd h (hnone rest)

/-- A comparison is an operator, an operand that suits it, and the closing bracket. -/
theorem readComparing_eq_ok_iff {test : Test} :
    readComparing permissive t = .ok (test, rest) ↔
      ∃ op u operand v, readComparison t = .ok (op, u) ∧
        readOperand permissive op u = .ok (operand, v) ∧ readClose v = .ok rest ∧
        (op = .equals ∨ operand.value.isText = true) ∧
        test = .compare op operand.value operand.caseSensitive := by
  constructor
  · intro h
    unfold readComparing at h
    split at h
    · cases h
    next op u hop =>
      split at h
      · cases h
      next operand v hoperand =>
        split at h
        · cases h
        next left hclose =>
          split at h
          · cases h
          next hsuits =>
            cases h
            refine ⟨op, u, operand, v, hop, hoperand, hclose, ?_, rfl⟩
            by_cases hequals : op = .equals
            · exact Or.inl hequals
            · exact Or.inr (by simpa [hequals] using hsuits)
  · rintro ⟨op, u, operand, v, hop, hoperand, hclose, hsuits, rfl⟩
    have hrefused : ¬ (op ≠ .equals ∧ (!operand.value.isText) = true) := by
      rintro ⟨hne, htext⟩
      rcases hsuits with hequals | hsuits
      · exact hne hequals
      · rw [hsuits] at htext
        exact Bool.noConfusion htext
    simp only [readComparing, hop, hoperand, hclose, if_neg hrefused]

/-- A test is nothing before the closing bracket, or a comparison. -/
theorem readTest_eq_ok_iff {test : Test} :
    readTest permissive t = .ok (test, rest) ↔
      (t = ']' :: rest ∧ test = .truthy) ∨
        ((∀ r, t ≠ ']' :: r) ∧ readComparing permissive t = .ok (test, rest)) := by
  unfold readTest
  split
  next r =>
    constructor
    · intro h
      cases h
      exact Or.inl ⟨rfl, rfl⟩
    · rintro (⟨h, rfl⟩ | ⟨h, -⟩)
      · cases h
        rfl
      · exact absurd rfl (h r)
  next hne =>
    constructor
    · exact fun h => Or.inr ⟨hne, h⟩
    · rintro (⟨h, -⟩ | ⟨-, h⟩)
      · exact absurd h (hne rest)
      · exact h

/-- A condition is a path and a test. -/
theorem readCondition_eq_ok_iff {c : Condition} :
    readCondition permissive t = .ok (c, rest) ↔
      ∃ u, readPath t = .ok (c.path, u) ∧ readTest permissive u = .ok (c.test, rest) := by
  constructor
  · intro h
    unfold readCondition at h
    split at h
    · cases h
    next path u hpath =>
      split at h
      · cases h
      next test left htest =>
        cases h
        exact ⟨u, hpath, htest⟩
  · rintro ⟨u, hpath, htest⟩
    simp only [readCondition, hpath, htest]

/-- Conditions end before a text that does not begin with a bracket; each takes the text that the one before leaves. -/
theorem readConditions_eq_ok_iff {cs : List Condition} :
    readConditions permissive t = .ok (cs, rest) ↔
      (∃ r c left ds, Text.trimStart t = '[' :: r ∧ readCondition permissive r = .ok (c, left) ∧
        readConditions permissive left = .ok (ds, rest) ∧ cs = c :: ds) ∨
      ((∀ r, Text.trimStart t ≠ '[' :: r) ∧ cs = [] ∧ rest = Text.trimStart t) := by
  rw [readConditions]
  split
  next r hopen =>
    have hblocked : ¬ ∀ s, Text.trimStart t ≠ '[' :: s := fun h => h r hopen
    split
    next e he =>
      constructor
      · intro h
        cases h
      · rintro (⟨s, c, left, ds, hs, hc, -⟩ | ⟨h, -⟩)
        · cases hopen.symm.trans hs
          cases he.symm.trans hc
        · exact absurd h hblocked
    next c left hc =>
      constructor
      · intro h
        split at h
        · cases h
        next ds rest' hds =>
          cases h
          exact Or.inl ⟨r, c, left, ds, hopen, hc, hds, rfl⟩
      · rintro (⟨s, d, left', ds, hs, hd, hds, rfl⟩ | ⟨h, -⟩)
        · cases hopen.symm.trans hs
          cases hc.symm.trans hd
          rw [hds]
        · exact absurd h hblocked
  next hnone =>
    constructor
    · intro h
      cases h
      exact Or.inr ⟨hnone, rfl, rfl⟩
    · rintro (⟨r, c, left, ds, hopen, -⟩ | ⟨-, rfl, rfl⟩)
      · exact absurd hopen (hnone r)
      · rfl

/-- What holds of every condition that is read holds of all conditions of a text. -/
theorem forall_of_readConditions {P : Condition → Prop} {cs : List Condition}
    (hP : ∀ {t rest : Text} {c : Condition}, readCondition permissive t = .ok (c, rest) → P c)
    (h : readConditions permissive t = .ok (cs, rest)) : ∀ c ∈ cs, P c := by
  induction cs generalizing t with
  | nil =>
    intro c hc
    cases hc
  | cons c cs ih =>
    rcases readConditions_eq_ok_iff.1 h with ⟨r, d, left, ds, -, hd, hds, heq⟩ | ⟨-, hnil, -⟩
    · cases heq
      intro e he
      rcases List.mem_cons.1 he with rfl | he
      · exact hP hd
      · exact ih hds e he
    · cases hnil

/-- There are no conditions in an empty text. -/
theorem readConditions_nil : readConditions permissive [] = .ok ([], []) :=
  readConditions_eq_ok_iff.2 (Or.inr ⟨fun _ h => List.cons_ne_nil _ _ h.symm, rfl, rfl⟩)

end Attribute

open Attribute

/-- **A selector is read** when its conditions are and nothing is left behind them, and when it is not empty. -/
theorem AttributeSelector.ofText_eq_ok_iff {permissive : Bool} {t : Text} {s : AttributeSelector} :
    AttributeSelector.ofText permissive t = .ok s ↔
      s.name = (readIdentifier t).1 ∧
        readConditions permissive (readIdentifier t).2 = .ok (s.conditions, []) ∧
        (s.name ≠ [] ∨ s.conditions ≠ []) := by
  have hmap : AttributeSelector.ofText permissive t = .ok s ↔ readSelector permissive t = .ok s := by
    constructor
    · exact eq_ok_of_mapError_eq_ok
    · intro h
      unfold AttributeSelector.ofText
      rw [h]
      rfl
  rw [hmap]
  constructor
  · intro h
    unfold readSelector at h
    split at h
    · cases h
    next conditions rest hconditions =>
      split at h
      · cases h
      next hrest =>
        split at h
        · cases h
        next hempty =>
          cases h
          have hnil : rest = [] := by simpa using hrest
          rw [hnil] at hconditions
          refine ⟨rfl, hconditions, ?_⟩
          by_cases hname : (readIdentifier t).1 = []
          · exact Or.inr (by simpa [hname] using hempty)
          · exact Or.inl hname
  · rintro ⟨hname, hconditions, hempty⟩
    have hfull : s.name = [] → s.conditions ≠ [] := fun h => hempty.resolve_left (absurd h)
    simpa [readSelector, hconditions, ← hname] using hfull

end SelectorCode
