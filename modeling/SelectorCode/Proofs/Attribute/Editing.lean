import SelectorCode.Proofs.Attribute.Locality
import SelectorCode.Proofs.Attribute.Printing

/-!
# Editing attribute selectors

Two edits of the text of an attribute selector: another operator in front of a quoted value, and one more condition at the
end. Because the readers are local, the edited text is read like the text before, up to the place of the edit and again
behind it. So an edit of the text is an edit of the selector: one comparison is another one, or there is one condition
more.

## Main Definitions

* `ReplacesOperator`: another operator in front of a quoted value.
* `AppendsCondition`: one more condition at the end.

## Main Statements

* `readCondition_append`: a condition is read whatever follows its closing bracket.
* `readPath_append_cons`: a path ends before a character that cannot continue it.
* `readConditions_append_cons`: conditions are read one after the other.
* `AttributeSelector.exists_of_replacesOperator`, `AttributeSelector.ofText_of_appendsCondition`: what the edited texts
  say.
-/

namespace SelectorCode

namespace Attribute

variable {permissive : Bool} {t w rest : Text} {c : Char}

/-! ### Reading on -/

/-- A run of characters goes no further than a character of another class. -/
theorem readWhile_append_cons {p : Char → Bool} (hc : p c = false) (t s : Text) :
    (t ++ c :: s).takeWhile p = t.takeWhile p ∧ (t ++ c :: s).dropWhile p = t.dropWhile p ++ c :: s := by
  induction t with
  | nil => simp [hc]
  | cons d t ih =>
    by_cases hd : p d = true
    · simp [hd, ih]
    · simp [hd]

theorem trimStart_append_cons (hc : Text.isBlank c = false) (t s : Text) :
    Text.trimStart (t ++ c :: s) = Text.trimStart t ++ c :: s :=
  (readWhile_append_cons hc t s).2

/-- A name ends before a character that can neither continue it nor stand in front of it. -/
theorem readIdentifier_append_cons (hblank : Text.isBlank c = false) (hname : isNameChar c = false)
    (t s : Text) :
    readIdentifier (t ++ c :: s) = ((readIdentifier t).1, (readIdentifier t).2 ++ c :: s) := by
  rw [readIdentifier, trimStart_append_cons hblank, (readWhile_append_cons hname _ s).1,
    (readWhile_append_cons hname _ s).2]
  rfl

/-! ### Conditions -/

/-- A closing bracket is read whatever follows it. -/
theorem readClose_append (h : readClose t = .ok rest) (s : Text) :
    readClose (t ++ s) = .ok (rest ++ s) := by
  obtain ⟨b, hb, ht⟩ := Text.exists_eq_append_trimStart t
  rw [readClose_eq_ok_iff.1 h] at ht
  rw [readClose_eq_ok_iff, ht, List.append_assoc, Text.trimStart_append hb]
  exact Text.trimStart_cons (by decide) _

theorem ne_nil_of_readClose (h : readClose t = .ok rest) : t ≠ [] := by
  rintro rfl
  cases h

theorem readComparing_append {test : Test} (h : readComparing permissive t = .ok (test, rest))
    (s : Text) : readComparing permissive (t ++ s) = .ok (test, rest ++ s) := by
  obtain ⟨op, u, operand, v, hop, hoperand, hclose, hsuits, rfl⟩ := readComparing_eq_ok_iff.1 h
  have hv := ne_nil_of_readClose hclose
  have hu := (readOperand_suffix hoperand).ne_nil hv
  exact readComparing_eq_ok_iff.2 ⟨op, u ++ s, operand, v ++ s,
    (isLocalAt_readComparison t).append hop hu s,
    (isLocalAt_readOperand permissive op u).append hoperand hv s, readClose_append hclose s, hsuits, rfl⟩

theorem readTest_append {test : Test} (h : readTest permissive t = .ok (test, rest)) (s : Text) :
    readTest permissive (t ++ s) = .ok (test, rest ++ s) := by
  rcases readTest_eq_ok_iff.1 h with ⟨rfl, rfl⟩ | ⟨hopen, hcomparing⟩
  · rfl
  refine readTest_eq_ok_iff.2 (Or.inr ⟨fun r hr => ?_, readComparing_append hcomparing s⟩)
  cases t with
  | nil => cases hcomparing
  | cons c t => exact hopen t (congrArg (· :: t) (List.cons.inj hr).1)

/-- A condition is read whatever follows its closing bracket. -/
theorem readCondition_append {d : Condition} (h : readCondition permissive t = .ok (d, rest))
    (s : Text) : readCondition permissive (t ++ s) = .ok (d, rest ++ s) := by
  obtain ⟨u, hpath, htest⟩ := readCondition_eq_ok_iff.1 h
  have hu : u ≠ [] := by
    rintro rfl
    cases htest
  exact readCondition_eq_ok_iff.2
    ⟨u ++ s, (isLocalAt_readPath t).append hpath hu s, readTest_append htest s⟩

theorem readConditions_trimStart (permissive : Bool) (t : Text) :
    readConditions permissive t = readConditions permissive (Text.trimStart t) := by
  rw [readConditions_eq, readConditions_eq, trimStart_trimStart]

/-- Conditions that take up a text are followed by the conditions behind it. -/
theorem readConditions_append_cons {cs : List Condition}
    (h : readConditions permissive t = .ok (cs, [])) (s : Text) :
    readConditions permissive (t ++ '[' :: s) =
      (readConditions permissive ('[' :: s)).map fun p => (cs ++ p.1, p.2) := by
  have hopen : Text.isBlank '[' = false := by decide
  induction cs generalizing t with
  | nil =>
    rcases readConditions_eq_ok_iff.1 h with ⟨r, d, left, ds, -, -, -, heq⟩ | ⟨-, -, hnil⟩
    · cases heq
    rw [readConditions_trimStart, trimStart_append_cons hopen, ← hnil]
    show readConditions permissive ('[' :: s) = _
    cases readConditions permissive ('[' :: s) <;> rfl
  | cons d ds ih =>
    rcases readConditions_eq_ok_iff.1 h with ⟨r, d, left, ds, hr, hd, hds, heq⟩ | ⟨-, hnil, -⟩
    · cases heq
      rw [readConditions_eq, trimStart_append_cons hopen, hr]
      show andThen (readCondition permissive) _ (r ++ '[' :: s) = _
      rw [andThen_of_ok (readCondition_append hd ('[' :: s)), andThen, ih hds]
      cases readConditions permissive ('[' :: s) <;> rfl
    · cases hnil

/-! ### Paths -/

/-- A character that neither continues a path nor stands between its tokens. -/
structure EndsPath (c : Char) : Prop where
  isBlank : Text.isBlank c = false
  isNameChar : isNameChar c = false
  ne_point : c ≠ '.'

/-- A token ends before such a character. -/
theorem readToken_append_cons {token : Text} (hc : EndsPath c) (h : readToken t = .ok (token, rest))
    (s : Text) : readToken (t ++ c :: s) = .ok (token, rest ++ c :: s) := by
  obtain ⟨hword, hne⟩ := readToken_eq_ok_iff.1 h
  refine readToken_eq_ok_iff.2 ⟨?_, hne⟩
  rw [readWord] at hword ⊢
  rw [trimStart_append_cons hc.isBlank]
  cases ht : Text.trimStart t with
  | nil =>
    rw [ht] at hword
    cases hword
    exact absurd rfl hne
  | cons d r =>
    rw [ht] at hword
    simp only [List.cons_append] at hword ⊢
    split at hword
    next hquote =>
      have hback : d ≠ '\\' := by rcases hquote with rfl | rfl <;> decide
      rw [if_pos hquote]
      cases hread : readQuoted d r with
      | none =>
        rw [hread] at hword
        cases hword
      | some p =>
        rw [hread] at hword
        cases hword
        obtain ⟨u, rfl, hu⟩ := exists_append_of_readQuoted hback hread
        rw [List.append_assoc, hu]
    next hquote =>
      rw [if_neg hquote, ← List.cons_append, readIdentifier_append_cons hc.isBlank hc.isNameChar]
      cases hword
      rfl

/-- A path ends before such a character. -/
theorem readPath_append_cons {tokens : List Text} (hc : EndsPath c)
    (h : readPath t = .ok (tokens, [])) (s : Text) :
    readPath (t ++ c :: s) = .ok (tokens, c :: s) := by
  fun_induction readPath t generalizing tokens with
  | case1 => cases h
  | case2 => cases h
  | case3 t token left ht r hpoint tokens rest hr ih =>
    cases h
    refine readPath_cons (readToken_append_cons hc ht s) ?_ (ih hr)
    rw [trimStart_append_cons hc.isBlank, hpoint]
    rfl
  | case4 t token left ht hpoint =>
    obtain ⟨rfl, hleft⟩ := Prod.mk.inj (Except.ok.inj h)
    have htrim : Text.trimStart (left ++ c :: s) = c :: s := by
      rw [trimStart_append_cons hc.isBlank, hleft, List.nil_append]
    rw [readPath_singleton (readToken_append_cons hc ht s), htrim]
    rw [htrim]
    exact fun r hr => hc.ne_point (List.cons.inj hr).1

/-! ### Operators -/

/-- An operator ends the path in front of it, and the rest of it is read after the path. -/
theorem endsPath_of_operator {op : Comparison} (h : op.text = c :: w) : EndsPath c := by
  cases op <;> (cases h; exact ⟨by decide, by decide, by decide⟩)

/-- A text that begins with a quotation mark, blanks aside. -/
def BeginsQuoted (t : Text) : Prop :=
  ∃ quote r, (quote = '"' ∨ quote = '\x27') ∧ Text.trimStart t = quote :: r

/-- A quoted value is read alike behind all operators. -/
theorem readOperand_of_quoted {quote : Char} {r : Text} (op : Comparison)
    (hquote : quote = '"' ∨ quote = '\x27') (ht : Text.trimStart t = quote :: r) :
    readOperand permissive op t = readQuotedOperand quote r := by
  have hslash : quote ≠ '/' := by rcases hquote with rfl | rfl <;> decide
  rw [readOperand_trimStart, ht, readOperand_cons (Text.isBlank_of_trimStart_cons ht), if_neg hslash,
    if_pos hquote]

/-- A quoted value is a text. -/
theorem exists_text_of_readQuotedOperand {quote : Char} {o : Operand}
    (h : readQuotedOperand quote t = .ok (o, rest)) : ∃ x, o.value = .text x := by
  unfold readQuotedOperand andThen at h
  split at h
  · cases h
  next token _ _ =>
    cases h
    exact ⟨token, rfl⟩

/-- **A condition with a quoted value** is read with every operator, and differs in the operator only. -/
theorem readCondition_operator {path after : Text} {tokens : List Text} {d : Condition}
    (hpath : readPath path = .ok (tokens, [])) (hquoted : BeginsQuoted after) {op : Comparison}
    (h : readCondition permissive (path ++ (op.text ++ after)) = .ok (d, rest)) :
    ∃ x caseSensitive, d = ⟨tokens, .compare op (.text x) caseSensitive⟩ ∧
      ∀ op' : Comparison, readCondition permissive (path ++ (op'.text ++ after)) =
        .ok (⟨tokens, .compare op' (.text x) caseSensitive⟩, rest) := by
  have hread : ∀ op : Comparison,
      readPath (path ++ (op.text ++ after)) = .ok (tokens, op.text ++ after) := by
    intro op
    obtain ⟨c, w, hw⟩ : ∃ c w, op.text = c :: w := by cases op <;> exact ⟨_, _, rfl⟩
    rw [hw]
    exact readPath_append_cons (endsPath_of_operator hw) hpath (w ++ after)
  obtain ⟨u, hu, htest⟩ := readCondition_eq_ok_iff.1 h
  obtain ⟨rfl, rfl⟩ := Prod.mk.inj (Except.ok.inj ((hread op).symm.trans hu))
  rw [readTest_operator] at htest
  obtain ⟨o, u, operand, v, ho, hoperand, hclose, -, htest⟩ := readComparing_eq_ok_iff.1 htest
  obtain ⟨rfl, rfl⟩ := Prod.mk.inj (Except.ok.inj ((readComparison_text op after).symm.trans ho))
  obtain ⟨quote, r, hquote, hafter⟩ := hquoted
  rw [readOperand_of_quoted op hquote hafter] at hoperand
  obtain ⟨x, hx⟩ := exists_text_of_readQuotedOperand hoperand
  rw [hx] at htest
  refine ⟨x, operand.caseSensitive, ?_, fun op' => ?_⟩
  · rw [← htest]
  · refine readCondition_eq_ok_iff.2 ⟨op'.text ++ after, hread op', ?_⟩
    rw [readTest_operator]
    refine readComparing_eq_ok_iff.2 ⟨op', after, operand, v, readComparison_text op' after,
      (readOperand_of_quoted op' hquote hafter).trans hoperand, hclose, Or.inr ?_, ?_⟩
    · rw [hx]
      rfl
    · rw [hx]

/-! ### Edits -/

/-- Another operator instead of an equals sign in front of a quoted value. In front of the operator stand a name, some
conditions, an opening bracket and a path. -/
inductive ReplacesOperator (op : Comparison) : Text → Text → Prop
  | intro {before path after : Text} {cs : List Condition} {tokens : List Text}
      (conditions : readConditions true (readIdentifier before).2 = .ok (cs, []))
      (tokens : readPath path = .ok (tokens, [])) (quoted : BeginsQuoted after) :
      ReplacesOperator op (before ++ '[' :: (path ++ (Comparison.equals.text ++ after)))
        (before ++ '[' :: (path ++ (op.text ++ after)))

/-- One more condition at the end. -/
inductive AppendsCondition (d : Condition) : Text → Text → Prop
  | intro {t w : Text} (condition : readCondition true w = .ok (d, [])) :
      AppendsCondition d t (t ++ '[' :: w)

end Attribute

open Attribute

namespace AttributeSelector

variable {t t' : Text} {s : AttributeSelector}

/-- A selector that goes on with a bracket has one more condition and those behind it. -/
theorem ofText_append_eq_ok_iff {before : Text} {cs : List Condition}
    (h : readConditions true (readIdentifier before).2 = .ok (cs, [])) (w : Text) :
    AttributeSelector.ofText true (before ++ '[' :: w) = .ok s ↔
      ∃ c left ds, readCondition true w = .ok (c, left) ∧ readConditions true left = .ok (ds, []) ∧
        s = ⟨(readIdentifier before).1, cs ++ c :: ds⟩ := by
  have hopen : Text.trimStart ('[' :: w) = '[' :: w := Text.trimStart_cons (by decide) w
  rw [ofText_eq_ok_iff, readIdentifier_append_cons (by decide) (by decide)]
  simp only [readConditions_append_cons h]
  constructor
  · rintro ⟨hname, hconditions, -⟩
    obtain ⟨⟨es, rest⟩, hes, heq⟩ := exists_of_map_eq_ok hconditions
    obtain ⟨happend, rfl⟩ := Prod.mk.inj heq
    rcases readConditions_eq_ok_iff.1 hes with ⟨r, c, left, ds, hr, hc, hds, rfl⟩ | ⟨hnone, -⟩
    · cases hopen.symm.trans hr
      exact ⟨c, left, ds, hc, hds, by rw [happend, ← hname]⟩
    · exact absurd hopen (hnone w)
  · rintro ⟨c, left, ds, hc, hds, rfl⟩
    have hread : readConditions true ('[' :: w) = .ok (c :: ds, []) :=
      readConditions_eq_ok_iff.2 (Or.inl ⟨w, c, left, ds, hopen, hc, hds, rfl⟩)
    refine ⟨rfl, ?_, Or.inr (List.append_ne_nil_of_right_ne_nil cs (List.cons_ne_nil c ds))⟩
    rw [hread]
    rfl

/-- Another operator is all that changes. -/
theorem exists_of_replacesOperator {op : Comparison} (h : ReplacesOperator op t t')
    (hs : AttributeSelector.ofText true t = .ok s) :
    ∃ cs path x caseSensitive ds,
      s.conditions = cs ++ ⟨path, .compare .equals (.text x) caseSensitive⟩ :: ds ∧
      AttributeSelector.ofText true t' =
        .ok ⟨s.name, cs ++ ⟨path, .compare op (.text x) caseSensitive⟩ :: ds⟩ := by
  cases h with
  | @intro before path after cs tokens hconditions hpath hquoted =>
    obtain ⟨c, left, ds, hc, hds, rfl⟩ := (ofText_append_eq_ok_iff hconditions _).1 hs
    obtain ⟨x, caseSensitive, rfl, hread⟩ := readCondition_operator hpath hquoted hc
    exact ⟨cs, tokens, x, caseSensitive, ds, rfl,
      (ofText_append_eq_ok_iff hconditions _).2 ⟨_, left, ds, hread op, hds, rfl⟩⟩

/-- One more condition is all that changes. -/
theorem ofText_of_appendsCondition {d : Condition} (h : AppendsCondition d t t')
    (hs : AttributeSelector.ofText true t = .ok s) :
    AttributeSelector.ofText true t' = .ok ⟨s.name, s.conditions ++ [d]⟩ := by
  cases h with
  | intro hd =>
    obtain ⟨hname, hconditions, -⟩ := ofText_eq_ok_iff.1 hs
    rw [hname]
    exact (ofText_append_eq_ok_iff hconditions _).2 ⟨d, [], [], hd, readConditions_nil, rfl⟩

end AttributeSelector

end SelectorCode
