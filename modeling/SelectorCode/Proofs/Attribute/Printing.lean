import SelectorCode.Proofs.Attribute.Permissive
import SelectorCode.Proofs.Attribute.Quoted

/-!
# Printing attribute selectors

An attribute selector has many written forms. Its printed form is the one without blanks, with all tokens and texts in
double quotation marks and with a letter for the case behind every text. The permissive mode reads it back, and the
selectors for which it does are exactly those that it reads at all.

## Main Definitions

* `Test.text`, `Condition.text`, `AttributeSelector.text`: printed forms.
* `AttributeSelector.IsQuoted`: a bare name with conditions on quoted values.

## Main Statements

* `readTest_text`, `readCondition_text`, `readConditions_text`: each reader takes the printed form and no more.
* `AttributeSelector.isLegible_iff_ofText_text`: a legible selector is what its printed form says, and only such.
* `AttributeSelector.ofText_text`: the selectors that have been read, and those with quoted values, are read back.
-/

namespace SelectorCode

/-! ### Printed forms -/

/-- The letter behind a text. -/
def CaseMark.ofBool : Bool → CaseMark
  | true => .sensitive
  | false => .insensitive

@[simp]
theorem CaseMark.isExact_ofBool (b : Bool) : (CaseMark.ofBool b).isExact = b := by
  cases b <;> rfl

/-- A value behind an operator; behind a text stands whether case counts. -/
def Value.operandText (caseSensitive : Bool) : Value → Text
  | text t => Text.quotedBy Attribute.guardChar t ++ (CaseMark.ofBool caseSensitive).text
  | bool b => if b then "true".toList else "false".toList
  | number n => n.text
  | pattern p => p.text

/-- A test, up to the closing bracket. -/
def Test.text : Test → Text
  | truthy => []
  | compare op v caseSensitive => op.text ++ v.operandText caseSensitive

/-- The tokens of a path in quotation marks, with points between them. -/
def Attribute.pathText (path : List Text) : Text :=
  List.intercalate ['.'] (path.map (Text.quotedBy guardChar))

/-- A condition in brackets. -/
def Condition.text (c : Condition) : Text :=
  '[' :: (Attribute.pathText c.path ++ (c.test.text ++ [']']))

/-- The name, and the conditions behind it. -/
def AttributeSelector.text (s : AttributeSelector) : Text :=
  s.name ++ s.conditions.flatMap Condition.text

namespace Attribute

/-! ### Paths -/

/-- A token in quotation marks is read whatever follows it. -/
theorem readToken_quotedBy {token : Text} (hne : token ≠ []) (r : Text) :
    readToken (Text.quotedBy guardChar token ++ r) = .ok (token, r) := by
  have hquoted : Text.quotedBy guardChar token ++ r =
      '"' :: (token.flatMap guardChar ++ '"' :: r) := by
    simp [Text.quotedBy]
  refine readToken_eq_ok_iff.2 ⟨?_, hne⟩
  rw [hquoted, readWord, Text.trimStart_cons (by decide)]
  simp [readQuoted_guardChar]

/-- A printed path is read up to a character that is neither a blank nor a point. -/
theorem readPath_pathText {path : List Text} (hne : path ≠ []) (hnil : [] ∉ path) {c : Char}
    (hblank : Text.isBlank c = false) (hpoint : c ≠ '.') (r : Text) :
    readPath (pathText path ++ c :: r) = .ok (path, c :: r) := by
  have htrim : Text.trimStart (c :: r) = c :: r := Text.trimStart_cons hblank r
  induction path with
  | nil => exact absurd rfl hne
  | cons token tokens ih =>
    have htoken : token ≠ [] := fun h => hnil (h ▸ List.mem_cons_self)
    cases tokens with
    | nil =>
      have hread : readToken (pathText [token] ++ c :: r) = .ok (token, c :: r) := by
        rw [pathText, List.map_singleton, List.intercalate_singleton]
        exact readToken_quotedBy htoken (c :: r)
      rw [readPath_singleton hread, htrim]
      rw [htrim]
      exact fun s hs => hpoint (List.cons.inj hs).1
    | cons token' tokens =>
      have hread : readToken (pathText (token :: token' :: tokens) ++ c :: r) =
          .ok (token, '.' :: (pathText (token' :: tokens) ++ c :: r)) := by
        have hcons : pathText (token :: token' :: tokens) ++ c :: r =
            Text.quotedBy guardChar token ++ '.' :: (pathText (token' :: tokens) ++ c :: r) := by
          simp [pathText, List.intercalate]
        rw [hcons]
        exact readToken_quotedBy htoken _
      refine readPath_cons hread (Text.trimStart_cons (by decide) _) ?_
      exact ih (List.cons_ne_nil _ _) fun h => hnil (List.mem_cons_of_mem _ h)

/-! ### Tests -/

theorem readComparison_text (op : Comparison) (r : Text) :
    readComparison (op.text ++ r) = .ok (op, r) := by
  cases op <;> rfl

/-- An operator does not close the brackets. -/
theorem readTest_operator (permissive : Bool) (op : Comparison) (r : Text) :
    readTest permissive (op.text ++ r) = readComparing permissive (op.text ++ r) := by
  cases op <;> rfl

/-- A word that begins like none of the other values is a word up to the closing bracket. -/
theorem readOperand_word {c : Char} {word : Text} {v : Value} (op : Comparison)
    (hc : isWordChar true c = true ∧ Text.isBlank c = false ∧ c ≠ '/' ∧ c ≠ '"' ∧ c ≠ '\x27')
    (hword : ∀ d ∈ word, isWordChar true d = true) (r : Text)
    (hv : wordValue true (c :: word) (']' :: r) = .ok v) :
    readOperand true op (c :: word ++ ']' :: r) = .ok (⟨v, true⟩, ']' :: r) := by
  obtain ⟨hchar, hblank, hslash, hdouble, hsingle⟩ := hc
  have hall : ∀ d ∈ c :: word, isWordChar true d = true := by
    intro d hd
    rcases List.mem_cons.1 hd with rfl | hd
    · exact hchar
    · exact hword d hd
  have hstop : isWordChar true ']' = false := by decide
  have htake : (c :: word ++ ']' :: r).takeWhile (isWordChar true) = c :: word := by
    rw [List.takeWhile_append_of_pos hall, List.takeWhile_cons_of_neg (by simp [hstop]),
      List.append_nil]
  have hdrop : (c :: word ++ ']' :: r).dropWhile (isWordChar true) = ']' :: r := by
    rw [List.dropWhile_append_of_pos hall, List.dropWhile_cons_of_neg (by simp [hstop])]
  have hread : readUnquoted true (c :: word ++ ']' :: r) = .ok (⟨v, true⟩, ']' :: r) := by
    simp only [readUnquoted, htake, hdrop, hv]
  rw [List.cons_append] at hread ⊢
  rw [readOperand, Text.trimStart_cons hblank]
  simp only [if_neg hslash, hdouble, hsingle, or_self, if_false, hread]

/-- The printed value of a legible test is read up to the closing bracket. -/
theorem readOperand_operandText {op : Comparison} {v : Value} {caseSensitive : Bool}
    (h : (Test.compare op v caseSensitive).IsLegible) (r : Text) :
    readOperand true op (v.operandText caseSensitive ++ ']' :: r) =
      .ok (⟨v, caseSensitive⟩, ']' :: r) := by
  cases h with
  | text op t caseSensitive =>
    have hread := readOperand_quotedBy true op t (CaseMark.ofBool caseSensitive) r
    rw [CaseMark.isExact_ofBool] at hread
    rw [Value.operandText, List.append_assoc]
    exact hread
  | bool b =>
    cases b with
    | true => exact readOperand_word .equals (by decide) (List.all_eq_true.1 (by decide)) r rfl
    | false => exact readOperand_word .equals (by decide) (List.all_eq_true.1 (by decide)) r rfl
  | pattern p hp =>
    have htext : (Value.pattern p).operandText true ++ ']' :: r =
        '/' :: (p.source ++ '/' :: (p.flags ++ ']' :: r)) := by
      simp [Value.operandText, Pattern.text]
    rw [htext, readOperand, Text.trimStart_cons (by decide)]
    simp [readPattern_append hp (c := ']') (by decide)]

/-- A printed test begins with neither a blank nor a point. -/
theorem exists_cons_of_test_text (test : Test) (r : Text) :
    ∃ c s, test.text ++ ']' :: r = c :: s ∧ Text.isBlank c = false ∧ c ≠ '.' := by
  cases test with
  | truthy => exact ⟨']', r, rfl, by decide, by decide⟩
  | compare op v caseSensitive =>
    cases op <;> exact ⟨_, _, rfl, by decide, by decide⟩

/-- A printed test is read with its closing bracket. -/
theorem readTest_text {test : Test} (h : test.IsLegible) (r : Text) :
    readTest true (test.text ++ ']' :: r) = .ok (test, r) := by
  cases test with
  | truthy => rfl
  | compare op v caseSensitive =>
    have hsuits : op = .equals ∨ v.isText = true := by
      cases h with
      | text => exact Or.inr rfl
      | bool => exact Or.inl rfl
      | pattern => exact Or.inl rfl
    rw [Test.text, List.append_assoc, readTest_operator]
    exact readComparing_eq_ok_iff.2 ⟨op, _, ⟨v, caseSensitive⟩, ']' :: r, readComparison_text op _,
      readOperand_operandText h r, rfl, hsuits, rfl⟩

/-! ### Conditions -/

/-- A printed condition is read behind its opening bracket, and no more. -/
theorem readCondition_text {c : Condition} (h : c.IsLegible) (r : Text) :
    readCondition true (pathText c.path ++ (c.test.text ++ ']' :: r)) = .ok (c, r) := by
  obtain ⟨d, s, htext, hblank, hpoint⟩ := exists_cons_of_test_text c.test r
  refine readCondition_eq_ok_iff.2 ⟨c.test.text ++ ']' :: r, ?_, readTest_text h.test r⟩
  rw [htext]
  exact readPath_pathText h.path_ne_nil h.nil_not_mem_path hblank hpoint s

/-- Printed conditions are read one after the other. -/
theorem readConditions_text {cs : List Condition} (h : ∀ c ∈ cs, c.IsLegible) :
    readConditions true (cs.flatMap Condition.text) = .ok (cs, []) := by
  induction cs with
  | nil => exact readConditions_nil
  | cons c cs ih =>
    have htext : (c :: cs).flatMap Condition.text =
        '[' :: (pathText c.path ++ (c.test.text ++ ']' :: cs.flatMap Condition.text)) := by
      simp [Condition.text]
    refine readConditions_eq_ok_iff.2 (Or.inl ⟨_, c, cs.flatMap Condition.text, cs, ?_,
      readCondition_text (h c List.mem_cons_self) _,
      ih fun d hd => h d (List.mem_cons_of_mem c hd), rfl⟩)
    rw [htext]
    exact Text.trimStart_cons (by decide) _

end Attribute

open Attribute

namespace AttributeSelector

/-! ### Selectors -/

/-- A legible selector is read back from its printed form. -/
theorem ofText_text_of_isLegible {s : AttributeSelector} (h : s.IsLegible) :
    AttributeSelector.ofText true s.text = .ok s := by
  -- what follows the name is nothing, or the bracket of the first condition
  have hrest : ∀ c r, s.conditions.flatMap Condition.text = c :: r →
      isNameChar c = false ∧ Text.isBlank c = false := by
    intro c r hcons
    cases hconditions : s.conditions with
    | nil =>
      rw [hconditions] at hcons
      cases hcons
    | cons d ds =>
      rw [hconditions, List.flatMap_cons] at hcons
      rw [← (List.cons.inj hcons).1]
      decide
  have hidentifier : readIdentifier s.text = (s.name, s.conditions.flatMap Condition.text) :=
    readIdentifier_append h.isBlank_head h.isNameChar_of_mem hrest
  refine ofText_eq_ok_iff.2 ⟨?_, ?_, h.ne_empty⟩
  · rw [hidentifier]
  · rw [hidentifier]
    exact readConditions_text h.conditions

/-- **The legible selectors** are the ones that are read back from their printed forms. -/
theorem isLegible_iff_ofText_text {s : AttributeSelector} :
    s.IsLegible ↔ AttributeSelector.ofText true s.text = .ok s :=
  ⟨ofText_text_of_isLegible, isLegible_of_ofText⟩

/-- The selectors with a bare name that only compare attributes with texts. -/
structure IsQuoted (s : AttributeSelector) : Prop where
  name_ne_nil : s.name ≠ []
  isBare_name : isBare s.name = true
  path : ∀ c ∈ s.conditions, c.path ≠ [] ∧ [] ∉ c.path
  test : ∀ c ∈ s.conditions, ∃ op t caseSensitive, c.test = .compare op (.text t) caseSensitive

theorem isLegible_of_isQuoted {s : AttributeSelector} (h : s.IsQuoted) : s.IsLegible where
  isBlank_head _ _ hc := isBlank_of_isBare h.isBare_name hc
  isNameChar_of_mem _ hc := isNameChar_of_isBareChar (isBareChar_of_mem h.isBare_name hc)
  ne_empty := Or.inl h.name_ne_nil
  conditions c hc := by
    obtain ⟨op, t, caseSensitive, htest⟩ := h.test c hc
    refine ⟨(h.path c hc).1, (h.path c hc).2, ?_⟩
    rw [htest]
    exact .text op t caseSensitive

/-- **The printed form of a selector is read back.** This holds of all selectors that have been read from some text, and
of all that consist of a bare name and comparisons with texts, whatever these hold. -/
theorem ofText_text {s : AttributeSelector}
    (h : (∃ t, AttributeSelector.ofText true t = .ok s) ∨ s.IsQuoted) :
    AttributeSelector.ofText true s.text = .ok s := by
  apply ofText_text_of_isLegible
  rcases h with ⟨t, ht⟩ | hquoted
  · exact isLegible_of_ofText ht
  · exact isLegible_of_isQuoted hquoted

/-- Blanks, quotation marks of both kinds, a line break in a pattern and a text without marks. -/
theorem ofText_text_spellings :
    AttributeSelector.ofText true " b [ x . 'y\"' = /[/]\\n\n/i ][ u *= a b ]".toList =
      .ok ⟨"b".toList,
        [⟨["x".toList, "y\"".toList],
          .compare .equals (.pattern ⟨"[/]\\n\\n".toList, "i".toList⟩) true⟩,
        ⟨["u".toList], .compare .contains (.text "a b ".toList) true⟩]⟩ ∧
    AttributeSelector.ofText true "b[\"x\".\"y\\\"\"=/[/]\\n\\n/i][\"u\"*=\"a b \"s]".toList =
      .ok ⟨"b".toList,
        [⟨["x".toList, "y\"".toList],
          .compare .equals (.pattern ⟨"[/]\\n\\n".toList, "i".toList⟩) true⟩,
        ⟨["u".toList], .compare .contains (.text "a b ".toList) true⟩]⟩ := by
  refine (fun hread => ⟨hread, ?_⟩) (eq_ok_of_toOption_eq_some (by decide +kernel))
  exact ofText_text (Or.inl ⟨_, hread⟩)

end AttributeSelector

end SelectorCode
