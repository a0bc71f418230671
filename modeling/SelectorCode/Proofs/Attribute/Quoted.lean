import SelectorCode.Proofs.Attribute.Reading
import SelectorCode.Proofs.Selector.Quoted

/-!
# Quoted values of attributes

A condition may compare an attribute with a text in quotation marks. The reader of conditions takes the character behind
a backslash as it is, so a text is guarded by a backslash before each quotation mark and each backslash, and by nothing
else. Control characters are not escaped as they are in literals, but the scan of the selector passes over both.

## Main Definitions

* `Attribute.isBare`: the names that are names to every reader.
* `Attribute.guardChar`: the written form of a character in a quoted value.
* `Attribute.quotedCondition`: the condition that an attribute equals a text.

## Main Statements

* `readQuoted_guardChar`: a quoted value is read as its text.
* `isGuarded_guardChar`: the scan passes over a quoted value.
* `readCondition_quoted`: the condition is read as what it says.
* `AttributeSelector.ofText_quotedCondition`: a name with one such condition.
-/

namespace SelectorCode

namespace Attribute

/-! ### Bare names -/

/-- ASCII letters and digits, underscores and hyphens. -/
def isBareChar (c : Char) : Bool :=
  c.isAlphanum || c = '_' || c = '-'

/-- The names that are names to every reader, and need no quotation marks. -/
def isBare (name : Text) : Bool :=
  name.all isBareChar

variable {name : Text}

theorem isNameChar_of_isBareChar {c : Char} (hc : isBareChar c = true) : isNameChar c = true := by
  simp only [isBareChar, Bool.or_eq_true, decide_eq_true_eq] at hc
  rcases hc with (hc | rfl) | rfl
  · simp [isNameChar, hc]
  · rfl
  · rfl

theorem isNameChar_label_of_isBareChar {c : Char} (hc : isBareChar c = true) :
    Label.isNameChar c = true := by
  simp only [isBareChar, Bool.or_eq_true, decide_eq_true_eq] at hc
  rcases hc with (hc | rfl) | rfl
  · simp [Label.isNameChar, hc]
  · rfl
  · rfl

theorem isBareChar_of_mem (h : isBare name = true) {c : Char} (hc : c ∈ name) :
    isBareChar c = true :=
  List.all_eq_true.1 h c hc

theorem isAllPlain_of_isBare (h : isBare name = true) : isAllPlain name = true :=
  List.all_eq_true.2 fun _ hc =>
    Label.isPlain_of_isNameChar (isNameChar_label_of_isBareChar (isBareChar_of_mem h hc))

theorem isBlank_of_isBare (h : isBare name = true) {c : Char} {r : Text} (hc : name = c :: r) :
    Text.isBlank c = false := by
  have hmem : c ∈ name := by rw [hc]; exact List.mem_cons_self
  exact Label.isBlank_of_isNameChar (isNameChar_label_of_isBareChar (isBareChar_of_mem h hmem))

/-- A bare name is read up to a character that belongs to no name. -/
theorem readIdentifier_of_isBare (h : isBare name = true) {c : Char} (hname : isNameChar c = false)
    (hblank : Text.isBlank c = false) (r : Text) :
    readIdentifier (name ++ c :: r) = (name, c :: r) := by
  refine readIdentifier_append (fun d s hd => isBlank_of_isBare h hd)
    (fun d hd => isNameChar_of_isBareChar (isBareChar_of_mem h hd)) fun d s hd => ?_
  rw [← (List.cons.inj hd).1]
  exact ⟨hname, hblank⟩

/-- A bare name before an equals sign is a whole path. -/
theorem readPath_append (h : isBare name = true) (hne : name ≠ []) (r : Text) :
    readPath (name ++ '=' :: r) = .ok ([name], '=' :: r) := by
  have hword : readWord (name ++ '=' :: r) = .ok (name, '=' :: r) := by
    have hidentifier := readIdentifier_of_isBare h (c := '=') (by decide) (by decide) r
    cases name with
    | nil => exact absurd rfl hne
    | cons c name =>
      have hc := isBareChar_of_mem h List.mem_cons_self
      have hblank := isBlank_of_isBare h rfl
      have hquote : ¬ (c = '"' ∨ c = '\x27') := by
        rintro (rfl | rfl) <;> exact absurd hc (by decide)
      rw [List.cons_append] at hidentifier ⊢
      rw [readWord, Text.trimStart_cons hblank]
      simp only [if_neg hquote, hidentifier]
  have htoken : readToken (name ++ '=' :: r) = .ok (name, '=' :: r) := by
    have hempty : name.isEmpty = false := List.isEmpty_eq_false_iff.2 hne
    simp [readToken, hword, hempty]
  have htrim : Text.trimStart ('=' :: r) = '=' :: r := Text.trimStart_cons (by decide) r
  rw [readPath_singleton htoken (by simp [htrim]), htrim]

/-! ### Quoted values -/

/-- The written form of a character in a quoted value. -/
def guardChar (c : Char) : Text :=
  if c = '\\' ∨ c = '"' then ['\\', c] else [c]

/-- A quoted value is read as its text, up to the closing quotation mark. -/
theorem readQuoted_guardChar (t r : Text) :
    readQuoted '"' (t.flatMap guardChar ++ '"' :: r) = some (t, r) := by
  induction t with
  | nil => simp [readQuoted]
  | cons c t ih =>
    rw [List.flatMap_cons, List.append_assoc, guardChar]
    by_cases hc : c = '\\' ∨ c = '"'
    · rw [if_pos hc, List.cons_append, List.singleton_append, readQuoted, ih]
      rfl
    · rw [not_or] at hc
      rw [if_neg (not_or.2 hc), List.singleton_append, readQuoted, if_neg hc.2, ih]
      · rfl
      · exact fun _ _ hback => absurd hback hc.1

/-- The scan passes over a quoted value. -/
theorem isGuarded_guardChar : IsGuarded guardChar := by
  intro chunk c r
  rw [guardChar]
  by_cases hc : c = '\\' ∨ c = '"'
  · rw [if_pos hc]
    exact scan_escape _ _ _ _
  · rw [if_neg hc]
    rw [not_or] at hc
    exact scan_quoted_char hc.1 hc.2 chunk r

/-! ### Conditions -/

/-- The condition that an attribute equals a text. -/
def quotedCondition (name value : Text) (m : CaseMark) : Text :=
  '[' :: (name ++ '=' :: (Text.quotedBy guardChar value ++ (m.text ++ [']'])))

theorem readCase_text (m : CaseMark) (r : Text) :
    readCase (m.text ++ ']' :: r) = (m.isExact, ']' :: r) := by
  cases m <;> rfl

theorem readOperand_quotedBy (permissive : Bool) (op : Comparison) (t : Text) (m : CaseMark)
    (r : Text) : readOperand permissive op (Text.quotedBy guardChar t ++ (m.text ++ ']' :: r)) =
      .ok (⟨.text t, m.isExact⟩, ']' :: r) := by
  have hquoted : Text.quotedBy guardChar t ++ (m.text ++ ']' :: r) =
      '"' :: (t.flatMap guardChar ++ '"' :: (m.text ++ ']' :: r)) := by
    simp [Text.quotedBy]
  rw [hquoted, readOperand, Text.trimStart_cons (by decide)]
  simp only [readQuoted_guardChar, readCase_text]
  rfl

/-- A quoted value is compared as it stands, and the mark behind it says whether case counts. -/
theorem readCondition_quoted (permissive : Bool) (hbare : isBare name = true) (hne : name ≠ [])
    (t : Text) (m : CaseMark) (r : Text) :
    readCondition permissive
        (name ++ '=' :: (Text.quotedBy guardChar t ++ (m.text ++ ']' :: r))) =
      .ok (⟨[name], .compare .equals (.text t) m.isExact⟩, r) := by
  have hcomparison : ∀ s, readComparison ('=' :: s) = .ok (.equals, s) := fun _ => rfl
  have hclose : readClose (']' :: r) = .ok r := rfl
  have hcomparing : readComparing permissive
      ('=' :: (Text.quotedBy guardChar t ++ (m.text ++ ']' :: r))) =
      .ok (.compare .equals (.text t) m.isExact, r) := by
    simp only [readComparing, hcomparison, readOperand_quotedBy, hclose]
    rfl
  have htest : readTest permissive ('=' :: (Text.quotedBy guardChar t ++ (m.text ++ ']' :: r))) =
      .ok (.compare .equals (.text t) m.isExact, r) := hcomparing
  rw [readCondition, readPath_append hbare hne]
  simp only [htest]

/-- A condition with nothing behind it is the only one. -/
theorem readConditions_of_readCondition {permissive : Bool} {t r : Text} {c : Condition}
    (hopen : Text.trimStart t = '[' :: r) (hread : readCondition permissive r = .ok (c, [])) :
    readConditions permissive t = .ok ([c], []) := by
  refine readConditions_eq_ok_iff.2 (Or.inl ⟨r, c, [], [], hopen, hread, ?_, rfl⟩)
  exact readConditions_eq_ok_iff.2 (Or.inr ⟨fun _ h => (List.cons_ne_nil _ _ h.symm), rfl, rfl⟩)

end Attribute

open Attribute

/-- **A quoted value survives the reader of attributes**: a name and a condition with a quoted value are read as that
name and that condition. -/
theorem AttributeSelector.ofText_quotedCondition (permissive : Bool) {subject name : Text}
    (hsubject : isBare subject = true) (hbare : isBare name = true) (hne : name ≠ []) (t : Text)
    (m : CaseMark) :
    AttributeSelector.ofText permissive (subject ++ quotedCondition name t m) =
      .ok ⟨subject, [⟨[name], .compare .equals (.text t) m.isExact⟩]⟩ := by
  have hidentifier := readIdentifier_of_isBare hsubject (c := '[') (by decide) (by decide)
    (name ++ '=' :: (Text.quotedBy guardChar t ++ (m.text ++ [']'])))
  have hconditions : readConditions permissive (quotedCondition name t m) =
      .ok ([⟨[name], .compare .equals (.text t) m.isExact⟩], []) :=
    readConditions_of_readCondition (Text.trimStart_cons (by decide) _)
      (readCondition_quoted permissive hbare hne t m [])
  have hread : readSelector permissive (subject ++ quotedCondition name t m) =
      .ok ⟨subject, [⟨[name], .compare .equals (.text t) m.isExact⟩]⟩ := by
    rw [quotedCondition] at hconditions ⊢
    simp [readSelector, hidentifier, hconditions]
  rw [AttributeSelector.ofText, hread]
  rfl

end SelectorCode
