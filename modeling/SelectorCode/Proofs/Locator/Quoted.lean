import SelectorCode.Proofs.Attribute.Quoted
import SelectorCode.Proofs.Locator.Languages
import SelectorCode.Proofs.TextMatch

/-!
# Quoted texts in locators

A selector of one part that quotes a text is written as one call with this text, whatever the text is. The text passes
through two readers on its way, the scan of the selector and the reader of the body, and both end it at the same
quotation mark. Text engines quote it as a literal, and the engines with conditions as the value of an attribute.

## Main Definitions

* `IsWrittenAs`: the selectors that every language writes as a given call.

## Main Statements

* `isWrittenAs_of_part`: a selector of one part is written as the call of the part.
* `isWrittenAs_literal`: texts and labels are matched by the quoted text.
* `isWrittenAs_quotedCondition`: test ids, attributes and names of roles are matched by the quoted text.
-/

namespace SelectorCode

open Attribute (quotedCondition isBare)

/-! ### Single parts -/

/-- The selectors that every language writes as the given call. -/
def IsWrittenAs (selector : Text) (r : CallRequest) : Prop :=
  ∀ l, ∃ code, r.answer l = .ok code ∧ asLocator l false selector = .ok code

/-- A selector of one part is written as the call of the part, unless the call has an integer that is too long. -/
theorem isWrittenAs_of_part {selector : Text} {p : Part} {base : Base} {kind : Kind}
    {target : Target} {options : Options} (hchain : Chain.ofText selector = .ok ⟨[p], none⟩)
    (hcall : ∀ inner, specialCall? inner .page p = .ok (some (.simple base kind target options)))
    (hshort : kind = .role → hasLongNumeral options = false) :
    IsWrittenAs selector ⟨base, kind, target, options⟩ := by
  intro l
  have hcalls : calls .page [p] = .ok [.simple base kind target options] := by
    have horder : framesFirst [p] = [p] := by simp [framesFirst]
    rw [calls_eq, horder, walk, hcall]
    rfl
  refine ⟨_, CallRequest.answer_eq_ok l hshort, ?_⟩
  have hselector : selectorCalls false selector = .ok [.simple base kind target options] := by
    simp only [selectorCalls, hchain]
    exact hcalls
  rw [asLocator, hselector]
  simp [Except.map, code, codes_eq_map, joinCalls, Call.code]

/-! ### Engines that quote a text -/

/-- The engines whose body quotes a text to look for. -/
def Engine.quoting : List Text :=
  [internalText, internalLabel, role, testId, attr]

/-- What the scan and the labels need to know about these engines. -/
theorem quoting_names : ∀ name ∈ Engine.quoting,
    Label.isName name = true ∧ name.head? ≠ some '*' ∧ name ≠ Engine.text ∧ name ≠ Engine.css ∧
      name ≠ Engine.cssLight ∧ isNestedEngine name = false := by
  decide

/-- Such an engine with a quoted text is a chain of one part, whose body is left as it is. -/
theorem Chain.ofText_quotedBy {w : Char → Text} {n p q : Text} (hwrite : IsGuarded w)
    (hname : n ∈ Engine.quoting) (hpre : isAllPlain p = true) (hpost : isAllPlain q = true)
    (hend : ∀ c ∈ q, Text.isBlank c = false) (t : Text) :
    Chain.ofText (n ++ '=' :: (p ++ (Text.quotedBy w t ++ q))) =
      .ok ⟨[.ofText n (p ++ (Text.quotedBy w t ++ q))], none⟩ := by
  obtain ⟨hisName, hstar, htext, hcss, hlight, hnested⟩ := quoting_names n hname
  have hlast : ∀ r c, q = r ++ [c] → Text.isBlank c = false := by
    rintro r c rfl
    exact hend c (by simp)
  exact Chain.ofText_of_labels (labels_quotedBy hwrite hisName hstar htext hpre hpost hlast t)
    hcss hlight hnested

/-! ### Texts and labels -/

variable (t : Text) (m : CaseMark)

/-- The call of a body that is a literal and a mark of case. -/
theorem matchCall_literal (base : Base) (kind : Kind) (name : Text) :
    matchCall base kind (.ofText name (Text.literal .double t ++ m.text)) =
      .ok (.simple base kind (.text t) (.ofExact (some m.isExact))) := by
  have hbody : Part.textBody (.ofText name (Text.literal .double t ++ m.text)) =
      .ok (Text.literal .double t ++ m.text) := rfl
  simp only [matchCall, Part.textMatch, hbody, TextMatch.ofBody_literal]
  rfl

/-- **A text reaches its call unchanged**: a text or a label that is given as a literal is matched by the text of the
literal, and exactly unless the mark behind it says that case does not count. -/
theorem isWrittenAs_literal :
    IsWrittenAs (Engine.internalText ++ '=' :: (Text.literal .double t ++ m.text))
        ⟨.page, .text, .text t, .ofExact (some m.isExact)⟩ ∧
      IsWrittenAs (Engine.internalLabel ++ '=' :: (Text.literal .double t ++ m.text))
        ⟨.page, .label, .text t, .ofExact (some m.isExact)⟩ := by
  have hchain : ∀ name ∈ Engine.quoting,
      Chain.ofText (name ++ '=' :: (Text.literal .double t ++ m.text)) =
        .ok ⟨[.ofText name (Text.literal .double t ++ m.text)], none⟩ := fun name hname =>
    Chain.ofText_quotedBy (p := []) isGuarded_escapeChar hname rfl m.isAllPlain_text
      (fun _ => CaseMark.isBlank_of_mem_text) t
  have htext : ∀ inner base body, specialCall? inner base (.ofText Engine.internalText body) =
      (matchCall base .text (.ofText Engine.internalText body)).map some := fun _ _ _ => rfl
  have hlabel : ∀ inner base body, specialCall? inner base (.ofText Engine.internalLabel body) =
      (matchCall base .label (.ofText Engine.internalLabel body)).map some := fun _ _ _ => rfl
  constructor
  · refine isWrittenAs_of_part (hchain _ (by decide)) (fun inner => ?_) (by simp)
    rw [htext, matchCall_literal]
    rfl
  · refine isWrittenAs_of_part (hchain _ (by decide)) (fun inner => ?_) (by simp)
    rw [hlabel, matchCall_literal]
    rfl

/-! ### Attributes -/

/-- An engine with a quoted condition is a chain of one part. -/
theorem Chain.ofText_quotedCondition {engine subject name : Text} (hengine : engine ∈ Engine.quoting)
    (hsubject : isBare subject = true) (hname : isBare name = true) :
    Chain.ofText (engine ++ '=' :: (subject ++ quotedCondition name t m)) =
      .ok ⟨[.ofText engine (subject ++ quotedCondition name t m)], none⟩ := by
  have hpre : isAllPlain (subject ++ '[' :: (name ++ ['='])) = true := by
    have hopen : isAllPlain ('[' :: (name ++ ['='])) = true := by
      rw [← List.singleton_append]
      exact isAllPlain_append (by decide)
        (isAllPlain_append (Attribute.isAllPlain_of_isBare hname) (by decide))
    exact isAllPlain_append (Attribute.isAllPlain_of_isBare hsubject) hopen
  have hend : ∀ c ∈ m.text ++ [']'], Text.isBlank c = false := by
    intro c hc
    rcases List.mem_append.1 hc with hc | hc
    · exact CaseMark.isBlank_of_mem_text hc
    · obtain rfl := List.mem_singleton.1 hc
      decide
  have hcondition : subject ++ quotedCondition name t m = (subject ++ '[' :: (name ++ ['='])) ++
      (Text.quotedBy Attribute.guardChar t ++ (m.text ++ [']'])) := by
    simp [quotedCondition]
  rw [hcondition]
  exact Chain.ofText_quotedBy Attribute.isGuarded_guardChar hengine hpre
    (isAllPlain_append m.isAllPlain_text (by decide)) hend t

/-- The attributes of a part whose body is a quoted condition. -/
theorem Part.attributes_quotedCondition {subject name : Text} (engine : Text)
    (hsubject : isBare subject = true) (hname : isBare name = true) (hne : name ≠ []) :
    Part.attributes (.ofText engine (subject ++ quotedCondition name t m)) =
      .ok ⟨subject, [⟨[name], .compare .equals (.text t) m.isExact⟩]⟩ :=
  Part.attributes_ofText_eq_ok_iff.2
    (AttributeSelector.ofText_quotedCondition true hsubject hname hne t m)

/-- An engine with a quoted condition is written as its call, which it makes from the attributes that were quoted. -/
theorem isWrittenAs_of_attributes {engine s name : Text} {kind : Kind} {target : Target}
    {options : Options} (hengine : engine ∈ Engine.quoting) (hsubject : isBare s = true)
    (hname : isBare name = true) (hne : name ≠ [])
    (hcall : ∀ inner body, Part.attributes (.ofText engine body) =
        .ok ⟨s, [⟨[name], .compare .equals (.text t) m.isExact⟩]⟩ →
      specialCall? inner .page (.ofText engine body) =
        .ok (some (.simple .page kind target options)))
    (hshort : kind = .role → hasLongNumeral options = false) :
    IsWrittenAs (engine ++ '=' :: (s ++ quotedCondition name t m))
      ⟨.page, kind, target, options⟩ := by
  have hattributes := Part.attributes_quotedCondition t m engine hsubject hname hne
  exact isWrittenAs_of_part (Chain.ofText_quotedCondition t m hengine hsubject hname)
    (fun inner => hcall inner _ hattributes) hshort

/-- **A value reaches its call unchanged**: test ids, attributes with a call of their own and the names of roles that are
given as a quoted value are matched by the text of the value, and exactly unless the mark behind it says that case does
not count. -/
theorem isWrittenAs_quotedCondition :
    IsWrittenAs (Engine.testId ++ '=' :: quotedCondition "data-testid".toList t m)
        ⟨.page, .testId, .text t, .empty⟩ ∧
      (∀ kind ∈ [Kind.placeholder, .alt, .title],
        IsWrittenAs (Engine.attr ++ '=' :: quotedCondition kind.name t m)
          ⟨.page, kind, .text t, .ofExact (some m.isExact)⟩) ∧
      ∀ role, isBare role = true →
        IsWrittenAs (Engine.role ++ '=' :: (role ++ quotedCondition "name".toList t m))
          ⟨.page, .role, .text role, ⟨some m.isExact, some (.text t), []⟩⟩ := by
  refine ⟨?_, ?_, ?_⟩
  · refine isWrittenAs_of_attributes t m (s := []) (by decide) rfl (by decide) (by decide)
      (fun inner body hattributes => ?_) (by simp)
    have hcall : testIdCall .page (.ofText Engine.testId body) =
        .ok (.simple .page .testId (.text t) .empty) := by
      simp only [testIdCall, hattributes]
      rfl
    exact congrArg (Except.map some) hcall
  · intro kind hkind
    have hkinds : ∀ k ∈ [Kind.placeholder, .alt, .title], isBare k.name = true ∧ k.name ≠ [] ∧
        k ≠ .role := by decide
    obtain ⟨hbare, hne, hrole⟩ := hkinds kind hkind
    have hattribute := attributeKind?_eq_some_iff.2 ⟨hkind, rfl⟩
    refine isWrittenAs_of_attributes t m (s := []) (by decide) rfl hbare hne
      (fun inner body hattributes => ?_) (fun h => absurd h hrole)
    have hname : Condition.name ⟨[kind.name], .compare .equals (.text t) m.isExact⟩ = kind.name := by
      simp [Condition.name]
    have hcall : attributeCall? .page (.ofText Engine.attr body) =
        .ok (some (.simple .page kind (.text t) (.ofExact (some m.isExact)))) := by
      simp only [attributeCall?, hattributes, hname, hattribute]
      rfl
    exact hcall
  · intro role hbare
    refine isWrittenAs_of_attributes t m (by decide) hbare (by decide) (by decide)
      (fun inner body hattributes => ?_) (fun _ => rfl)
    have hcall : roleCall .page (.ofText Engine.role body) =
        .ok (.simple .page .role (.text role) ⟨some m.isExact, some (.text t), []⟩) := by
      simp only [roleCall, hattributes]
      rfl
    exact congrArg (Except.map some) hcall

/-- Brackets, separators, quotation marks and a backslash at the end are part of the text. -/
theorem isWrittenAs_quotedCondition_brackets :
    asLocator .javascript false "internal:attr=[alt=\"]\\\" >> \"i]".toList =
        .ok "getByAltText(']\" >> ')".toList ∧
      asLocator .java false "internal:role=button[name=\"]\\\\\"]".toList =
        .ok ("getByRole(AriaRole.BUTTON, ".toList ++
          "new Page.GetByRoleOptions().setName(\"]\\\\\").setExact(true))".toList) := by
  have hbare : isBare "button".toList = true := by decide
  obtain ⟨-, hattr, -⟩ := isWrittenAs_quotedCondition "]\" >> ".toList .insensitive
  obtain ⟨-, -, hrole⟩ := isWrittenAs_quotedCondition "]\\".toList .none
  obtain ⟨alt, halt, hattr⟩ := hattr .alt (by decide) .javascript
  obtain ⟨button, hbutton, hrole⟩ := hrole "button".toList hbare .java
  -- the answers for single calls are computed, and the code of the selectors is the same
  cases halt
  cases hbutton
  exact ⟨hattr, hrole⟩

end SelectorCode
