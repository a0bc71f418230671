import Mathlib.Data.Option.Basic
import SelectorCode.Proofs.Attribute.Editing
import SelectorCode.Proofs.Locator.Refusal
import SelectorCode.Proofs.Locator.RoleSettings
import SelectorCode.Proofs.Locator.RoleValues

/-!
# Conditions that calls show

The engines of roles, test ids and attributes take the name, the value and the case of a condition, and none of them asks
for the operator. The engines of test ids and of attributes take the first condition only. The engine of roles takes all
of them, but what the name of a role is compared with is written only if it is a text or a pattern. So an edit of an
attribute selector shows in the code of its call only if it adds a condition that is written.

## Main Definitions

* `Condition.EqUpToOperator`: conditions that differ in their operators at most.

## Main Statements

* `specialCall?_of_head`: a call by test id or by attribute depends on the first condition only.
* `specialCall?_of_forall₂`: no call depends on operators.
* `code_eq_of_edit_iff`: which edits of a part leave the code of its call as it is.
-/

namespace SelectorCode

open Locator (Error)

/-! ### Engines of attribute selectors -/

section

variable {base : Base} {p : Part} {inner : Chain → Except Error (List Call)}

/-- The engine of test ids has no other call. -/
theorem specialCall?_of_testId (h : p.name = Engine.testId) :
    specialCall? inner base p = (testIdCall base p).map some := by
  rw [specialCall?, Part.isNth, h]
  rfl

/-- The engine of attributes has no other call. -/
theorem specialCall?_of_attr (h : p.name = Engine.attr) :
    specialCall? inner base p = attributeCall? base p := by
  rw [specialCall?, Part.isNth, h]
  rfl

end

/-! ### Operators -/

/-- Two conditions that differ in their operators at most. -/
structure Condition.EqUpToOperator (c d : Condition) : Prop where
  name : c.name = d.name
  value : c.test.value? = d.test.value?
  isCaseSensitive : c.test.isCaseSensitive = d.test.isCaseSensitive

theorem Condition.EqUpToOperator.refl (c : Condition) : c.EqUpToOperator c :=
  ⟨rfl, rfl, rfl⟩

section

variable {source : Text} {o o' : Options} {c d : Condition} {cs ds : List Condition}

theorem levelValue_of_eq_ok {t : Text} {v : Value} (h : levelValue source t = .ok v) (source' : Text) :
    levelValue source' t = .ok v := by
  unfold levelValue at h
  split at h
  · cases h
  next n hn =>
    rw [levelValue, hn]
    exact h
  next x hx =>
    split at h
    next hfinite =>
      rw [levelValue, hx]
      simp only [if_pos hfinite]
      exact h
    · cases h

/-- The source of a part counts only in errors. -/
theorem roleValue_of_eq_ok {name : Text} {value v : Option Value}
    (h : roleValue source name value = .ok v) (source' : Text) :
    roleValue source' name value = .ok v := by
  unfold roleValue at h ⊢
  split at h
  next t =>
    split at h
    next hlevel =>
      obtain ⟨w, hw, rfl⟩ := exists_of_map_eq_ok h
      simp only [if_pos hlevel, levelValue_of_eq_ok hw source']
      rfl
    next hlevel =>
      simp only [if_neg hlevel]
      exact h
  next hother =>
    exact h

/-- The options of a role do not depend on the operator of a condition. -/
theorem addRoleCondition_of_eqUpToOperator (hc : c.EqUpToOperator d)
    (h : addRoleCondition source o c = .ok o') (source' : Text) :
    addRoleCondition source' o d = .ok o' := by
  unfold addRoleCondition at h ⊢
  rw [hc.name, hc.value, hc.isCaseSensitive] at h
  split at h
  next hname =>
    rw [if_pos hname]
    exact h
  next hname =>
    obtain ⟨v, hv, rfl⟩ := exists_of_map_eq_ok h
    rw [if_neg hname, roleValue_of_eq_ok hv source']
    rfl

/-- The options of a role do not depend on operators. -/
theorem roleOptions_of_forall₂ (hcs : List.Forall₂ Condition.EqUpToOperator cs ds)
    (h : roleOptions source o cs = .ok o') (source' : Text) : roleOptions source' o ds = .ok o' := by
  induction hcs generalizing o with
  | nil => exact h
  | cons hc _ ih =>
    rw [roleOptions] at h ⊢
    split at h
    · cases h
    next hfirst =>
      rw [addRoleCondition_of_eqUpToOperator hc hfirst source']
      exact ih h

end

section

variable {base : Base} {inner : Chain → Except Error (List Call)} {engine t t' : Text}
  {s s' : AttributeSelector} {call : Call}

theorem rel_head?_of_forall₂ {α : Type} {r : α → α → Prop} {xs ys : List α}
    (h : List.Forall₂ r xs ys) : Option.Rel r xs.head? ys.head? := by
  cases h with
  | nil => exact .none
  | cons hd _ => exact .some hd

/-- A call by test id or by attribute depends on the first condition only, and not on its operator. -/
theorem specialCall?_of_head (hengine : engine ∈ [Engine.testId, Engine.attr])
    (hs : AttributeSelector.ofText true t = .ok s) (hs' : AttributeSelector.ofText true t' = .ok s')
    (hhead : Option.Rel Condition.EqUpToOperator s.conditions.head? s'.conditions.head?)
    (h : specialCall? inner base (.ofText engine t) = .ok (some call)) :
    specialCall? inner base (.ofText engine t') = .ok (some call) := by
  have hattributes : (Part.ofText engine t).attributes = .ok s := Part.attributes_ofText_eq_ok_iff.2 hs
  have hattributes' : (Part.ofText engine t').attributes = .ok s' :=
    Part.attributes_ofText_eq_ok_iff.2 hs'
  have hfirst : ∀ d ds, s.conditions = d :: ds →
      ∃ d' ds', s'.conditions = d' :: ds' ∧ d.EqUpToOperator d' := by
    intro d ds hds
    rw [hds] at hhead
    cases hds' : s'.conditions with
    | nil =>
      rw [hds'] at hhead
      cases hhead
    | cons d' ds' =>
      rw [hds'] at hhead
      cases hhead with
      | some hd => exact ⟨d', ds', rfl, hd⟩
  rcases List.mem_pair.1 hengine with rfl | rfl
  · rw [specialCall?_of_testId rfl] at h ⊢
    obtain ⟨u, d, ds, target, hu, hds, htarget, rfl⟩ := exists_of_testIdCall (eq_ok_of_map_some h)
    cases hattributes.symm.trans hu
    obtain ⟨d', ds', hds', hd⟩ := hfirst d ds hds
    rw [testIdCall, hattributes']
    simp only [hds', ← hd.value, htarget]
    rfl
  · rw [specialCall?_of_attr rfl] at h ⊢
    obtain ⟨u, d, ds, kind, target, hu, hds, hkind, htarget, rfl⟩ := exists_of_attributeCall? h
    cases hattributes.symm.trans hu
    obtain ⟨d', ds', hds', hd⟩ := hfirst d ds hds
    rw [attributeCall?, hattributes']
    simp only [hds', ← hd.name, ← hd.value, ← hd.isCaseSensitive, hkind, htarget]

/-- **A call does not depend on operators.** -/
theorem specialCall?_of_forall₂ (hengine : engine ∈ attributeEngines)
    (hs : AttributeSelector.ofText true t = .ok s) (hs' : AttributeSelector.ofText true t' = .ok s')
    (hname : s.name = s'.name)
    (hconditions : List.Forall₂ Condition.EqUpToOperator s.conditions s'.conditions)
    (h : specialCall? inner base (.ofText engine t) = .ok (some call)) :
    specialCall? inner base (.ofText engine t') = .ok (some call) := by
  rcases List.mem_cons.1 hengine with rfl | hengine
  · rw [specialCall?_of_role rfl] at h ⊢
    obtain ⟨u, options, hu, hoptions, rfl⟩ := exists_of_roleCall (eq_ok_of_map_some h)
    cases hs.symm.trans (Part.attributes_ofText_eq_ok_iff.1 hu)
    rw [roleCall_of_attributes (Part.attributes_ofText_eq_ok_iff.2 hs')
      (roleOptions_of_forall₂ hconditions hoptions _), hname]
    rfl
  · exact specialCall?_of_head hengine hs hs' (rel_head?_of_forall₂ hconditions) h

end

/-! ### Edits -/

section

variable {base : Base} {inner : Chain → Except Error (List Call)} {engine t t' : Text}
  {s : AttributeSelector} {call : Call} {d : Condition}

/-- A part with a call by test id or by attribute has a condition. -/
theorem exists_cons_of_specialCall? (hengine : engine ∈ [Engine.testId, Engine.attr])
    (h : specialCall? inner base (.ofText engine t) = .ok (some call)) :
    ∃ s d ds, AttributeSelector.ofText true t = .ok s ∧ s.conditions = d :: ds := by
  rcases List.mem_pair.1 hengine with rfl | rfl
  · rw [specialCall?_of_testId rfl] at h
    obtain ⟨s, d, ds, _, hs, hds, -⟩ := exists_of_testIdCall (eq_ok_of_map_some h)
    exact ⟨s, d, ds, Part.attributes_ofText_eq_ok_iff.1 hs, hds⟩
  · rw [specialCall?_of_attr rfl] at h
    obtain ⟨s, d, ds, _, _, hs, hds, -⟩ := exists_of_attributeCall? h
    exact ⟨s, d, ds, Part.attributes_ofText_eq_ok_iff.1 hs, hds⟩

theorem exists_ofText_of_specialCall? (hengine : engine ∈ attributeEngines)
    (h : specialCall? inner base (.ofText engine t) = .ok (some call)) :
    ∃ s, AttributeSelector.ofText true t = .ok s := by
  rcases List.mem_cons.1 hengine with rfl | hengine
  · rw [specialCall?_of_role rfl] at h
    obtain ⟨s, _, hs, -⟩ := exists_of_roleCall (eq_ok_of_map_some h)
    exact ⟨s, Part.attributes_ofText_eq_ok_iff.1 hs⟩
  · obtain ⟨s, _, _, hs, -⟩ := exists_cons_of_specialCall? hengine h
    exact ⟨s, hs⟩

/-- Another operator leaves the call as it is. -/
theorem specialCall?_of_replacesOperator {op : Comparison} (hengine : engine ∈ attributeEngines)
    (h : specialCall? inner base (.ofText engine t) = .ok (some call))
    (hedit : Attribute.ReplacesOperator op t t') :
    specialCall? inner base (.ofText engine t') = .ok (some call) := by
  obtain ⟨s, hs⟩ := exists_ofText_of_specialCall? hengine h
  obtain ⟨cs, path, x, caseSensitive, ds, hconditions, hs'⟩ :=
    AttributeSelector.exists_of_replacesOperator hedit hs
  have hrefl : ∀ cs : List Condition, List.Forall₂ Condition.EqUpToOperator cs cs :=
    fun _ => List.forall₂_same.2 fun c _ => .refl c
  refine specialCall?_of_forall₂ hengine hs hs' rfl ?_ h
  rw [hconditions]
  exact List.rel_append (hrefl cs) (.cons ⟨rfl, rfl, rfl⟩ (hrefl ds))

/-- One more condition leaves a call by test id or by attribute as it is. -/
theorem specialCall?_of_appendsCondition (hengine : engine ∈ [Engine.testId, Engine.attr])
    (h : specialCall? inner base (.ofText engine t) = .ok (some call))
    (hedit : Attribute.AppendsCondition d t t') :
    specialCall? inner base (.ofText engine t') = .ok (some call) := by
  obtain ⟨s, c, cs, hs, hconditions⟩ := exists_cons_of_specialCall? hengine h
  refine specialCall?_of_head hengine hs (AttributeSelector.ofText_of_appendsCondition hedit hs) ?_ h
  rw [hconditions]
  exact .some (.refl c)

/-- One more condition on a call by role. -/
theorem specialCall?_role_appendsCondition
    (h : specialCall? inner base (.ofText Engine.role t) = .ok (some call))
    (hedit : Attribute.AppendsCondition d t t')
    (hnew : ∀ s, AttributeSelector.ofText true t = .ok s → d.name ∉ s.conditions.map Condition.name)
    (l : Language) :
    (∃ call', specialCall? inner base (.ofText Engine.role t') = .ok (some call') ∧
        call'.code l = call.code l) ↔
      d.name = "name".toList ∧ Value.target? d.test.value? = none := by
  rw [specialCall?_of_role rfl] at h ⊢
  obtain ⟨s, options, hattributes, hoptions, rfl⟩ := exists_of_roleCall (eq_ok_of_map_some h)
  have hs := Part.attributes_ofText_eq_ok_iff.1 hattributes
  have hattributes' : (Part.ofText Engine.role t').attributes = .ok ⟨s.name, s.conditions ++ [d]⟩ :=
    Part.attributes_ofText_eq_ok_iff.2 (AttributeSelector.ofText_of_appendsCondition hedit hs)
  have hname : d.name = "name".toList → options.name = none := by
    intro hd
    refine name_of_roleOptions (fun c hc hcname => hnew s hs ?_) hoptions
    rw [hd, ← hcname]
    exact List.mem_map_of_mem hc
  -- the options of the conditions that were there, and the new condition behind them
  have happend : roleOptions t' .empty (s.conditions ++ [d]) = addRoleCondition t' options d := by
    rw [roleOptions_append, roleOptions_of_forall₂ (List.forall₂_same.2 fun c _ => .refl c) hoptions t']
    show roleOptions t' options [d] = _
    rw [roleOptions]
    cases addRoleCondition t' options d <;> rfl
  constructor
  · rintro ⟨call', hcall', hcode⟩
    obtain ⟨s', options', hs', hoptions', rfl⟩ := exists_of_roleCall (eq_ok_of_map_some hcall')
    cases hattributes'.symm.trans hs'
    exact (code_role_eq_iff l hname (happend.symm.trans hoptions')).1 hcode
  · rintro ⟨hd, htarget⟩
    have hadd : addRoleCondition t' options d =
        .ok { options with exact := some d.test.isCaseSensitive, name := d.test.value? } := by
      rw [addRoleCondition, if_pos hd]
    refine ⟨_, ?_, (code_role_eq_iff l hname hadd).2 ⟨hd, htarget⟩⟩
    rw [roleCall_of_attributes hattributes' (happend.trans hadd)]
    rfl

/-- **Which edits leave the code of a call as it is.** Take a part with a role, a test id or an attribute that has a call
of its own. Another operator in front of a quoted value leaves that call as it is. One more condition, on a name that the
part does not have yet, leaves its code as it is if the part has a test id or an attribute; if it has a role, exactly if
the condition is on the name and compares it with neither a text nor a pattern. -/
theorem code_eq_of_edit_iff (hengine : engine ∈ attributeEngines)
    (h : specialCall? inner base (.ofText engine t) = .ok (some call)) :
    (∀ op t', Attribute.ReplacesOperator op t t' →
      specialCall? inner base (.ofText engine t') = .ok (some call)) ∧
    ∀ d t', Attribute.AppendsCondition d t t' →
      (∀ s, AttributeSelector.ofText true t = .ok s → d.name ∉ s.conditions.map Condition.name) →
      ∀ l : Language,
        (∃ call', specialCall? inner base (.ofText engine t') = .ok (some call') ∧
            call'.code l = call.code l) ↔
          (engine = Engine.role →
            d.name = "name".toList ∧ Value.target? d.test.value? = none) := by
  refine ⟨fun op t' hedit => specialCall?_of_replacesOperator hengine h hedit,
    fun d t' hedit hnew l => ?_⟩
  rcases List.mem_cons.1 hengine with rfl | hengine
  · rw [specialCall?_role_appendsCondition h hedit hnew l]
    exact ⟨fun hd _ => hd, fun hd => hd rfl⟩
  · have hne : engine ≠ Engine.role := by
      rcases List.mem_pair.1 hengine with rfl | rfl <;> decide
    exact iff_of_true ⟨call, specialCall?_of_appendsCondition hengine h hedit, rfl⟩
      fun hrole => absurd hrole hne

/-- The call of a button that is pressed in part. -/
def mixedButton : Call :=
  .simple .page .role (.text "button".toList)
    ⟨none, none, [("pressed".toList, some (.text "mixed".toList))]⟩

/-- A button with another operator, with a name that is only asked to be there, and with a level. -/
theorem code_eq_of_edit_mixedButton :
    (Engine.role ∈ attributeEngines ∧
      specialCall? (fun c => calls .locator c.parts) .page
        (.ofText Engine.role "button[pressed=\"mixed\"]".toList) = .ok (some mixedButton)) ∧
    specialCall? (fun c => calls .locator c.parts) .page
      (.ofText Engine.role "button[pressed*=\"mixed\"]".toList) = .ok (some mixedButton) ∧
    ∀ l : Language,
      (∃ call, specialCall? (fun c => calls .locator c.parts) .page
          (.ofText Engine.role "button[pressed=\"mixed\"][name]".toList) = .ok (some call) ∧
        call.code l = mixedButton.code l) ∧
      ¬ ∃ call, specialCall? (fun c => calls .locator c.parts) .page
          (.ofText Engine.role "button[pressed=\"mixed\"][level=2]".toList) = .ok (some call) ∧
        call.code l = mixedButton.code l := by
  have hread : AttributeSelector.ofText true "button[pressed=\"mixed\"]".toList =
      .ok ⟨"button".toList, [⟨["pressed".toList], .compare .equals (.text "mixed".toList) true⟩]⟩ := by
    decide +kernel
  have hcall : specialCall? (fun c => calls .locator c.parts) .page
      (.ofText Engine.role "button[pressed=\"mixed\"]".toList) = .ok (some mixedButton) := by
    rw [specialCall?_of_role rfl, roleCall_of_attributes (Part.attributes_ofText_eq_ok_iff.2 hread) rfl]
    rfl
  have hoperator : Attribute.ReplacesOperator .contains "button[pressed=\"mixed\"]".toList
      "button[pressed*=\"mixed\"]".toList :=
    @Attribute.ReplacesOperator.intro .contains "button".toList "pressed".toList "\"mixed\"]".toList []
      ["pressed".toList] (by decide +kernel) (by decide +kernel) ⟨_, _, Or.inl rfl, rfl⟩
  have hname : Attribute.AppendsCondition ⟨["name".toList], .truthy⟩ "button[pressed=\"mixed\"]".toList
      "button[pressed=\"mixed\"][name]".toList :=
    @Attribute.AppendsCondition.intro _ "button[pressed=\"mixed\"]".toList "name]".toList
      (by decide +kernel)
  have hlevel : Attribute.AppendsCondition ⟨["level".toList], .compare .equals (.text "2".toList) true⟩
      "button[pressed=\"mixed\"]".toList "button[pressed=\"mixed\"][level=2]".toList :=
    @Attribute.AppendsCondition.intro _ "button[pressed=\"mixed\"]".toList "level=2]".toList
      (by decide +kernel)
  have hnew : ∀ d : Condition, d.name ≠ "pressed".toList → ∀ s,
      AttributeSelector.ofText true "button[pressed=\"mixed\"]".toList = .ok s →
      d.name ∉ s.conditions.map Condition.name := by
    intro d hd s hs
    cases hread.symm.trans hs
    exact fun hmem => hd (List.mem_singleton.1 hmem)
  obtain ⟨hsame, hiff⟩ := code_eq_of_edit_iff (by decide) hcall
  refine ⟨⟨by decide, hcall⟩, hsame _ _ hoperator, fun l => ⟨?_, fun hlonger => ?_⟩⟩
  · exact (hiff _ _ hname (hnew _ (by decide)) l).2 fun _ => ⟨by decide, rfl⟩
  · have hshown := (hiff _ _ hlevel (hnew _ (by decide)) l).1 hlonger rfl
    exact absurd hshown.1 (by decide)

/-- Not every edit shows: another operator in front of a test id does not. -/
theorem not_code_ne_of_edit :
    ¬ ∀ engine ∈ attributeEngines, ∀ (inner : Chain → Except Error (List Call)) (base : Base) (t : Text)
      (call : Call), specialCall? inner base (.ofText engine t) = .ok (some call) →
      ∀ t' : Text,
        ((∃ op ≠ Comparison.equals, Attribute.ReplacesOperator op t t') ∨
          ∃ d, Attribute.AppendsCondition d t t' ∧ ∀ s, AttributeSelector.ofText true t = .ok s →
            d.name ∉ s.conditions.map Condition.name) →
        ∀ (l : Language) (call' : Call),
          specialCall? inner base (.ofText engine t') = .ok (some call') → call'.code l ≠ call.code l := by
  intro hshows
  have hread : AttributeSelector.ofText true "[data-testid=\"a\"]".toList =
      .ok ⟨[], [⟨["data-testid".toList], .compare .equals (.text "a".toList) true⟩]⟩ := by
    decide +kernel
  have hcall : specialCall? (fun c => calls .locator c.parts) .page
      (.ofText Engine.testId "[data-testid=\"a\"]".toList) =
        .ok (some (.simple .page .testId (.text "a".toList) .empty)) := by
    rw [specialCall?_of_testId rfl, testIdCall, Part.attributes_ofText_eq_ok_iff.2 hread]
    rfl
  have hoperator : Attribute.ReplacesOperator .contains "[data-testid=\"a\"]".toList
      "[data-testid*=\"a\"]".toList :=
    @Attribute.ReplacesOperator.intro .contains [] "data-testid".toList "\"a\"]".toList []
      ["data-testid".toList] (by decide +kernel) (by decide +kernel) ⟨_, _, Or.inl rfl, rfl⟩
  exact hshows _ (by decide) _ _ _ _ hcall _ (Or.inl ⟨.contains, by decide, hoperator⟩) .javascript _
    (specialCall?_of_replacesOperator (by decide) hcall hoperator) rfl

end

end SelectorCode
