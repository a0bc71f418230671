import SelectorCode.Proofs.Locator.Subexpression
import SelectorCode.Proofs.Number.Decimal
import SelectorCode.Proofs.Text.Literal

/-!
# Values of role attributes

A locator by role has one attribute for each condition of its part but those on the name, and every attribute is written
with a value. The value is a literal of the language if the condition compares the attribute with something: a text is
quoted, a level is a decimal number, a truth value is a keyword and a pattern is a regular expression. If the condition
only asks for the attribute to be there, it has no value, and `None` is written, which is a literal of Python only.

## Main Definitions

* `Language.IsLiteral`: the literals of JavaScript, Java and C#.
* `Part.WritesRole`: how the code of a call by role shows the conditions of its part.
* `WritesRoles`: how the code of a selector shows its parts with a role, at every depth.

## Main Statements

* `isLiteral_value_iff_of_roleValue`: a value is written as a literal if and only if its condition compares it.
* `exists_role_of_part`: every part with a role has a call by role.
* `isLiteral_roleAttribute_iff`: the values of all role attributes in the code of a selector.
-/

namespace SelectorCode

open Locator (Error)

/-! ### Literals -/

/-- The literals that JavaScript, Java and C# have for values: strings, which go up to the first delimiter that is not
escaped, decimal numbers, truth values and regular expressions. -/
inductive Language.IsLiteral (l : Language) : Text → Prop
  | string {body : Text} (isSealed : Text.IsSealed l.delimiter.char body)
      (printable : ∀ c ∈ body, 0x20 ≤ c.toNat) :
      IsLiteral l (l.delimiter.char :: body ++ [l.delimiter.char])
  | number {t : Text} (isDecimal : t.IsDecimal) : IsLiteral l t
  | truth {t : Text} (mem : t ∈ ["true".toList, "false".toList]) : IsLiteral l t
  | pattern (p : Pattern) : IsLiteral l (l.pattern p)

section

variable {l : Language} {t source name : Text} {v : Option Value} {test : Test}

theorem Language.isLiteral_quote (l : Language) (t : Text) : l.IsLiteral (l.quote t) := by
  refine .string (Text.isSealed_flatMap_escapeChar l.delimiter t) fun c hc => ?_
  obtain ⟨e, -, he⟩ := List.mem_flatMap.1 hc
  exact Text.le_toNat_of_mem_escapeChar he

theorem Language.isLiteral_bool (hl : l ≠ .python) (b : Bool) : l.IsLiteral (l.bool b) := by
  have hbool : ∀ b, l.bool b ∈ ["true".toList, "false".toList] := by
    revert hl
    cases l <;> decide
  exact .truth (hbool b)

/-- No literal begins with a capital `N`. -/
theorem Language.IsLiteral.exists_head (hl : l ≠ .python) (h : l.IsLiteral t) :
    ∃ c, t.head? = some c ∧ c ≠ 'N' := by
  cases h with
  | string => exact ⟨l.delimiter.char, rfl, by cases l <;> decide⟩
  | number hdecimal =>
    obtain ⟨c, hc, hcases⟩ := hdecimal.exists_head
    refine ⟨c, hc, ?_⟩
    rintro rfl
    revert hcases
    decide
  | truth hmem =>
    have hall : ∀ t ∈ ["true".toList, "false".toList], ∃ c, t.head? = some c ∧ c ≠ 'N' := by
      intro t ht
      rcases List.mem_pair.1 ht with rfl | rfl
      · exact ⟨'t', rfl, by decide⟩
      · exact ⟨'f', rfl, by decide⟩
    exact hall t hmem
  | pattern p =>
    cases l with
    | python => exact absurd rfl hl
    | javascript => exact ⟨'/', rfl, by decide⟩
    | java => exact ⟨'P', rfl, by decide⟩
    | csharp => exact ⟨'n', rfl, by decide⟩

theorem Language.not_isLiteral_none (hl : l ≠ .python) : ¬ l.IsLiteral "None".toList := by
  intro h
  obtain ⟨c, hc, hne⟩ := h.exists_head hl
  cases hc
  exact hne rfl

/-! ### Values -/

theorem isLiteral_value_of_levelValue {value : Value} (h : levelValue source t = .ok value) :
    l.IsLiteral (l.value (some value)) := by
  obtain ⟨n, hn, rfl, -, hfinite⟩ := exists_number_of_levelValue h
  exact .number (Number.isDecimal_text_of_numeral? hn hfinite)

/-- **The value of a role attribute** is written as a literal if and only if its condition compares the attribute with
something; otherwise it is written as `None`. -/
theorem isLiteral_value_iff_of_roleValue (hl : l ≠ .python) (htest : test.IsLegible)
    (h : roleValue source name test.value? = .ok v) :
    (l.IsLiteral (l.value v) ↔ test ≠ .truthy) ∧ (test = .truthy → l.value v = "None".toList) := by
  -- a condition that compares has a value, and it is enough that this is a literal
  have hcompare : test ≠ .truthy → l.IsLiteral (l.value v) →
      (l.IsLiteral (l.value v) ↔ test ≠ .truthy) ∧ (test = .truthy → l.value v = "None".toList) :=
    fun hne hliteral => ⟨iff_of_true hliteral hne, fun heq => absurd heq hne⟩
  cases htest with
  | truthy =>
    cases h
    exact ⟨iff_of_false (Language.not_isLiteral_none hl) (not_not_intro rfl), fun _ => rfl⟩
  | text op t caseSensitive =>
    refine hcompare Test.noConfusion ?_
    simp only [roleValue, Test.value?] at h
    split at h
    · obtain ⟨value, hvalue, rfl⟩ := exists_of_map_eq_ok h
      exact isLiteral_value_of_levelValue hvalue
    · cases h
      exact l.isLiteral_quote t
  | bool b =>
    cases h
    exact hcompare Test.noConfusion (Language.isLiteral_bool hl b)
  | pattern p =>
    cases h
    exact hcompare Test.noConfusion (.pattern p)

end

/-! ### Calls by role -/

/-- How the code of a call by role shows the conditions of its part: by one argument for each condition but those on the
name, in their order, with the name of the attribute and a value that satisfies `P`. -/
inductive Part.WritesRole (l : Language) (P : Condition → Text → Prop) (p : Part) : Call → Prop
  | intro {base : Base} {s : AttributeSelector} {options : Options}
      (attributes : p.attributes = .ok s)
      (values : List.Forall₂ (fun c a => a.1 = roleAttributeName c.name ∧ P c (l.value a.2))
        (roleConditions s.conditions) options.attributes)
      (code : (Call.simple base .role (.text s.name) options).code l =
        l.call Kind.role.method (l.role s.name :: l.optionList base Kind.role.method
          (nameSettings l options ++
            options.attributes.map fun a => l.setting a.1 (l.value a.2)))) :
      WritesRole l P p (.simple base .role (.text s.name) options)

/-- How the code of a selector shows the parts with a role in it, at every depth: each has its call, in the expression
of the chain that it is in. -/
def WritesRoles (l : Language) (P : Condition → Text → Prop) (inFrame : Bool) (s t : Text) : Prop :=
  ∃ chain cs, Chain.ofText s = .ok chain ∧ chain.calls inFrame = .ok cs ∧ t = code l cs ∧
    ∀ x, chain.CombinedIn x → ∀ p ∈ x.parts, p.name = Engine.role →
      ∃ b ds, Subexpression (startBase inFrame) cs b ds ∧ ∃ c ∈ ds, p.WritesRole l P c

section

variable {l : Language} {base : Base} {p : Part} {ps : List Part} {call : Call} {cs : List Call}
  {inner : Chain → Except Error (List Call)}

/-- The engine of roles has no other call. -/
theorem specialCall?_of_role (h : p.name = Engine.role) :
    specialCall? inner base p = (roleCall base p).map some := by
  rw [specialCall?, Part.isNth, h]
  rfl

/-- Every part with a role has a call by role. -/
theorem exists_role_of_part (h : calls base ps = .ok cs) (hp : p ∈ ps)
    (hname : p.name = Engine.role) : ∃ b, ∃ call ∈ cs, roleCall b p = .ok call := by
  have hmarker : p.isEnterFrame = false := by
    rw [Part.isEnterFrame, hname]
    rfl
  rw [calls_eq] at h
  exact exists_special_of_walk h ((framesFirst_perm ps).mem_iff.2 hp)
    (fun base => specialCall?_of_role hname) hmarker

theorem writesRole_of_roleCall (hl : l ≠ .python) (h : roleCall base p = .ok call) :
    p.WritesRole l (fun c v => (l.IsLiteral v ↔ c.test ≠ .truthy) ∧
      (c.test = .truthy → v = "None".toList)) call := by
  obtain ⟨s, options, hs, hoptions, rfl⟩ := exists_of_roleCall h
  obtain ⟨added, hadded, heq⟩ := exists_attributes_of_roleOptions hoptions
  have hlegible : ∀ c ∈ roleConditions s.conditions, c.test.IsLegible := fun c hc =>
    ((Part.isLegible_of_attributes hs).conditions c (List.mem_of_mem_filter hc)).test
  have hattributes : options.attributes = added := heq
  refine .intro hs ?_ rfl
  rw [hattributes]
  refine ((List.forall₂_and_left _ _).2 ⟨hlegible, hadded⟩).imp ?_
  rintro c a ⟨htest, hpassed⟩
  exact ⟨hpassed.name, isLiteral_value_iff_of_roleValue hl htest hpassed.value⟩

end

/-- **Values of role attributes**, at every depth. In the JavaScript, Java and C# code of a selector, each role
attribute but the name has a literal for its value if and only if its condition compares it with something. Otherwise
`None` is written, which is no literal. -/
theorem isLiteral_roleAttribute_iff {l : Language} (hl : l ≠ .python) {inFrame : Bool} {s t : Text}
    (h : asLocator l inFrame s = .ok t) :
    WritesRoles l (fun c v => (l.IsLiteral v ↔ c.test ≠ .truthy) ∧
      (c.test = .truthy → v = "None".toList)) inFrame s t := by
  obtain ⟨cs, hcs, rfl⟩ := exists_of_map_eq_ok h
  unfold selectorCalls at hcs
  split at hcs
  · cases hcs
  next chain hread =>
    refine ⟨chain, cs, hread, hcs, rfl, fun x hx p hp hname => ?_⟩
    obtain ⟨b, ds, hsub, hcalls⟩ := exists_subexpression_of_combinedIn hcs hx
    obtain ⟨r, call, hmem, hcall⟩ := exists_role_of_part hcalls hp hname
    exact ⟨b, ds, hsub, call, hmem, writesRole_of_roleCall hl hcall⟩

/-- The calls of a selector that is one part with a role. -/
theorem selectorCalls_of_role {inFrame : Bool} {s body : Text} {selector : AttributeSelector}
    {options : Options} (hread : Chain.ofText s = .ok ⟨[.ofText Engine.role body], none⟩)
    (hselector : AttributeSelector.ofText true body = .ok selector)
    (hoptions : roleOptions body .empty selector.conditions = .ok options) :
    selectorCalls inFrame s =
      .ok [.simple (startBase inFrame) .role (.text selector.name) options] := by
  have hcall : roleCall (startBase inFrame) (.ofText Engine.role body) =
      .ok (.simple (startBase inFrame) .role (.text selector.name) options) :=
    roleCall_of_attributes (Part.attributes_ofText_eq_ok_iff.2 hselector) hoptions
  rw [selectorCalls, hread]
  show calls (startBase inFrame) [_] = _
  rw [calls_eq]
  show walk _ _ [_] = _
  rw [walk, specialCall?_of_role rfl, hcall]
  rfl

/-- An attribute that is compared with a truth value. -/
theorem isLiteral_roleAttribute_pressed :
    ∃ t : Text, t = "getByRole('button', \x7b pressed: true \x7d)".toList ∧
      asLocator .javascript false "internal:role=button[pressed=true]".toList = .ok t ∧
      WritesRoles .javascript (fun c v => (Language.javascript.IsLiteral v ↔ c.test ≠ .truthy) ∧
        (c.test = .truthy → v = "None".toList)) false
        "internal:role=button[pressed=true]".toList t := by
  have hselector : AttributeSelector.ofText true "button[pressed=true]".toList =
      .ok ⟨"button".toList, [⟨["pressed".toList], .compare .equals (.bool true) true⟩]⟩ :=
    eq_ok_of_toOption_eq_some (by decide +kernel)
  have hcalls : selectorCalls false "internal:role=button[pressed=true]".toList = .ok [_] :=
    selectorCalls_of_role (eq_ok_of_toOption_eq_some (by decide +kernel)) hselector rfl
  have hcode : asLocator .javascript false "internal:role=button[pressed=true]".toList =
      .ok "getByRole('button', \x7b pressed: true \x7d)".toList := by
    rw [asLocator, hcalls]
    rfl
  exact ⟨_, rfl, hcode, isLiteral_roleAttribute_iff (by decide) hcode⟩

/-- Not every role attribute has a literal for its value: one that only has to be there is written with `None`. -/
theorem not_isLiteral_roleAttribute :
    ¬ ∀ l ≠ Language.python, ∀ (inFrame : Bool) (s t : Text), asLocator l inFrame s = .ok t →
      WritesRoles l (fun _ v => l.IsLiteral v) inFrame s t := by
  intro h
  have hselector : AttributeSelector.ofText true "button[pressed]".toList =
      .ok ⟨"button".toList, [⟨["pressed".toList], .truthy⟩]⟩ :=
    eq_ok_of_toOption_eq_some (by decide +kernel)
  have hread : Chain.ofText "internal:role=button[pressed]".toList =
      .ok ⟨[.ofText Engine.role "button[pressed]".toList], none⟩ :=
    eq_ok_of_toOption_eq_some (by decide +kernel)
  have hcalls : selectorCalls false "internal:role=button[pressed]".toList = .ok [_] :=
    selectorCalls_of_role hread hselector rfl
  obtain ⟨chain, cs, hchain, hcs, -, hroles⟩ := h .javascript (by decide) false
    "internal:role=button[pressed]".toList _ (by rw [asLocator, hcalls]; rfl)
  cases hread.symm.trans hchain
  rw [selectorCalls, hread] at hcalls
  cases hcalls.symm.trans hcs
  obtain ⟨b, ds, hsub, c, hc, hwrites⟩ := hroles _ .refl _ List.mem_cons_self rfl
  rw [hsub.eq_of_not_combined (by simp), List.mem_singleton] at hc
  cases hwrites with
  | intro _ hvalues _ =>
    obtain ⟨-, -, -, rfl⟩ := (Call.simple.injEq ..).mp hc
    obtain ⟨d, -, ⟨-, hliteral⟩, -⟩ := List.forall₂_cons_right_iff.1 hvalues
    exact Language.not_isLiteral_none (by decide) hliteral

end SelectorCode
