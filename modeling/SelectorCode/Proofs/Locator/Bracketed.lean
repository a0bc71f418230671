import SelectorCode.Proofs.Locator.Subexpression
import SelectorCode.Proofs.Text.Bracketed

/-!
# Brackets in code

In Java and in C#, the code of a selector is well bracketed: every text in it stands in a literal, and every argument
stands in brackets of its own. Only three things are written as they are in the selector: indices, roles and the names
of the attributes of roles. When these are plain at every depth, calls are balanced, and so is the code of a selector
that they make up.

## Main Definitions

* `Language.IsBraced`: Java and C#.
* `Part.IsPlain`: parts whose index, role and attributes are plain.

## Main Statements

* `isBalanced_call`, `isBalanced_options`: calls and optional arguments are balanced when their arguments are.
* `isBalanced_render`: so is a call, whatever its kind and its options.
* `isBalanced_of_makes`: the call of a plain part is balanced.
* `isWellBracketed_of_asLocator`: the code of a selector with plain parts is well bracketed.
-/

namespace SelectorCode

open Locator (Error)
open Text (IsBalanced IsPlain IsPlainName Opens Closes)

/-- The languages with options classes or initializers, and double quotation marks. -/
def Language.IsBraced (l : Language) : Prop :=
  l = .java ∨ l = .csharp

variable {l : Language} {base : Base} {kind : Kind} {key value : Text} {settings : List Text}

/-! ### Literals -/

theorem isBalanced_caseFlag (p : Pattern) {flag : Text} (hflag : flag.IsPlain) :
    IsBalanced (Language.caseFlag p flag) := by
  have hcomma : IsBalanced ", ".toList := IsPlain.isBalanced (by decide)
  unfold Language.caseFlag
  split
  · exact hcomma.append hflag.isBalanced
  · exact IsBalanced.nil

theorem isPlainName_targetKey (hkey : key.IsPlainName) (isPattern : Bool) :
    IsPlainName (l.targetKey key isPattern) := by
  have hregex : IsPlainName "Regex".toList := by decide
  unfold Language.targetKey
  split
  · exact List.forall_mem_append.2 ⟨hkey, hregex⟩
  · exact hkey

section

variable (hl : l.IsBraced)

include hl

theorem isBalanced_quote (t : Text) : IsBalanced (l.quote t) := by
  rcases hl with rfl | rfl <;> exact Text.isBalanced_literal t

theorem isBalanced_bool (b : Bool) : IsBalanced (l.bool b) := by
  rcases hl with rfl | rfl <;> cases b <;> exact IsPlain.isBalanced (by decide)

/-- The source of a pattern stands in a literal. -/
theorem isBalanced_pattern (p : Pattern) : IsBalanced (l.pattern p) := by
  have hquote := isBalanced_quote hl p.source
  rcases hl with rfl | rfl
  · have hopen : Opens .round "Pattern.compile(".toList := fun pending => rfl
    have hflag : IsBalanced (Language.caseFlag p "Pattern.CASE_INSENSITIVE".toList) :=
      isBalanced_caseFlag p (by decide)
    exact ((hopen.append hquote).append hflag).close fun pending => rfl
  · have hopen : Opens .round "new Regex(".toList := fun pending => rfl
    have hflag : IsBalanced (Language.caseFlag p "RegexOptions.IgnoreCase".toList) :=
      isBalanced_caseFlag p (by decide)
    exact ((hopen.append hquote).append hflag).close fun pending => rfl

theorem isBalanced_value (v : Option Value) : IsBalanced (l.value v) := by
  match v with
  | none =>
    have hnone : IsBalanced "None".toList := IsPlain.isBalanced (by decide)
    exact hnone
  | some (.text t) => exact isBalanced_quote hl t
  | some (.bool b) => exact isBalanced_bool hl b
  | some (.number n) => exact n.isPlain_text.isBalanced
  | some (.pattern p) => exact isBalanced_pattern hl p

theorem isBalanced_target (t : Target) : IsBalanced (l.target t) := by
  cases t with
  | text t => exact isBalanced_quote hl t
  | pattern p => exact isBalanced_pattern hl p

/-! ### Calls and optional arguments -/

theorem isBalanced_method (kind : Kind) : IsBalanced (l.method kind.method) := by
  rcases hl with rfl | rfl <;> cases kind <;> exact IsPlain.isBalanced (by decide)

/-- A call is balanced when its arguments are. -/
theorem isBalanced_call {arguments : List Text} (h : ∀ a ∈ arguments, IsBalanced a) :
    IsBalanced (l.call kind.method arguments) := by
  have hopen : Opens .round ['('] := fun pending => rfl
  have hjoined : IsBalanced (List.intercalate ", ".toList arguments) :=
    IsBalanced.intercalate (IsPlain.isBalanced (by decide)) h
  exact ((isBalanced_method hl kind).opens (hopen.append hjoined)).close fun pending => rfl

theorem isBalanced_call_singleton {argument : Text} (h : argument.IsBalanced) :
    IsBalanced (l.call kind.method [argument]) := by
  refine isBalanced_call hl fun a ha => ?_
  rw [List.mem_singleton.1 ha]
  exact h

theorem isBalanced_property : IsBalanced (l.property kind.method) := by
  rcases id hl with rfl | rfl
  · refine isBalanced_call hl fun a ha => ?_
    cases ha
  · exact isBalanced_method hl kind

/-- An optional argument is balanced when its name is plain and its value is balanced. -/
theorem isBalanced_setting (hkey : key.IsPlainName) (hvalue : value.IsBalanced) :
    IsBalanced (l.setting key value) := by
  have hname : IsBalanced (Text.titleCase key) := hkey.titleCase.isPlain.isBalanced
  rcases hl with rfl | rfl
  · have hset : IsBalanced ".set".toList := IsPlain.isBalanced (by decide)
    have hopen : Opens .round ['('] := fun pending => rfl
    exact ((hset.append hname).opens (hopen.append hvalue)).close fun pending => rfl
  · have hequals : IsBalanced " = ".toList := IsPlain.isBalanced (by decide)
    exact (hname.append hequals).append hvalue

/-- Optional arguments are balanced together when each of them is. -/
theorem isBalanced_options (h : ∀ s ∈ settings, IsBalanced s) :
    IsBalanced (l.options base kind.method settings) := by
  rcases hl with rfl | rfl
  · have hnew : IsBalanced "new ".toList := IsPlain.isBalanced (by decide)
    have hclass : IsBalanced (Language.receiverClass base) := by
      cases base <;> exact IsPlain.isBalanced (by decide)
    have hmethod : IsBalanced ('.' :: Text.titleCase kind.method) := by
      cases kind <;> exact IsPlain.isBalanced (by decide)
    have hoptions : IsBalanced "Options()".toList := fun pending => rfl
    exact (((hnew.append hclass).append hmethod).append hoptions).append (IsBalanced.flatten h)
  · have hopen : Opens .curly "new() \x7b ".toList := fun pending => rfl
    have hjoined : IsBalanced (List.intercalate ", ".toList settings) :=
      IsBalanced.intercalate (IsPlain.isBalanced (by decide)) h
    exact (hopen.append hjoined).close fun pending => rfl

/-- A call with one argument and perhaps optional ones. -/
theorem isBalanced_call_optionList {argument : Text} (hargument : argument.IsBalanced)
    (h : ∀ s ∈ settings, IsBalanced s) :
    IsBalanced (l.call kind.method (argument :: l.optionList base kind.method settings)) := by
  refine isBalanced_call hl fun a ha => ?_
  rcases List.mem_cons.1 ha with rfl | hoptions
  · exact hargument
  · unfold Language.optionList at hoptions
    split at hoptions
    · cases hoptions
    · rw [List.mem_singleton.1 hoptions]
      exact isBalanced_options hl h

/-! ### Kinds of call -/

theorem isBalanced_renderMatch (target : Target) (exact : Bool) :
    IsBalanced (renderMatch l base kind target exact) := by
  cases target with
  | pattern p => exact isBalanced_call_singleton hl (isBalanced_pattern hl p)
  | text t =>
    refine isBalanced_call_optionList hl (isBalanced_quote hl t) fun s hs => ?_
    split at hs
    · rw [List.mem_singleton.1 hs]
      exact isBalanced_setting hl (by decide) (isBalanced_bool hl true)
    · cases hs

theorem isBalanced_renderFilter (hkey : key.IsPlainName) (hvalue : value.IsBalanced) :
    IsBalanced (renderFilter l base kind key value) := by
  refine isBalanced_call_singleton hl (isBalanced_options hl fun s hs => ?_)
  rw [List.mem_singleton.1 hs]
  exact isBalanced_setting hl hkey hvalue

theorem isBalanced_role {role : Text} (h : role.IsPlainName) : IsBalanced (l.role role) := by
  have hclass : IsBalanced "AriaRole.".toList := IsPlain.isBalanced (by decide)
  rcases hl with rfl | rfl
  · exact hclass.append h.snakeCase.upper.isPlain.isBalanced
  · exact hclass.append h.titleCase.isPlain.isBalanced

/-- The optional arguments of a role are balanced when the names of its attributes are plain. -/
theorem isBalanced_of_mem_roleSettings {options : Options}
    (h : ∀ a ∈ options.attributes, IsPlainName a.1) :
    ∀ s ∈ roleSettings l options, IsBalanced s := by
  intro s hs
  rcases List.mem_append.1 hs with hname | hattribute
  · unfold nameSettings at hname
    split at hname
    · rw [List.mem_singleton.1 hname]
      exact isBalanced_setting hl (isPlainName_targetKey (by decide) true)
        (isBalanced_pattern hl _)
    · rcases List.mem_cons.1 hname with rfl | hexact
      · exact isBalanced_setting hl (by decide) (isBalanced_quote hl _)
      · split at hexact
        · rw [List.mem_singleton.1 hexact]
          exact isBalanced_setting hl (by decide) (isBalanced_bool hl true)
        · cases hexact
    · cases hname
  · obtain ⟨a, ha, rfl⟩ := List.mem_map.1 hattribute
    exact isBalanced_setting hl (h a ha) (isBalanced_value hl a.2)

/-- The kinds of call with an argument that is neither a literal nor a pattern. -/
def Kind.bare : List Kind := [.nth, .role, .has, .or, .and, .not]

/-- All other calls are balanced, whatever they look for and whatever their options are. -/
theorem isBalanced_render (hkind : kind ∉ Kind.bare) (target : Target) (options : Options) :
    IsBalanced (render l base kind target options) := by
  cases kind with
  | default => exact isBalanced_call_singleton hl (isBalanced_quote hl _)
  | frame => exact isBalanced_call_singleton hl (isBalanced_quote hl _)
  | first => exact isBalanced_property hl
  | last => exact isBalanced_property hl
  | hasText =>
    exact isBalanced_renderFilter hl (isPlainName_targetKey (by decide) _) (isBalanced_target hl _)
  | testId => exact isBalanced_call_singleton hl (isBalanced_target hl _)
  | text => exact isBalanced_renderMatch hl _ _
  | alt => exact isBalanced_renderMatch hl _ _
  | placeholder => exact isBalanced_renderMatch hl _ _
  | label => exact isBalanced_renderMatch hl _ _
  | title => exact isBalanced_renderMatch hl _ _
  | _ => exact absurd (by decide) hkind

theorem isBalanced_render_nth {t : Text} (h : t.IsPlain) (options : Options) :
    IsBalanced (render l base .nth (.text t) options) :=
  isBalanced_call_singleton hl h.isBalanced

theorem isBalanced_render_role {t : Text} {options : Options} (ht : t.IsPlainName)
    (h : ∀ a ∈ options.attributes, IsPlainName a.1) :
    IsBalanced (render l base .role (.text t) options) :=
  isBalanced_call_optionList hl (isBalanced_role hl ht) (isBalanced_of_mem_roleSettings hl h)

/-- A combination is balanced when the code that it holds is. -/
theorem isBalanced_render_combination (combination : Combination) {t : Text} (h : t.IsBalanced) :
    IsBalanced (render l base combination.kind (.text t) .empty) := by
  cases combination with
  | has => exact isBalanced_renderFilter hl (by decide) h
  | or => exact isBalanced_call_singleton hl h
  | and => exact isBalanced_call_singleton hl h
  | not => exact isBalanced_call_singleton hl h

end

/-- Calls that are balanced one by one are balanced together. -/
theorem isBalanced_code {cs : List Call} (h : ∀ c ∈ cs, IsBalanced (c.code l)) :
    IsBalanced (code l cs) := by
  have hpoint : IsBalanced ['.'] := IsPlain.isBalanced (by decide)
  rw [code, joinCalls, codes_eq_map]
  refine IsBalanced.intercalate hpoint fun t ht => ?_
  obtain ⟨c, hc, rfl⟩ := List.mem_map.1 ht
  exact h c hc

/-! ### Plain parts -/

/-- The parts whose index is a sign, if any, and ASCII digits, and whose role and attributes have plain names. -/
structure Part.IsPlain (p : Part) : Prop where
  nth : p.name = Engine.nth → ∃ sign digits : Text, p.body = .text (sign ++ digits) ∧
    sign ∈ [[], ['+'], ['-']] ∧ ∀ c ∈ digits, c.isDigit = true
  role : p.name = Engine.role → ∀ s, p.attributes = .ok s →
    IsPlainName s.name ∧ ∀ d ∈ s.conditions, IsPlainName d.name

/-- The names of the attributes of a role are those of the conditions, up to respelling one of them. -/
theorem isPlainName_of_roleOptions {source : Text} {o o' : Options} {ds : List Condition}
    (ho : ∀ a ∈ o.attributes, IsPlainName a.1) (hds : ∀ d ∈ ds, IsPlainName d.name)
    (h : roleOptions source o ds = .ok o') : ∀ a ∈ o'.attributes, IsPlainName a.1 := by
  intro a ha
  rcases mem_attributes_of_roleOptions h ha with hbefore | ⟨d, hd, hpassed⟩
  · exact ho a hbefore
  · rw [hpassed.name]
    unfold roleAttributeName
    split
    · decide
    · exact hds d hd

variable {p : Part} {call : Call} {inner : Chain → Except Error (List Call)}

theorem isBalanced_simple (hl : l.IsBraced) (hkind : kind ∉ Kind.bare) (target : Target)
    (options : Options) : IsBalanced ((Call.simple base kind target options).code l) :=
  isBalanced_render hl hkind target options

theorem isBalanced_of_nthCall (hl : l.IsBraced) (hp : p.IsPlain) (hengine : p.isNth = true)
    (h : nthCall base p = .ok call) : IsBalanced (call.code l) := by
  obtain ⟨sign, digits, hbody, hsign, hdigits⟩ := hp.nth (of_decide_eq_true hengine)
  have hplain : IsPlain (sign ++ digits) := by
    have hall : ∀ sign ∈ [[], ['+'], ['-']], IsPlain sign := by decide
    exact Text.isPlain_append.2 ⟨hall sign hsign, Text.isPlain_of_isDigit hdigits⟩
  rw [nthCall, Part.textBody, hbody] at h
  simp only at h
  split at h
  · cases h
    exact isBalanced_simple hl (by decide) _ _
  · split at h
    · cases h
      exact isBalanced_simple hl (by decide) _ _
    · cases h
      show IsBalanced (render l base .nth (.text (sign ++ digits)) .empty)
      exact isBalanced_render_nth hl hplain _

theorem isBalanced_of_roleCall (hl : l.IsBraced) (hp : p.IsPlain) (hengine : p.name = Engine.role)
    (h : roleCall base p = .ok call) : IsBalanced (call.code l) := by
  obtain ⟨s, options, hs, hoptions, rfl⟩ := exists_of_roleCall h
  obtain ⟨hname, hconditions⟩ := hp.role hengine s hs
  have hempty : ∀ a ∈ Options.empty.attributes, IsPlainName a.1 := by
    intro a ha
    cases ha
  exact isBalanced_render_role hl hname (isPlainName_of_roleOptions hempty hconditions hoptions)

/-- **The call of a plain part is balanced**, if the code of the chain in its body is. -/
theorem isBalanced_of_makes (hl : l.IsBraced) (hp : p.IsPlain)
    (hinner : ∀ chain d es, p.body = .nested chain d → inner chain = .ok es →
      IsBalanced (code l es))
    (h : p.Makes inner base call) : IsBalanced (call.code l) := by
  cases h with
  | text kind hraw heq =>
    rw [heq]
    rcases hraw with rfl | rfl <;> exact isBalanced_simple hl (by decide) _ _
  | engine hspecial =>
    cases calledBy_of_specialCall? hspecial with
    | index hengine hc => exact isBalanced_of_nthCall hl hp hengine hc
    | role hengine hc => exact isBalanced_of_roleCall hl hp hengine hc
    | combined combination _ hc =>
      obtain ⟨chain, d, es, hbody, hes, rfl⟩ := exists_of_combinedCall hc
      exact isBalanced_render_combination hl combination (hinner chain d es hbody hes)
    | text _ hc =>
      obtain ⟨m, -, rfl⟩ := exists_of_matchCall hc
      exact isBalanced_simple hl (by decide) _ _
    | label _ hc =>
      obtain ⟨m, -, rfl⟩ := exists_of_matchCall hc
      exact isBalanced_simple hl (by decide) _ _
    | hasText _ hc =>
      obtain ⟨m, -, -, rfl⟩ := exists_of_hasTextCall? hc
      exact isBalanced_simple hl (by decide) _ _
    | testId _ hc =>
      obtain ⟨s, d, ds, target, -, -, -, rfl⟩ := exists_of_testIdCall hc
      exact isBalanced_simple hl (by decide) _ _
    | attr _ hc =>
      obtain ⟨s, d, ds, kind, target, -, -, hkind, -, rfl⟩ := exists_of_attributeCall? hc
      have hall : ∀ kind ∈ [Kind.placeholder, .alt, .title], kind ∉ Kind.bare := by decide
      exact isBalanced_simple hl (hall kind (attributeKind?_eq_some_iff.1 hkind).1) _ _

/-! ### Selectors -/

/-- The code of a chain is balanced when the parts are plain at every depth. -/
theorem isBalanced_of_calls (hl : l.IsBraced) {b : Base} {c : Chain} {cs : List Call}
    (hplain : ∀ x : Chain, x.Within c → ∀ p ∈ x.parts, p.IsPlain)
    (h : calls b c.parts = .ok cs) : IsBalanced (code l cs) := by
  refine isBalanced_code fun call hcall => ?_
  obtain ⟨b', p, hp, hmakes⟩ := exists_makes_of_calls h hcall
  refine isBalanced_of_makes hl (hplain c (.refl c) p hp) (fun chain d es hbody hes => ?_) hmakes
  -- the chain in the body is nested less deeply, and what is within it is within the whole
  have hdepth := Part.depths_lt_of_nested ((framesFirst_perm c.parts).mem_iff.2 hp) hbody
  exact isBalanced_of_calls hl (fun x hx => hplain x (.body hp hbody hx)) hes
termination_by Part.depths c.parts

/-- **Code is well bracketed** in Java and in C#. If indices, roles and the attributes of roles are plain at every
depth, the literals in the code of a selector end, and the parentheses and braces outside them match. -/
theorem isWellBracketed_of_asLocator (hl : l.IsBraced) {inFrame : Bool} {s t : Text} {c : Chain}
    (hread : Chain.ofText s = .ok c)
    (hplain : ∀ x : Chain, x.Within c → ∀ p ∈ x.parts, p.IsPlain)
    (h : asLocator l inFrame s = .ok t) : t.IsWellBracketed := by
  obtain ⟨cs, hcs, rfl⟩ := exists_of_map_eq_ok h
  rw [selectorCalls, hread] at hcs
  have hbalanced : IsBalanced (code l cs) := isBalanced_of_calls hl hplain hcs
  exact hbalanced.isWellBracketed

/-- A bracket in the text of a nested selector stands in a literal. -/
theorem isWellBracketed_of_asLocator_has :
    ∃ t : Text, t = "locator(\"a\").nth(+2).filter(new Locator.FilterOptions().setHas(".toList ++
        "getByText(\"(\")))".toList ∧
      asLocator .java false "a >> nth=+2 >> internal:has=\"internal:text=\\\"(\\\"i\"".toList =
        .ok t ∧ t.IsWellBracketed := by
  have hread : Chain.ofText
        "a >> nth=+2 >> internal:has=\"internal:text=\\\"(\\\"i\"".toList =
      .ok ⟨[.ofText Engine.css "a".toList, .ofText Engine.nth "+2".toList,
        ⟨Engine.has, .nested ⟨[.ofText Engine.internalText "\"(\"i".toList], none⟩ none,
          "\"internal:text=\\\"(\\\"i\"".toList⟩], none⟩ :=
    eq_ok_of_toOption_eq_some (by decide +kernel)
  have hinner : calls .locator [.ofText Engine.internalText "\"(\"i".toList] =
      .ok [.simple .locator .text (.text "(".toList) (.ofExact (some false))] := by
    rw [calls_eq]
    rfl
  have hcode : asLocator .java false
        "a >> nth=+2 >> internal:has=\"internal:text=\\\"(\\\"i\"".toList =
      .ok ("locator(\"a\").nth(+2).filter(new Locator.FilterOptions().setHas(".toList ++
        "getByText(\"(\")))".toList) := by
    rw [asLocator, selectorCalls, hread]
    simp only [Chain.calls]
    rw [calls_eq]
    have hhas : ∀ source, specialCall? (fun c => calls .locator c.parts) .locator
        ⟨Engine.has, .nested ⟨[.ofText Engine.internalText "\"(\"i".toList], none⟩ none, source⟩ =
        .ok (some (.combined .locator .has
          [.simple .locator .text (.text "(".toList) (.ofExact (some false))])) := by
      intro source
      rw [specialCall?_of_combination rfl, combinedCall]
      simp only [hinner]
      rfl
    show (walk _ _ [_, _, _]).map _ = _
    simp only [walk, hhas]
    rfl
  refine ⟨_, rfl, hcode, isWellBracketed_of_asLocator (Or.inl rfl) hread ?_ hcode⟩
  have hother : ∀ p : Part, p.name ≠ Engine.nth → p.name ≠ Engine.role → p.IsPlain :=
    fun p hnth hrole => ⟨fun h => absurd h hnth, fun h => absurd h hrole⟩
  have hindex : (Part.ofText Engine.nth "+2".toList).IsPlain :=
    ⟨fun _ => ⟨['+'], ['2'], rfl, by decide, List.forall_mem_singleton.2 (by decide)⟩,
      fun h => absurd h (by decide)⟩
  intro x hx p hp
  cases hx with
  | refl =>
    rcases List.mem_cons.1 hp with rfl | hp
    · exact hother _ (by decide) (by decide)
    rcases List.mem_cons.1 hp with rfl | hp
    · exact hindex
    · rw [List.mem_singleton.1 hp]
      exact hother _ (by decide) (by decide)
  | body hq hbody hwithin =>
    simp only [List.mem_cons, List.not_mem_nil, or_false] at hq
    rcases hq with rfl | rfl | rfl
    · cases hbody
    · cases hbody
    · cases hbody
      cases hwithin with
      | refl =>
        rw [List.mem_singleton.1 hp]
        exact hother _ (by decide) (by decide)
      | body hq hbody _ =>
        rw [List.mem_singleton.1 hq] at hbody
        cases hbody

end SelectorCode
