import Mathlib.Data.List.Forall2
import SelectorCode.Locator.Expression
import SelectorCode.Proofs.Attribute.Permissive
import SelectorCode.Proofs.Number.Range

/-!
# Calls that every language answers

A language may refuse a call: one whose kind or base it does not know, and one with an integer that is too long to be
written. The calls that parts are translated to are none of these, because the only integers in them are levels, and a
level is in the range of doubles.

## Main Definitions

* `CallRequest`: the arguments of a single call.
* `CallRequest.answer`: what a language answers.
* `Call.Answerable`: the calls without a locator in them that every language answers.
* `roleConditions`, `Condition.IsPassed`: the conditions of a role that become attributes, and the attributes that they
  become.
* `Part.CalledBy`: which engine a part has, and how its call comes about.
* `IsWalk`: how the calls of a list of parts come about.

## Main Statements

* `CallRequest.answer_eq_ok`: a call whose integers are short is answered.
* `exists_attributes_of_roleOptions`: the attributes of a role are its conditions, one by one.
* `exists_of_roleCall` and its like: what the call of a part holds.
* `calledBy_of_specialCall?`: a call that is not raw comes about in one of these ways.
* `exists_of_specialCall?`: what it is made on, and of which kind it is.
* `isWalk_of_walk`: the calls of a list of parts come about like this.
* `hasLongNumeral_of_roleOptions`: the options of a role have only short integers.
* `answerable_of_roleCall` and its like: the calls of parts are answerable.
-/

namespace SelectorCode

open Locator (Error)

/-- What a language is asked to write. -/
structure CallRequest where
  base : Base
  kind : Kind
  target : Target
  options : Options
deriving DecidableEq, Repr

/-- What a language answers. -/
def CallRequest.answer (l : Language) (r : CallRequest) : Except RequestError Text :=
  requestCall l r.base.name r.kind.name r.target r.options

/-! ### Names -/

theorem Base.ofName?_name (b : Base) : Base.ofName? b.name = some b := by
  cases b <;> decide

theorem Kind.ofName?_name (k : Kind) : Kind.ofName? k.name = some k := by
  cases k <;> decide

/-- **A call is answered** with its code when it is no role with an integer that is too long. -/
theorem CallRequest.answer_eq_ok (l : Language) {r : CallRequest}
    (h : r.kind = .role → hasLongNumeral r.options = false) :
    r.answer l = .ok (render l r.base r.kind r.target r.options) := by
  have hshort : ¬ (r.kind = .role ∧ hasLongNumeral r.options = true) := by
    rintro ⟨hrole, hlong⟩
    rw [h hrole] at hlong
    exact Bool.noConfusion hlong
  rw [CallRequest.answer, requestCall, requestedBase, Base.ofName?_name, Kind.ofName?_name]
  exact if_neg hshort

/-! ### Attributes of a role -/

section

variable {source : Text} {o o' : Options} {c : Condition} {cs : List Condition}

/-- The conditions of a role that become attributes: all but those on the name. -/
def roleConditions (cs : List Condition) : List Condition :=
  cs.filter fun c => c.name ≠ "name".toList

/-- An attribute has the name of a condition and its value. -/
structure Condition.IsPassed (source : Text) (c : Condition) (a : Text × Option Value) : Prop where
  name : a.1 = roleAttributeName c.name
  value : roleValue source c.name c.test.value? = .ok a.2

/-- A condition on the name adds no attribute, and any other condition adds one. -/
theorem attributes_of_addRoleCondition (h : addRoleCondition source o c = .ok o') :
    (c.name = "name".toList ∧ o'.attributes = o.attributes) ∨
    (c.name ≠ "name".toList ∧ ∃ a, c.IsPassed source a ∧ o'.attributes = o.attributes ++ [a]) := by
  unfold addRoleCondition at h
  split at h
  next hname =>
    cases h
    exact Or.inl ⟨hname, rfl⟩
  next hname =>
    obtain ⟨v, hvalue, rfl⟩ := exists_of_map_eq_ok h
    exact Or.inr ⟨hname, _, ⟨rfl, hvalue⟩, rfl⟩

/-- **The attributes of a role** come from its conditions, one by one and in their order. -/
theorem exists_attributes_of_roleOptions (h : roleOptions source o cs = .ok o') :
    ∃ added, List.Forall₂ (Condition.IsPassed source) (roleConditions cs) added ∧
      o'.attributes = o.attributes ++ added := by
  induction cs generalizing o with
  | nil =>
    cases h
    exact ⟨[], .nil, (List.append_nil _).symm⟩
  | cons c cs ih =>
    rw [roleOptions] at h
    split at h
    · cases h
    next o'' hcondition =>
      obtain ⟨added, hadded, heq⟩ := ih h
      rcases attributes_of_addRoleCondition hcondition with ⟨hname, hsame⟩ | ⟨hname, a, ha, hone⟩
      · refine ⟨added, ?_, by rw [heq, hsame]⟩
        rw [roleConditions, List.filter_cons_of_neg (by simpa using hname)]
        exact hadded
      · refine ⟨a :: added, ?_, by rw [heq, hone, List.append_assoc, List.singleton_append]⟩
        rw [roleConditions, List.filter_cons_of_pos (by simpa using hname)]
        exact .cons ha hadded

/-- What a list is related to, element by element, has nothing else in it. -/
theorem exists_of_forall₂_of_mem {α β : Type} {r : α → β → Prop} {l : List α} {k : List β} {b : β}
    (h : List.Forall₂ r l k) (hb : b ∈ k) : ∃ a ∈ l, r a b := by
  induction h with
  | nil => cases hb
  | @cons a _ _ _ hr _ ih =>
    rcases List.mem_cons.1 hb with rfl | hrest
    · exact ⟨a, List.mem_cons_self, hr⟩
    · obtain ⟨a', ha', hr'⟩ := ih hrest
      exact ⟨a', List.mem_cons_of_mem a ha', hr'⟩

/-- Every attribute was there before or comes from a condition. -/
theorem mem_attributes_of_roleOptions (h : roleOptions source o cs = .ok o')
    {a : Text × Option Value} (ha : a ∈ o'.attributes) :
    a ∈ o.attributes ∨ ∃ c ∈ cs, c.IsPassed source a := by
  obtain ⟨added, hadded, heq⟩ := exists_attributes_of_roleOptions h
  rw [heq] at ha
  refine (List.mem_append.1 ha).imp_right fun hmem => ?_
  obtain ⟨c, hc, hpassed⟩ := exists_of_forall₂_of_mem hadded hmem
  exact ⟨c, List.mem_of_mem_filter hc, hpassed⟩

end

/-! ### Short numerals -/

/-- A number that is too long to be written is an integer. -/
theorem isTooLong_of_not_isNumber {v : Value} (h : ¬ v.IsNumber) : v.isTooLong = false := by
  cases v with
  | number n => exact absurd ⟨n, rfl⟩ h
  | _ => rfl

/-- A level is a number that has been read, in the range of doubles. -/
theorem exists_number_of_levelValue {source t : Text} {v : Value} (h : levelValue source t = .ok v) :
    ∃ n, numeral? t = some n ∧ v = .number n ∧
      (∀ i, n = .int i → (Binary64.ofInt? i).isSome = true) ∧
      ∀ x, n = .float x → x.isFinite = true := by
  unfold levelValue at h
  split at h
  · cases h
  next n hn =>
    split at h
    · cases h
    next hrange =>
      cases h
      refine ⟨.int n, hn, rfl, fun i hi => ?_, fun x hx => Number.noConfusion hx⟩
      cases hi
      exact Option.isSome_iff_ne_none.2 (by simpa using hrange)
  next x hx =>
    split at h
    next hfinite =>
      cases h
      refine ⟨.float x, hx, rfl, fun i hi => Number.noConfusion hi, fun y hy => ?_⟩
      cases hy
      exact hfinite
    · cases h

theorem isTooLong_of_levelValue {source t : Text} {v : Value} (h : levelValue source t = .ok v) :
    v.isTooLong = false := by
  obtain ⟨n, -, rfl, hint, -⟩ := exists_number_of_levelValue h
  cases n with
  | int i => exact Number.isTooLong_of_ofInt? (hint i rfl)
  | float x => rfl

theorem isTooLong_of_roleValue {source name : Text} {value v : Option Value}
    (hvalue : ∀ w, value = some w → ¬ w.IsNumber) (h : roleValue source name value = .ok v) :
    v.any Value.isTooLong = false := by
  unfold roleValue at h
  split at h
  next t =>
    split at h
    · obtain ⟨w, hlevel, rfl⟩ := exists_of_map_eq_ok h
      exact isTooLong_of_levelValue hlevel
    · cases h
      rfl
  · cases h
    cases value with
    | none => rfl
    | some w => exact isTooLong_of_not_isNumber (hvalue w rfl)

/-- The options of a role stay free of long numerals. -/
theorem hasLongNumeral_of_roleOptions {source : Text} {o o' : Options} {cs : List Condition}
    (ho : hasLongNumeral o = false)
    (hcs : ∀ c ∈ cs, ∀ v, c.test.value? = some v → ¬ v.IsNumber)
    (h : roleOptions source o cs = .ok o') : hasLongNumeral o' = false := by
  rw [hasLongNumeral, List.any_eq_false] at ho ⊢
  intro a ha
  rcases mem_attributes_of_roleOptions h ha with hbefore | ⟨c, hc, hpassed⟩
  · exact ho a hbefore
  · rw [isTooLong_of_roleValue (hcs c hc) hpassed.value]
    exact Bool.false_ne_true

/-! ### The shapes of calls -/

theorem attributeKind?_eq_some_iff {name : Text} {kind : Kind} :
    attributeKind? name = some kind ↔
      kind ∈ [Kind.placeholder, .alt, .title] ∧ name = kind.name := by
  constructor
  · intro h
    unfold attributeKind? at h
    split at h
    next hname =>
      cases h
      exact ⟨by decide, hname⟩
    split at h
    next hname =>
      cases h
      exact ⟨by decide, hname⟩
    split at h
    next hname =>
      cases h
      exact ⟨by decide, hname⟩
    cases h
  · rintro ⟨hkind, rfl⟩
    revert kind
    decide

section

variable {base : Base} {p : Part} {c : Call}

theorem exists_of_nthCall (h : nthCall base p = .ok c) :
    ∃ kind ∈ [Kind.first, .last, .nth], ∃ t, c = .simple base kind (.text t) .empty := by
  unfold nthCall at h
  split at h
  · cases h
  next t _ =>
    split at h
    · cases h
      exact ⟨.first, by decide, [], rfl⟩
    · split at h
      · cases h
        exact ⟨.last, by decide, [], rfl⟩
      · cases h
        exact ⟨.nth, by decide, t, rfl⟩

theorem exists_of_matchCall {kind : Kind} (h : matchCall base kind p = .ok c) :
    ∃ m, p.textMatch = .ok m ∧ c = .simple base kind m.target (.ofExact m.exact) := by
  obtain ⟨m, hm, rfl⟩ := exists_of_map_eq_ok h
  exact ⟨m, hm, rfl⟩

theorem exists_of_hasTextCall? (h : hasTextCall? base p = .ok (some c)) :
    ∃ m, p.textMatch = .ok m ∧ m.exact ≠ some true ∧
      c = .simple base .hasText m.target (.ofExact m.exact) := by
  obtain ⟨m, hm, hcall⟩ := exists_of_map_eq_ok h
  split at hcall
  · cases hcall
  next hexact =>
    cases hcall
    exact ⟨m, hm, hexact, rfl⟩

theorem exists_of_combinedCall {inner : Chain → Except Error (List Call)}
    {combination : Combination}
    (h : combinedCall inner base combination p = .ok c) :
    ∃ chain d cs, p.body = .nested chain d ∧ inner chain = .ok cs ∧
      c = .combined base combination cs := by
  unfold combinedCall at h
  split at h
  · cases h
  next chain d hbody =>
    obtain ⟨cs, hcs, rfl⟩ := exists_of_map_eq_ok h
    exact ⟨chain, d, cs, hbody, hcs, rfl⟩

theorem exists_of_roleCall (h : roleCall base p = .ok c) :
    ∃ s options, p.attributes = .ok s ∧ roleOptions p.source .empty s.conditions = .ok options ∧
      c = .simple base .role (.text s.name) options := by
  unfold roleCall at h
  split at h
  · cases h
  next s hs =>
    obtain ⟨options, hoptions, rfl⟩ := exists_of_map_eq_ok h
    exact ⟨s, options, hs, hoptions, rfl⟩

theorem exists_of_testIdCall (h : testIdCall base p = .ok c) :
    ∃ s d ds target, p.attributes = .ok s ∧ s.conditions = d :: ds ∧
      Value.target? d.test.value? = some target ∧ c = .simple base .testId target .empty := by
  unfold testIdCall at h
  split at h
  · cases h
  next s hs =>
    split at h
    · cases h
    next d ds hconditions =>
      split at h
      · cases h
      next target htarget =>
        cases h
        exact ⟨s, d, ds, target, hs, hconditions, htarget, rfl⟩

theorem exists_of_attributeCall? (h : attributeCall? base p = .ok (some c)) :
    ∃ s d ds kind target, p.attributes = .ok s ∧ s.conditions = d :: ds ∧
      attributeKind? d.name = some kind ∧ Value.target? d.test.value? = some target ∧
      c = .simple base kind target (.ofExact (some d.test.isCaseSensitive)) := by
  unfold attributeCall? at h
  split at h
  · cases h
  next s hs =>
    split at h
    · cases h
    next d ds hconditions =>
      split at h
      · cases h
      next kind hkind =>
        split at h
        · cases h
        next target htarget =>
          cases h
          exact ⟨s, d, ds, kind, target, hs, hconditions, hkind, htarget, rfl⟩

end

/-- The attribute selector of a part whose body is a text is the one that the text describes. -/
theorem Part.attributes_ofText_eq_ok_iff {engine t : Text} {s : AttributeSelector} :
    (Part.ofText engine t).attributes = .ok s ↔ AttributeSelector.ofText true t = .ok s := by
  constructor
  · exact eq_ok_of_mapError_eq_ok
  · intro h
    show (AttributeSelector.ofText true t).mapError _ = _
    rw [h]
    rfl

theorem roleCall_of_attributes {base : Base} {p : Part} {s : AttributeSelector} {o : Options}
    (hs : p.attributes = .ok s) (ho : roleOptions p.source .empty s.conditions = .ok o) :
    roleCall base p = .ok (.simple base .role (.text s.name) o) := by
  rw [roleCall, hs]
  show (roleOptions p.source .empty s.conditions).map _ = _
  rw [ho]
  rfl

/-- The attribute selector in the body of a part is legible; among other things, it has no numbers. -/
theorem Part.isLegible_of_attributes {p : Part} {s : AttributeSelector} (h : p.attributes = .ok s) :
    s.IsLegible := by
  unfold Part.attributes at h
  split at h
  · cases h
  · exact AttributeSelector.isLegible_of_ofText (eq_ok_of_mapError_eq_ok h)

/-! ### Where calls come from -/

/-- The engine of a part, and how it makes the call of the part. -/
inductive Part.CalledBy (inner : Chain → Except Error (List Call)) (base : Base) (p : Part)
    (c : Call) : Prop
  | index (engine : p.isNth = true) (call : nthCall base p = .ok c)
  | text (engine : p.name = Engine.internalText) (call : matchCall base .text p = .ok c)
  | label (engine : p.name = Engine.internalLabel) (call : matchCall base .label p = .ok c)
  | hasText (engine : p.name = Engine.hasText) (call : hasTextCall? base p = .ok (some c))
  | combined (combination : Combination) (engine : combination? p.name = some combination)
      (call : combinedCall inner base combination p = .ok c)
  | role (engine : p.name = Engine.role) (call : roleCall base p = .ok c)
  | testId (engine : p.name = Engine.testId) (call : testIdCall base p = .ok c)
  | attr (engine : p.name = Engine.attr) (call : attributeCall? base p = .ok (some c))

theorem eq_ok_of_map_some {x : Except Error Call} {c : Call} (h : x.map some = .ok (some c)) :
    x = .ok c := by
  obtain ⟨d, hd, heq⟩ := exists_of_map_eq_ok h
  rw [hd, Option.some.inj heq]

/-- A call that is not raw is made by the engine of its part. -/
theorem calledBy_of_specialCall? {inner : Chain → Except Error (List Call)} {base : Base}
    {p : Part} {c : Call} (h : specialCall? inner base p = .ok (some c)) :
    p.CalledBy inner base c := by
  unfold specialCall? at h
  split at h
  next hindex => exact .index hindex (eq_ok_of_map_some h)
  split at h
  next htext => exact .text htext (eq_ok_of_map_some h)
  split at h
  next hlabel => exact .label hlabel (eq_ok_of_map_some h)
  split at h
  next hhasText => exact .hasText hhasText h
  split at h
  next combination hcombination => exact .combined combination hcombination (eq_ok_of_map_some h)
  split at h
  next hrole => exact .role hrole (eq_ok_of_map_some h)
  split at h
  next htestId => exact .testId htestId (eq_ok_of_map_some h)
  split at h
  next hattr => exact .attr hattr h
  cases h

/-- The kinds of call that engines make without a locator in them. -/
def Kind.special : List Kind :=
  [.first, .last, .nth, .text, .label, .hasText, .role, .testId, .placeholder, .alt, .title]

/-- A call that is not raw is made on the base of its part. It is of one of these kinds, or it combines the locator with
the chain in the body of the part. -/
theorem exists_of_specialCall? {inner : Chain → Except Error (List Call)} {base : Base}
    {p : Part} {c : Call} (h : specialCall? inner base p = .ok (some c)) :
    (∃ kind ∈ Kind.special, ∃ target options, c = .simple base kind target options) ∨
    ∃ combination chain d cs, combination? p.name = some combination ∧
      p.body = .nested chain d ∧ inner chain = .ok cs ∧ c = .combined base combination cs := by
  cases calledBy_of_specialCall? h with
  | index _ hc =>
    obtain ⟨kind, hkind, t, rfl⟩ := exists_of_nthCall hc
    have hall : ∀ kind ∈ [Kind.first, .last, .nth], kind ∈ Kind.special := by decide
    exact Or.inl ⟨kind, hall kind hkind, _, _, rfl⟩
  | text _ hc =>
    obtain ⟨m, -, rfl⟩ := exists_of_matchCall hc
    exact Or.inl ⟨.text, by decide, _, _, rfl⟩
  | label _ hc =>
    obtain ⟨m, -, rfl⟩ := exists_of_matchCall hc
    exact Or.inl ⟨.label, by decide, _, _, rfl⟩
  | hasText _ hc =>
    obtain ⟨m, -, -, rfl⟩ := exists_of_hasTextCall? hc
    exact Or.inl ⟨.hasText, by decide, _, _, rfl⟩
  | combined combination hk hc =>
    obtain ⟨chain, d, cs, hbody, hinner, rfl⟩ := exists_of_combinedCall hc
    exact Or.inr ⟨combination, chain, d, cs, hk, hbody, hinner, rfl⟩
  | role _ hc =>
    obtain ⟨s, options, -, -, rfl⟩ := exists_of_roleCall hc
    exact Or.inl ⟨.role, by decide, _, _, rfl⟩
  | testId _ hc =>
    obtain ⟨s, d, ds, target, -, -, -, rfl⟩ := exists_of_testIdCall hc
    exact Or.inl ⟨.testId, by decide, _, _, rfl⟩
  | attr _ hc =>
    obtain ⟨s, d, ds, kind, target, -, -, hkind, -, rfl⟩ := exists_of_attributeCall? hc
    have hall : ∀ kind ∈ [Kind.placeholder, .alt, .title], kind ∈ Kind.special := by decide
    exact Or.inl ⟨kind, hall kind (attributeKind?_eq_some_iff.1 hkind).1, _, _, rfl⟩

/-- How the calls of a list of parts come about, the first made on a base: by the engine of a part, or by its text,
which enters a frame if a marker follows. -/
inductive IsWalk (inner : Chain → Except Error (List Call)) : Base → List Part → List Call → Prop
  | nil (base : Base) : IsWalk inner base [] []
  | engine {base : Base} {p : Part} {ps : List Part} {c : Call} {cs : List Call}
      (special : specialCall? inner base p = .ok (some c)) (rest : IsWalk inner .locator ps cs) :
      IsWalk inner base (p :: ps) (c :: cs)
  | frame {base : Base} {p q : Part} {ps : List Part} {cs : List Call}
      (raw : specialCall? inner base p = .ok none) (marker : q.isEnterFrame = true)
      (rest : IsWalk inner .frameLocator ps cs) :
      IsWalk inner base (p :: q :: ps) (rawCall base .frame p :: cs)
  | text {base : Base} {p : Part} {ps : List Part} {cs : List Call}
      (raw : specialCall? inner base p = .ok none)
      (outside : ∀ q, ps.head? = some q → q.isEnterFrame = false)
      (rest : IsWalk inner .locator ps cs) :
      IsWalk inner base (p :: ps) (rawCall base .default p :: cs)

theorem isWalk_of_walk {inner : Chain → Except Error (List Call)} {base : Base} {ps : List Part}
    {cs : List Call} (h : walk inner base ps = .ok cs) : IsWalk inner base ps cs := by
  fun_induction walk inner base ps generalizing cs with
  | case1 base =>
    cases h
    exact .nil base
  | case2 => cases h
  | case3 base p ps call hc ih =>
    obtain ⟨ds, hds, rfl⟩ := exists_of_map_eq_ok h
    exact .engine hc (ih hds)
  | case4 base p hc =>
    cases h
    refine .text hc (fun q hq => ?_) (.nil .locator)
    cases hq
  | case5 base p hc q qs hq ih =>
    obtain ⟨ds, hds, rfl⟩ := exists_of_map_eq_ok h
    exact .frame hc hq (ih hds)
  | case6 base p hc q qs hq ih =>
    obtain ⟨ds, hds, rfl⟩ := exists_of_map_eq_ok h
    refine .text hc (fun r hr => ?_) (ih hds)
    cases hr
    exact Bool.eq_false_iff.2 hq

/-! ### Calls of parts -/

/-- The calls without a locator in them that every language answers. -/
inductive Call.Answerable : Call → Prop
  | intro (base : Base) (kind : Kind) (target : Target) (options : Options)
      (short : kind = .role → hasLongNumeral options = false) :
      Answerable (.simple base kind target options)

theorem answerable_of_ne_role {base : Base} {kind : Kind} (hkind : kind ≠ .role) (target : Target)
    (options : Options) : (Call.simple base kind target options).Answerable :=
  .intro base kind target options fun h => absurd h hkind

variable {base : Base} {p : Part} {c : Call}

theorem answerable_of_nthCall (h : nthCall base p = .ok c) : c.Answerable := by
  obtain ⟨kind, hkind, t, rfl⟩ := exists_of_nthCall h
  refine answerable_of_ne_role ?_ _ _
  rintro rfl
  exact absurd hkind (by decide)

theorem answerable_of_matchCall {kind : Kind} (hkind : kind ≠ .role)
    (h : matchCall base kind p = .ok c) : c.Answerable := by
  obtain ⟨m, -, rfl⟩ := exists_of_matchCall h
  exact answerable_of_ne_role hkind _ _

theorem answerable_of_hasTextCall? (h : hasTextCall? base p = .ok (some c)) : c.Answerable := by
  obtain ⟨m, -, -, rfl⟩ := exists_of_hasTextCall? h
  exact answerable_of_ne_role (by decide) _ _

/-- The call of a role has only short integers. -/
theorem answerable_of_roleCall (h : roleCall base p = .ok c) : c.Answerable := by
  obtain ⟨s, options, hs, hoptions, rfl⟩ := exists_of_roleCall h
  refine .intro _ _ _ _ fun _ => hasLongNumeral_of_roleOptions rfl (fun d hd => ?_) hoptions
  exact ((Part.isLegible_of_attributes hs).conditions d hd).test.not_isNumber

theorem answerable_of_testIdCall (h : testIdCall base p = .ok c) : c.Answerable := by
  obtain ⟨s, d, ds, target, -, -, -, rfl⟩ := exists_of_testIdCall h
  exact answerable_of_ne_role (by decide) _ _

theorem answerable_of_attributeCall? (h : attributeCall? base p = .ok (some c)) :
    c.Answerable := by
  obtain ⟨s, d, ds, kind, target, -, -, hkind, -, rfl⟩ := exists_of_attributeCall? h
  refine answerable_of_ne_role ?_ _ _
  rintro rfl
  exact absurd (attributeKind?_eq_some_iff.1 hkind).1 (by decide)

end SelectorCode
