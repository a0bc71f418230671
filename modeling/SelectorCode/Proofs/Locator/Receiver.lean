import SelectorCode.Proofs.Locator.Subexpression

/-!
# Receivers and options classes

In Java, the class of the optional arguments of a call is nested in the interface of what the call is made on. A frame
locator is what entering a frame answers, and what picking a match by index answers on a frame locator; every other
call answers a locator. The translation takes the answer of every call but those that enter a frame for a locator. So
the class is that of the receiver, except directly behind an index that is picked on a frame locator.

## Main Definitions

* `Base.after`, `receiverAfter`: what a call, and a list of calls, answers.
* `IsLinked`: each call is made on what the call before it leaves.
* `Call.on`: a call, made on something else.
* `Call.TakesOptions`: the calls with a class in their code.
* `EndsWithFrameIndex`: the lists of calls whose last one picks a match on a frame locator.

## Main Statements

* `Call.takesOptions_or`: a call takes options, or its code does not depend on what it is made on.
* `isLinked_of_walk`, `IsLinked.base_eq`: what the calls of an expression are made on.
* `base_eq_receiverAfter_iff`: when this is what the calls before answer.
* `optionsClass_iff`: when the options class of a call is that of its receiver.
-/

namespace SelectorCode

open Locator (Error)

/-! ### Receivers -/

/-- The kinds of call that pick a match by index. -/
def Kind.indices : List Kind := [.first, .last, .nth]

/-- What a call of a kind answers on a base. -/
def Base.after (b : Base) (kind : Kind) : Base :=
  if kind = .frame then .frameLocator
  else if kind ∈ Kind.indices ∧ b = .frameLocator then .frameLocator
  else .locator

/-- What a list of calls answers, when the first of them is made on `b`. -/
def receiverAfter (b : Base) (cs : List Call) : Base :=
  cs.foldl (fun r c => r.after c.kind) b

/-- The last call picks a match by index on a frame locator. -/
def EndsWithFrameIndex (b : Base) (cs : List Call) : Prop :=
  ∃ before c, cs = before ++ [c] ∧ c.kind ∈ Kind.indices ∧ receiverAfter b before = .frameLocator

variable {base b : Base} {p : Part} {c : Call} {ps : List Part} {cs ds before after : List Call}
  {inner : Chain → Except Error (List Call)}

theorem receiverAfter_append_singleton (b : Base) (before : List Call) (c : Call) :
    receiverAfter b (before ++ [c]) = (receiverAfter b before).after c.kind := by
  rw [receiverAfter, List.foldl_append]
  rfl

theorem baseAfter_append_singleton (b : Base) (before : List Call) (c : Call) :
    baseAfter b (before ++ [c]) = c.nextBase := by
  rw [baseAfter, List.getLast?_append]
  rfl

/-- **What the translation goes on with** is what the calls answer, unless they end with an index on a frame locator. -/
theorem baseAfter_eq_receiverAfter_iff :
    baseAfter b cs = receiverAfter b cs ↔ ¬ EndsWithFrameIndex b cs := by
  rcases List.eq_nil_or_concat cs with rfl | ⟨before, c, rfl⟩
  · refine iff_of_true rfl ?_
    rintro ⟨before, c, hnil, -⟩
    exact List.append_ne_nil_of_right_ne_nil before (List.cons_ne_nil c []) hnil.symm
  · rw [List.concat_eq_append, baseAfter_append_singleton, receiverAfter_append_singleton]
    have hends : EndsWithFrameIndex b (before ++ [c]) ↔
        c.kind ∈ Kind.indices ∧ receiverAfter b before = .frameLocator := by
      constructor
      · rintro ⟨before', c', heq, hindex⟩
        obtain ⟨rfl, hc⟩ := List.append_inj' heq rfl
        cases hc
        exact hindex
      · intro hindex
        exact ⟨before, c, rfl, hindex⟩
    rw [hends, Call.nextBase, Call.entersFrame, Base.after]
    by_cases hframe : c.kind = .frame
    · simp [hframe, Kind.indices]
    · by_cases hindex : c.kind ∈ Kind.indices ∧ receiverAfter b before = .frameLocator
      · simp [hframe, hindex]
      · simp [hframe, hindex]

/-! ### What calls are made on -/

theorem base_of_specialCall? (h : specialCall? inner base p = .ok (some c)) : c.base = base := by
  rcases exists_of_specialCall? h with
    ⟨kind, -, target, options, rfl⟩ | ⟨combination, -, -, -, -, -, -, rfl⟩
  · rfl
  · rfl

/-- The lists of calls whose first one is made on a base, and every other one on what the call before it leaves. -/
inductive IsLinked : Base → List Call → Prop
  | nil (base : Base) : IsLinked base []
  | cons {base : Base} {c : Call} {cs : List Call} (head : c.base = base)
      (tail : IsLinked c.nextBase cs) : IsLinked base (c :: cs)

/-- The translation links calls, one by one. -/
theorem isLinked_of_walk (h : walk inner base ps = .ok cs) : IsLinked base cs := by
  replace h := isWalk_of_walk h
  induction h with
  | nil base => exact .nil base
  | engine hc _ ih =>
    refine .cons (base_of_specialCall? hc) ?_
    rw [Call.nextBase_of_kind_ne (kind_ne_frame_of_specialCall? hc)]
    exact ih
  | frame _ _ _ ih => exact .cons rfl ih
  | text _ _ _ ih => exact .cons rfl ih

theorem isLinked_of_calls (h : calls base ps = .ok cs) : IsLinked base cs := by
  rw [calls_eq] at h
  exact isLinked_of_walk h

/-- A call in linked calls is made on what those before it leave. -/
theorem IsLinked.base_eq (h : IsLinked base (before ++ c :: after)) :
    c.base = baseAfter base before := by
  induction before generalizing base with
  | nil =>
    cases h with
    | cons hhead _ => exact hhead
  | cons d before ih =>
    cases h with
    | cons _ htail =>
      rw [baseAfter_cons]
      exact ih htail

/-- **What a call is made on**, at every depth: what the calls before it answer, unless they end with an index on a
frame locator. -/
theorem base_eq_receiverAfter_iff {x : Chain} (h : calls base x.parts = .ok cs)
    (hsub : Subexpression base cs b (before ++ c :: after)) :
    c.base = receiverAfter b before ↔ ¬ EndsWithFrameIndex b before := by
  obtain ⟨y, -, hcalls⟩ := exists_calls_of_subexpression h hsub
  rw [(isLinked_of_calls hcalls).base_eq, baseAfter_eq_receiverAfter_iff]

/-! ### Options classes -/

/-- A call, made on something else. -/
def Call.on (r : Base) : Call → Call
  | simple _ kind target options => simple r kind target options
  | combined _ combination inner => combined r combination inner

/-- The calls in whose code a class stands: the last argument is made up of options, in the class of what the call is
made on. -/
def Call.TakesOptions (c : Call) : Prop :=
  ∃ arguments settings, ∀ r, (c.on r).code .java =
    Language.java.call c.kind.method (arguments ++ [Language.java.options r c.kind.method settings])

@[simp]
theorem Call.on_base (c : Call) : c.on c.base = c := by
  cases c <;> rfl

/-- A call with one argument, and one more if there are options. -/
theorem Call.takesOptions_or_of_optionList {argument : Text} {settings : List Text}
    (h : ∀ r, (c.on r).code .java = Language.java.call c.kind.method
      (argument :: Language.java.optionList r c.kind.method settings)) :
    c.TakesOptions ∨ ∀ r, (c.on r).code .java = c.code .java := by
  by_cases hempty : settings.isEmpty = true
  · refine Or.inr fun r => ?_
    have hself := h c.base
    rw [c.on_base] at hself
    rw [h r, hself, Language.optionList, Language.optionList, if_pos hempty, if_pos hempty]
  · refine Or.inl ⟨[argument], settings, fun r => ?_⟩
    rw [h r, Language.optionList, if_neg hempty]
    rfl

/-- A call that matches a text takes an option if the match is exact; one that matches a pattern takes none. -/
theorem Call.takesOptions_or_of_renderMatch {target : Target} {exact : Bool}
    (h : ∀ r, (c.on r).code .java = renderMatch .java r c.kind target exact) :
    c.TakesOptions ∨ ∀ r, (c.on r).code .java = c.code .java := by
  cases target with
  | text t => exact takesOptions_or_of_optionList h
  | pattern p =>
    refine Or.inr fun r => ?_
    have hself := h c.base
    rw [c.on_base] at hself
    rw [h r, hself]
    rfl

/-- **Where a class stands.** A call takes options in the class of what it is made on, or its code does not depend on
what it is made on. -/
theorem Call.takesOptions_or (c : Call) :
    c.TakesOptions ∨ ∀ r, (c.on r).code .java = c.code .java := by
  cases c with
  | simple base kind target options =>
    cases kind with
    | role => exact takesOptions_or_of_optionList fun r => rfl
    | hasText => exact Or.inl ⟨[], _, fun r => rfl⟩
    | text => exact takesOptions_or_of_renderMatch fun r => rfl
    | alt => exact takesOptions_or_of_renderMatch fun r => rfl
    | placeholder => exact takesOptions_or_of_renderMatch fun r => rfl
    | label => exact takesOptions_or_of_renderMatch fun r => rfl
    | title => exact takesOptions_or_of_renderMatch fun r => rfl
    | has => exact Or.inl ⟨[], _, fun r => rfl⟩
    | _ => exact Or.inr fun r => rfl
  | combined base combination inner =>
    cases combination with
    | has => exact Or.inl ⟨[], _, fun r => rfl⟩
    | _ => exact Or.inr fun r => rfl

/-- The last of some texts that are joined stands at the end. -/
theorem exists_intercalate_concat (sep : Text) (ts : List Text) :
    ∃ front, ∀ t : Text, List.intercalate sep (ts ++ [t]) = front ++ t := by
  induction ts with
  | nil => exact ⟨[], fun t => List.intercalate_singleton⟩
  | cons u us ih =>
    obtain ⟨front, hfront⟩ := ih
    refine ⟨u ++ sep ++ front, fun t => ?_⟩
    rw [List.cons_append, List.intercalate_cons_of_ne_nil (by simp), hfront]
    simp only [List.append_assoc]

theorem call_concat_inj {camel o o' : Text} {arguments : List Text}
    (h : Language.java.call camel (arguments ++ [o]) =
      Language.java.call camel (arguments ++ [o'])) : o = o' := by
  obtain ⟨front, hfront⟩ := exists_intercalate_concat ", ".toList arguments
  rw [Language.call, Language.call, hfront, hfront, List.append_left_inj, List.append_right_inj,
    List.cons.injEq, List.append_right_inj] at h
  exact h.2

theorem receiverClass_inj {r r' : Base}
    (h : Language.receiverClass r = Language.receiverClass r') : r = r' := by
  revert h
  cases r <;> cases r' <;> decide

theorem options_inj {camel : Text} {settings : List Text} {r r' : Base}
    (h : Language.java.options r camel settings = Language.java.options r' camel settings) :
    r = r' := by
  have hoptions : ∀ r, Language.java.options r camel settings =
      "new ".toList ++ Language.receiverClass r ++ '.' :: Text.titleCase camel ++
        "Options()".toList ++ settings.flatten := fun r => rfl
  rw [hoptions, hoptions, List.append_left_inj, List.append_left_inj, List.append_left_inj,
    List.append_right_inj] at h
  exact receiverClass_inj h

/-- The class tells what a call that takes options is made on. -/
theorem Call.TakesOptions.on_inj (h : c.TakesOptions) {r r' : Base}
    (heq : (c.on r).code .java = (c.on r').code .java) : r = r' := by
  obtain ⟨arguments, settings, hcode⟩ := h
  rw [hcode, hcode] at heq
  exact options_inj (call_concat_inj heq)

/-- **The options class of a call**, at every depth. In the Java code of a selector, a call has the code that it has on what
the calls before it answer, and so the class of this if it takes options. The only exceptions are the calls that take
options and come directly behind an index on a frame locator. -/
theorem optionsClass_iff {inFrame : Bool} {s t : Text} (h : asLocator .java inFrame s = .ok t) :
    ∃ cs, selectorCalls inFrame s = .ok cs ∧ t = code .java cs ∧
      ∀ b ds, Subexpression (startBase inFrame) cs b ds →
        ∀ before c after, ds = before ++ c :: after →
          (c.TakesOptions ∨ ∀ r, (c.on r).code .java = c.code .java) ∧
          (c.code .java = (c.on (receiverAfter b before)).code .java ↔
            ¬ (c.TakesOptions ∧ EndsWithFrameIndex b before)) := by
  obtain ⟨cs, hcs, rfl⟩ := exists_of_map_eq_ok h
  refine ⟨cs, hcs, rfl, ?_⟩
  rintro b ds hsub before c after rfl
  refine ⟨c.takesOptions_or, ?_⟩
  have hbase : c.base = receiverAfter b before ↔ ¬ EndsWithFrameIndex b before := by
    unfold selectorCalls at hcs
    split at hcs
    · cases hcs
    next x _ => exact base_eq_receiverAfter_iff hcs hsub
  rw [not_and, ← hbase]
  constructor
  · intro hcode htakes
    refine htakes.on_inj ?_
    rw [c.on_base]
    exact hcode
  · intro hright
    rcases c.takesOptions_or with htakes | hfree
    · rw [← hright htakes, c.on_base]
    · exact (hfree _).symm

/-- Directly behind a frame, the options class is that of a frame locator. -/
theorem optionsClass_frame :
    ∃ t : Text, t = "frameLocator(\"a\")".toList ++
        ".getByText(\"b\", new FrameLocator.GetByTextOptions().setExact(true))".toList ∧
      asLocator .java false "a >> internal:control=enter-frame >> internal:text=\"b\"s".toList =
        .ok t ∧
      ∃ cs, t = code .java cs ∧ ∀ b ds, Subexpression (startBase false) cs b ds →
        ∀ before c after, ds = before ++ c :: after →
          c.code .java = (c.on (receiverAfter b before)).code .java := by
  have hread : Chain.ofText
        "a >> internal:control=enter-frame >> internal:text=\"b\"s".toList =
      .ok ⟨[.ofText Engine.css "a".toList, .ofText Engine.control Part.enterFrameBody,
        .ofText Engine.internalText "\"b\"s".toList], none⟩ :=
    eq_ok_of_toOption_eq_some (by decide +kernel)
  have hcalls : selectorCalls false
        "a >> internal:control=enter-frame >> internal:text=\"b\"s".toList =
      .ok [.simple .page .frame (.text "a".toList) .empty,
        .simple .frameLocator .text (.text "b".toList) (.ofExact (some true))] := by
    rw [selectorCalls, hread]
    show calls .page [_, _, _] = _
    rw [calls_eq]
    show walk _ _ [_, _, _] = _
    rw [walk]
    simp only [isEnterFrame_marker]
    rfl
  have hcode : asLocator .java false
        "a >> internal:control=enter-frame >> internal:text=\"b\"s".toList =
      .ok ("frameLocator(\"a\")".toList ++
        ".getByText(\"b\", new FrameLocator.GetByTextOptions().setExact(true))".toList) := by
    rw [asLocator, hcalls]
    rfl
  obtain ⟨cs, hcs, ht, hall⟩ := optionsClass_iff hcode
  cases hcalls.symm.trans hcs
  refine ⟨_, rfl, hcode, _, ht, ?_⟩
  intro b ds hsub before c after hsplit
  refine (hall b ds hsub before c after hsplit).2.2 ?_
  rintro ⟨-, front, i, rfl, hindex, -⟩
  have hi : i ∈ ds := by
    rw [hsplit]
    simp
  -- neither of the two calls is an index
  rw [hsub.eq_of_not_combined (by simp)] at hi
  rcases List.mem_cons.1 hi with rfl | hi
  · exact absurd hindex (by decide)
  · rw [List.mem_singleton.1 hi] at hindex
    exact absurd hindex (by decide)

/-- Not every options class is that of the receiver: behind an index on a frame locator, it is that of a locator. -/
theorem not_optionsClass :
    ¬ ∀ (inFrame : Bool) (s t : Text), asLocator .java inFrame s = .ok t →
      ∃ cs, selectorCalls inFrame s = .ok cs ∧ t = code .java cs ∧
        ∀ b ds, Subexpression (startBase inFrame) cs b ds →
          ∀ before c after, ds = before ++ c :: after →
            c.code .java = (c.on (receiverAfter b before)).code .java := by
  intro h
  have hread : Chain.ofText
        "a >> nth=0 >> internal:control=enter-frame >> internal:text=\"b\"s".toList =
      .ok ⟨[.ofText Engine.css "a".toList, .ofText Engine.nth "0".toList,
        .ofText Engine.control Part.enterFrameBody,
        .ofText Engine.internalText "\"b\"s".toList], none⟩ :=
    eq_ok_of_toOption_eq_some (by decide +kernel)
  have hcalls : selectorCalls false
        "a >> nth=0 >> internal:control=enter-frame >> internal:text=\"b\"s".toList =
      .ok [.simple .page .frame (.text "a".toList) .empty,
        .simple .frameLocator .first (.text []) .empty,
        .simple .locator .text (.text "b".toList) (.ofExact (some true))] := by
    have horder : framesFirst [.ofText Engine.css "a".toList, .ofText Engine.nth "0".toList,
        .ofText Engine.control Part.enterFrameBody, .ofText Engine.internalText "\"b\"s".toList] =
      [.ofText Engine.css "a".toList, .ofText Engine.control Part.enterFrameBody,
        .ofText Engine.nth "0".toList, .ofText Engine.internalText "\"b\"s".toList] := by
      simp only [framesFirst, isEnterFrame_marker]
      rfl
    rw [selectorCalls, hread]
    show calls .page [_, _, _, _] = _
    rw [calls_eq, horder, walk]
    simp only [isEnterFrame_marker]
    rfl
  obtain ⟨cs, hcs, -, hall⟩ := h false
    "a >> nth=0 >> internal:control=enter-frame >> internal:text=\"b\"s".toList _
    (by rw [asLocator, hcalls]; rfl)
  cases hcalls.symm.trans hcs
  have hclass := hall .page _ .refl
    [.simple .page .frame (.text "a".toList) .empty, .simple .frameLocator .first (.text []) .empty]
    (.simple .locator .text (.text "b".toList) (.ofExact (some true))) [] rfl
  exact absurd hclass (by decide)

end SelectorCode
