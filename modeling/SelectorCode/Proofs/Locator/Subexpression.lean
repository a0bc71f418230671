import SelectorCode.Proofs.Locator.Joining
import SelectorCode.Proofs.Selector.Within

/-!
# Expressions within expressions

A combination holds a locator expression, whose calls may be combinations in turn. Every call is made by a part, and a
combination is made by a part with a chain in its body. So the expressions that are met on the way down are those of the
chains that are met on the way down through the bodies of combinations.

## Main Definitions

* `Part.Makes`: how a part makes a call.
* `Subexpression`: the expressions in an expression, at every depth.
* `Chain.CombinedIn`: the chains in a chain that become expressions.

## Main Statements

* `exists_makes_of_walk`: every call is made by a part.
* `exists_special_of_walk`: a part that always has a call of its own has it.
* `exists_part_of_combined`, `exists_combined_of_part`: combinations and the parts that make them.
* `exists_calls_of_subexpression`, `exists_subexpression_of_combinedIn`: expressions and chains within one another.
-/

namespace SelectorCode

open Locator (Error)

variable {base b d : Base} {p : Part} {c x : Chain} {call : Call} {ps : List Part}
  {cs ds es : List Call} {inner : Chain → Except Error (List Call)} {combination : Combination}

/-! ### Where calls come from -/

/-- How a part makes a call on `base`: by its engine, or by its text, which may enter a frame. -/
inductive Part.Makes (inner : Chain → Except Error (List Call)) (base : Base) (p : Part)
    (call : Call) : Prop
  | engine (special : specialCall? inner base p = .ok (some call))
  | text (kind : Kind) (raw : kind = .default ∨ kind = .frame) (eq : call = rawCall base kind p)

/-- Every call is made by a part. -/
theorem exists_makes_of_walk (h : walk inner base ps = .ok cs) (hcall : call ∈ cs) :
    ∃ b, ∃ p ∈ ps, p.Makes inner b call := by
  replace h := isWalk_of_walk h
  induction h with
  | nil => cases hcall
  | @engine base p ps _ _ hc _ ih =>
    rcases List.mem_cons.1 hcall with rfl | hrest
    · exact ⟨base, p, List.mem_cons_self, .engine hc⟩
    · obtain ⟨b, q, hq, hmakes⟩ := ih hrest
      exact ⟨b, q, List.mem_cons_of_mem _ hq, hmakes⟩
  | @frame base p q ps _ _ _ _ ih =>
    rcases List.mem_cons.1 hcall with rfl | hrest
    · exact ⟨base, p, List.mem_cons_self, .text .frame (Or.inr rfl) rfl⟩
    · obtain ⟨b, r, hr, hmakes⟩ := ih hrest
      exact ⟨b, r, List.mem_cons_of_mem _ (List.mem_cons_of_mem _ hr), hmakes⟩
  | @text base p ps _ _ _ _ ih =>
    rcases List.mem_cons.1 hcall with rfl | hrest
    · exact ⟨base, p, List.mem_cons_self, .text .default (Or.inl rfl) rfl⟩
    · obtain ⟨b, r, hr, hmakes⟩ := ih hrest
      exact ⟨b, r, List.mem_cons_of_mem _ hr, hmakes⟩

/-- Every call of a list of parts is made by one of them. -/
theorem exists_makes_of_calls (h : calls base ps = .ok cs) (hcall : call ∈ cs) :
    ∃ b, ∃ p ∈ ps, p.Makes (fun c => calls .locator c.parts) b call := by
  rw [calls_eq] at h
  obtain ⟨b, p, hp, hmakes⟩ := exists_makes_of_walk h hcall
  exact ⟨b, p, (framesFirst_perm ps).mem_iff.1 hp, hmakes⟩

/-- Every part that always has a call of its own has it; no frame marker takes the place of it. -/
theorem exists_special_of_walk {own : Base → Except Error Call} (h : walk inner base ps = .ok cs)
    (hp : p ∈ ps) (hown : ∀ base, specialCall? inner base p = (own base).map some)
    (hmarker : p.isEnterFrame = false) : ∃ b, ∃ call ∈ cs, own b = .ok call := by
  have hraw : ∀ base, specialCall? inner base p ≠ .ok none := by
    intro base hnone
    rw [hown] at hnone
    obtain ⟨call, -, hcall⟩ := exists_of_map_eq_ok hnone
    cases hcall
  replace h := isWalk_of_walk h
  induction h with
  | nil => cases hp
  | @engine base q ps call _ hc _ ih =>
    rcases List.mem_cons.1 hp with rfl | hrest
    · rw [hown] at hc
      exact ⟨base, call, List.mem_cons_self, eq_ok_of_map_some hc⟩
    · obtain ⟨b, call, hmem, hcall⟩ := ih hrest
      exact ⟨b, call, List.mem_cons_of_mem _ hmem, hcall⟩
  | @frame base q r _ _ hc hr _ ih =>
    rcases List.mem_cons.1 hp with rfl | hrest
    · exact absurd hc (hraw base)
    rcases List.mem_cons.1 hrest with rfl | hrest
    · rw [hmarker] at hr
      cases hr
    · obtain ⟨b, call, hmem, hcall⟩ := ih hrest
      exact ⟨b, call, List.mem_cons_of_mem _ hmem, hcall⟩
  | @text base q _ _ hc _ _ ih =>
    rcases List.mem_cons.1 hp with rfl | hrest
    · exact absurd hc (hraw base)
    · obtain ⟨b, call, hmem, hcall⟩ := ih hrest
      exact ⟨b, call, List.mem_cons_of_mem _ hmem, hcall⟩

/-! ### Combinations -/

/-- An engine that combines locators has no other call. -/
theorem specialCall?_of_combination (h : combination? p.name = some combination) :
    specialCall? inner base p = (combinedCall inner base combination p).map some := by
  have hall : ∀ name ∈ [Engine.has, Engine.or, Engine.and, Engine.not], name ≠ Engine.nth ∧
      name ≠ Engine.internalText ∧ name ≠ Engine.internalLabel ∧ name ≠ Engine.hasText := by
    decide
  have hname : p.name ∈ [Engine.has, Engine.or, Engine.and, Engine.not] := by
    by_contra hnone
    simp only [List.mem_cons, List.not_mem_nil, or_false, not_or] at hnone
    obtain ⟨hhas, hor, hand, hnot⟩ := hnone
    rw [combination?, if_neg hhas, if_neg hor, if_neg hand, if_neg hnot] at h
    cases h
  obtain ⟨hnth, htext, hlabel, hhasText⟩ := hall p.name hname
  have hindex : ¬ p.isNth = true := by
    rw [Part.isNth, decide_eq_true_iff]
    exact hnth
  rw [specialCall?, if_neg hindex, if_neg htext, if_neg hlabel, if_neg hhasText]
  simp only [h]

/-- An engine that combines locators is no frame marker. -/
theorem isEnterFrame_of_combination (h : combination? p.name = some combination) :
    p.isEnterFrame = false := by
  rw [Bool.eq_false_iff]
  intro hmarker
  simp only [Part.isEnterFrame, Bool.and_eq_true, decide_eq_true_eq] at hmarker
  have hnone : combination? Engine.control = none := by decide
  rw [hmarker.1, hnone] at h
  cases h

/-- The call of a combination is made by the engine of the combination. -/
theorem combination?_of_makes (h : p.Makes inner base (.combined b combination es)) :
    combination? p.name = some combination ∧
      ∃ chain d, p.body = .nested chain d ∧ inner chain = .ok es := by
  cases h with
  | text kind _ heq => cases heq
  | engine hspecial =>
    rcases exists_of_specialCall? hspecial with
      ⟨kind, -, target, options, heq⟩ | ⟨k, chain, d, cs, hk, hbody, hinner, heq⟩
    · cases heq
    · cases heq
      exact ⟨hk, chain, d, hbody, hinner⟩

/-- What is combined is the expression of the chain in the body of a part. -/
theorem exists_part_of_combined (h : calls base ps = .ok cs)
    (hmem : .combined b combination es ∈ cs) :
    ∃ p ∈ ps, combination? p.name = some combination ∧
      ∃ chain d, p.body = .nested chain d ∧ calls .locator chain.parts = .ok es := by
  obtain ⟨b', p, hp, hmakes⟩ := exists_makes_of_calls h hmem
  exact ⟨p, hp, combination?_of_makes hmakes⟩

/-- Every part that combines locators has its call. -/
theorem exists_combined_of_walk (h : walk inner base ps = .ok cs) (hp : p ∈ ps)
    (hk : combination? p.name = some combination) :
    ∃ b es, .combined b combination es ∈ cs ∧
      ∃ chain d, p.body = .nested chain d ∧ inner chain = .ok es := by
  obtain ⟨b, call, hmem, hcall⟩ := exists_special_of_walk h hp
    (fun base => specialCall?_of_combination hk) (isEnterFrame_of_combination hk)
  obtain ⟨chain, d, es, hbody, hinner, rfl⟩ := exists_of_combinedCall hcall
  exact ⟨b, es, hmem, chain, d, hbody, hinner⟩

theorem exists_combined_of_part (h : calls base ps = .ok cs) (hp : p ∈ ps)
    (hk : combination? p.name = some combination) :
    ∃ b es, .combined b combination es ∈ cs ∧
      ∃ chain d, p.body = .nested chain d ∧ calls .locator chain.parts = .ok es := by
  rw [calls_eq] at h
  exact exists_combined_of_walk h ((framesFirst_perm ps).mem_iff.2 hp) hk

/-! ### Every depth -/

/-- The expressions in an expression, each with what its first call is made on: the expression itself, and those that
combinations hold, which begin on a locator. -/
inductive Subexpression (base : Base) (cs : List Call) : Base → List Call → Prop
  | refl : Subexpression base cs base cs
  | combined {b d : Base} {ds es : List Call} {combination : Combination}
      (outer : Subexpression base cs b ds) (mem : .combined d combination es ∈ ds) :
      Subexpression base cs .locator es

/-- Without combinations there is no other expression. -/
theorem Subexpression.eq_of_not_combined (h : ∀ d combination es, .combined d combination es ∉ cs)
    (hsub : Subexpression base cs b ds) : ds = cs := by
  induction hsub with
  | refl => rfl
  | combined _ hmem ih =>
    rw [ih] at hmem
    exact absurd hmem (h _ _ _)

/-- The chains in a chain that become expressions: the chain itself, and those in the bodies of parts that combine
locators. -/
inductive Chain.CombinedIn (c : Chain) : Chain → Prop
  | refl : CombinedIn c c
  | body {x inner : Chain} {p : Part} {d : Option Binary64} {combination : Combination}
      (outer : CombinedIn c x) (mem : p ∈ x.parts) (engine : combination? p.name = some combination)
      (body_eq : p.body = .nested inner d) : CombinedIn c inner

theorem Chain.CombinedIn.within (h : c.CombinedIn x) : x.Within c := by
  induction h with
  | refl => exact .refl c
  | body _ hp _ hbody ih => exact ih.of_body hp hbody

/-- Every expression in the expression of a chain is that of a chain in it. -/
theorem exists_calls_of_subexpression (h : calls base c.parts = .ok cs)
    (hsub : Subexpression base cs b ds) : ∃ x, c.CombinedIn x ∧ calls b x.parts = .ok ds := by
  induction hsub with
  | refl => exact ⟨c, .refl, h⟩
  | combined _ hmem ih =>
    obtain ⟨x, hx, hcalls⟩ := ih
    obtain ⟨p, hp, hk, chain, d, hbody, hchain⟩ := exists_part_of_combined hcalls hmem
    exact ⟨chain, hx.body hp hk hbody, hchain⟩

/-- Every chain in a chain that becomes an expression, becomes one in that of the chain. -/
theorem exists_subexpression_of_combinedIn (h : calls base c.parts = .ok cs)
    (hx : c.CombinedIn x) : ∃ b ds, Subexpression base cs b ds ∧ calls b x.parts = .ok ds := by
  induction hx with
  | refl => exact ⟨base, cs, .refl, h⟩
  | body _ hp hk hbody ih =>
    obtain ⟨b, ds, hsub, hcalls⟩ := ih
    obtain ⟨e, es, hmem, chain, d, hchain, hes⟩ := exists_combined_of_part hcalls hp hk
    cases hbody.symm.trans hchain
    exact ⟨.locator, es, hsub.combined hmem, hes⟩

end SelectorCode
