import Mathlib.Data.List.Forall2
import SelectorCode.Proofs.Locator.Rendering

/-!
# All languages agree

Nothing in the translation of a selector depends on the language, and every language answers every call it is asked
for. So a selector has code in all languages or in none, and where it has, the languages are asked for the same calls
but for the code of locators inside them.

## Main Definitions

* `Alike`: two calls that differ at most in the code of a locator inside them.

## Main Statements

* `specialCall?_cases`: what the call of a part can be.
* `forall₂_alike_of_calls`: the calls that two languages are asked for are alike, one by one.
* `asLocator_uniform`: a selector fails alike in all languages, or is rendered by calls that are alike.
-/

namespace SelectorCode

open Locator (Error)

/-- Calls asked of the languages `l` and `m` that have everything in common, except that a combination holds the code
of one chain in each of the two languages. -/
structure Alike (l m : Language) (r s : CallRequest) : Prop where
  base : r.base = s.base
  kind : r.kind = s.kind
  options : r.options = s.options
  target : r.target = s.target ∨
    ∃ (combination : Combination) (inner : Chain) (x y : Rendered),
      r.kind = combination.kind ∧
      renderParts l .locator inner.parts = .ok x ∧ r.target = .text x.text ∧
      renderParts m .locator inner.parts = .ok y ∧ s.target = .text y.text

variable {l m : Language} {base : Base} {p : Part} {c : Call}

theorem Alike.refl (r : CallRequest) : Alike l m r r :=
  ⟨rfl, rfl, rfl, Or.inl rfl⟩

/-! ### Calls of parts -/

/-- The call of a part is answerable, or it combines the locator with the chain in the body. -/
theorem specialCall?_cases {g : Chain → Except Error (List Call)}
    (h : specialCall? g base p = .ok (some c)) :
    c.Answerable ∨ ∃ combination chain d inner,
      p.body = .nested chain d ∧ g chain = .ok inner ∧ c = .combined base combination inner := by
  cases calledBy_of_specialCall? h with
  | index _ hc => exact Or.inl (answerable_of_nthCall hc)
  | text _ hc => exact Or.inl (answerable_of_matchCall (by decide) hc)
  | label _ hc => exact Or.inl (answerable_of_matchCall (by decide) hc)
  | hasText _ hc => exact Or.inl (answerable_of_hasTextCall? hc)
  | combined combination _ hc =>
    obtain ⟨chain, d, inner, hbody, hinner, rfl⟩ := exists_of_combinedCall hc
    exact Or.inr ⟨combination, chain, d, inner, hbody, hinner, rfl⟩
  | role _ hc => exact Or.inl (answerable_of_roleCall hc)
  | testId _ hc => exact Or.inl (answerable_of_testIdCall hc)
  | attr _ hc => exact Or.inl (answerable_of_attributeCall? hc)

/-! ### Requests -/

theorem requests_cons (l : Language) (c : Call) (cs : List Call) :
    requests l (c :: cs) = c.requests l ++ requests l cs := by
  rw [requests]

/-- A call without a locator in it is asked for in the same way in all languages. -/
theorem forall₂_alike_of_answerable (h : c.Answerable) :
    List.Forall₂ (Alike l m) (c.requests l) (c.requests m) := by
  cases h
  simp only [Call.requests]
  exact .cons (Alike.refl _) .nil

/-- A combination is asked for after the calls of its chain, with the code of the chain. -/
theorem forall₂_alike_of_combined {combination : Combination} {chain : Chain} {inner : List Call}
    (hinner : calls .locator chain.parts = .ok inner)
    (h : List.Forall₂ (Alike l m) (requests l inner) (requests m inner)) :
    List.Forall₂ (Alike l m) ((Call.combined base combination inner).requests l)
      ((Call.combined base combination inner).requests m) := by
  have hrender : ∀ l, renderParts l .locator chain.parts = .ok (rendered l inner) := by
    intro l
    rw [renderParts_eq, hinner]
    rfl
  simp only [Call.requests]
  refine List.rel_append h (.cons ?_ .nil)
  exact ⟨rfl, rfl, rfl, Or.inr ⟨combination, chain, rendered l inner, rendered m inner, rfl,
    hrender l, rfl, hrender m, rfl⟩⟩

/-- The calls of a list of parts are alike when those of the chains in their bodies are. -/
theorem forall₂_alike_of_walk {ps : List Part} {cs : List Call}
    (hps : ∀ p ∈ ps, ∀ chain d inner, p.body = .nested chain d →
      calls .locator chain.parts = .ok inner →
      List.Forall₂ (Alike l m) (requests l inner) (requests m inner))
    (h : walk (fun c => calls .locator c.parts) base ps = .ok cs) :
    List.Forall₂ (Alike l m) (requests l cs) (requests m cs) := by
  have hraw : ∀ (base : Base) (kind : Kind) (p : Part), kind ≠ .role →
      List.Forall₂ (Alike l m) ((rawCall base kind p).requests l) ((rawCall base kind p).requests m) :=
    fun base kind p hkind => forall₂_alike_of_answerable (answerable_of_ne_role hkind _ _)
  -- the calls of the two languages grow together, by one call of the part at the head
  replace h := isWalk_of_walk h
  induction h with
  | nil => exact .nil
  | engine hc _ ih =>
    rw [requests_cons, requests_cons]
    refine List.rel_append ?_ (ih fun q hq => hps q (List.mem_cons_of_mem _ hq))
    rcases specialCall?_cases hc with hanswer | ⟨combination, chain, d, inner, hbody, hinner, rfl⟩
    · exact forall₂_alike_of_answerable hanswer
    · exact forall₂_alike_of_combined hinner (hps _ List.mem_cons_self chain d inner hbody hinner)
  | frame _ _ _ ih =>
    rw [requests_cons, requests_cons]
    exact List.rel_append (hraw _ _ _ (by decide))
      (ih fun r hr => hps r (List.mem_cons_of_mem _ (List.mem_cons_of_mem _ hr)))
  | text _ _ _ ih =>
    rw [requests_cons, requests_cons]
    exact List.rel_append (hraw _ _ _ (by decide)) (ih fun r hr => hps r (List.mem_cons_of_mem _ hr))

/-- The calls that two languages are asked for are alike, one by one and at every depth. -/
theorem forall₂_alike_of_calls {b : Base} {parts : List Part} {cs : List Call}
    (h : calls b parts = .ok cs) :
    List.Forall₂ (Alike l m) (requests l cs) (requests m cs) := by
  rw [calls_eq] at h
  refine forall₂_alike_of_walk (fun p hp chain d inner hbody hinner => ?_) h
  have hdepth := Part.depths_lt_of_nested hp hbody
  exact forall₂_alike_of_calls hinner
termination_by Part.depths parts

/-! ### Selectors -/

/-- **All languages agree on a selector.** Either it fails with one error in all of them, or all of them render it, by
calls that are alike one by one. -/
theorem asLocator_uniform (inFrame : Bool) (selector : Text) :
    (∃ e : Error, ∀ l, asLocator l inFrame selector = .error e ∧
      renderSelector l inFrame selector = .error (.translation e)) ∨
    ∃ r : Language → Rendered, ∀ l, asLocator l inFrame selector = .ok (r l).text ∧
      renderSelector l inFrame selector = .ok (r l) ∧
      ∀ m, List.Forall₂ (Alike l m) (r l).requests (r m).requests := by
  cases h : selectorCalls inFrame selector with
  | error e =>
    refine Or.inl ⟨e, fun l => ⟨?_, ?_⟩⟩
    · rw [asLocator, h]
      rfl
    · rw [renderSelector_eq, h]
      rfl
  | ok cs =>
    refine Or.inr ⟨fun l => rendered l cs, fun l => ⟨?_, ?_, fun m => ?_⟩⟩
    · rw [asLocator, h]
      rfl
    · rw [renderSelector_eq, h]
      rfl
    · unfold selectorCalls at h
      split at h
      · cases h
      · exact forall₂_alike_of_calls h

end SelectorCode
