import Mathlib
import SelectorCode.Pattern.Checked

/-!
# Patterns that exceed a limit

Almost everything that keeps a pattern from being accepted is a mistake in it. Three things are not: a bound of a
repetition that is too large, one that has too many digits, and two flags for the whole pattern that exclude each other.
This module says what the tokens of a pattern hold in these cases, and follows the readers up to the character classes:
whatever they do, the fault they end with is a mistake or is borne out by the tokens.

## Main Definitions

* `Exceeds`: what the tokens of a pattern hold when it is refused for something else than a mistake.
* `Founded`: the faults that are mistakes or are borne out by the tokens.
* `Stands`: how far the tokens have been read, and which flags they have set.
* `reading`, `passing`, `passingWith`: the conditions before and after a reader.

## Main Statements

* `take_moves`, `accept_moves`, `takeChars_moves`: what the steps on tokens take.
* `readEscape_spec`, `readClass_spec`: escapes and character classes have no other faults than mistakes.
-/

namespace SelectorCode.Pattern

open Std.Do

set_option mvcgen.warning false

/-! ### What the tokens hold -/

/-- Characters that are not escaped, as tokens. -/
def plain (t : Text) : List Token :=
  t.map .char

/-- Digits between the braces of a repetition. -/
structure IsBound (ts : List Token) (digits : Text) : Prop where
  all_isDigit : digits.all Char.isDigit = true
  exists_bounds : ∃ bounds : Text, digits <:+: bounds ∧
    (∀ c ∈ bounds, c.isDigit = true ∨ c = ',') ∧ plain ('\x7b' :: bounds ++ ['\x7d']) <:+: ts

/-- A letter among the flags that are set for the whole pattern. -/
def SetsFlag (ts : List Token) (c : Char) : Prop :=
  ∃ letters : Text, c ∈ letters ∧ (∀ d ∈ letters, (InlineFlag.ofChar? d).isSome = true) ∧
    plain ('(' :: '?' :: letters ++ [')']) <:+: ts

/-- What the tokens of a pattern hold when it is refused for something else than a mistake. -/
inductive Exceeds (ts : List Token) : Cause → Prop
  | largeBound {digits : Text} (bound : IsBound ts digits)
      (large : boundLimit ≤ valueIn 10 digits) : Exceeds ts .largeBound
  | longBound {digits : Text} (bound : IsBound ts digits)
      (long : Number.digitLimit < digits.length) : Exceeds ts .longBound
  | clashingGlobalFlags (ascii : SetsFlag ts 'a') (unicode : SetsFlag ts 'u') :
      Exceeds ts .clashingGlobalFlags

/-- A fault that is a mistake, or for which the tokens hold the reason. -/
def Founded (ts : List Token) (f : Fault) : Prop :=
  f.cause.kind = .invalidSelector ∨ Exceeds ts f.cause

/-! ### Conditions before and after a reader -/

/-- A point that the tokens have been read up to: the flags set so far are written in them. -/
structure Stands (ts : List Token) (p : Progress) : Prop where
  rest_suffix : p.rest <:+ ts
  ascii : p.flags.ascii = true → SetsFlag ts 'a'
  unicode : p.flags.unicode = true → SetsFlag ts 'u'

/-- The shape of conditions on readers: on the progress, and on the fault where there is one. -/
abbrev ReaderShape : PostShape :=
  .arg Progress (.except Fault .pure)

/-- The tokens are being read. -/
abbrev reading (ts : List Token) : Assertion ReaderShape :=
  fun p => ⌜Stands ts p⌝

/-- The tokens are still being read, and `Q` holds of the answer; or there is a fault with a reason in them. -/
abbrev passingWith {α : Type} (ts : List Token) (Q : α → Progress → Prop) :
    PostCond α ReaderShape :=
  post⟨fun a p => ⌜Stands ts p ∧ Q a p⌝, fun f => ⌜Founded ts f⌝⟩

/-- The tokens are still being read, or there is a fault with a reason in them. -/
abbrev passing {α : Type} (ts : List Token) : PostCond α ReaderShape :=
  post⟨fun _ p => ⌜Stands ts p⌝, fun f => ⌜Founded ts f⌝⟩

variable {ts : List Token} {p p₀ : Progress} {α : Type}

theorem Stands.forward (h : Stands ts p) {rest : List Token} (hrest : rest <:+ ts) (n : Nat) :
    Stands ts { p with rest := rest, position := n } :=
  ⟨hrest, h.ascii, h.unicode⟩

theorem Stands.withGroups (h : Stands ts p) (g : Groups) : Stands ts { p with groups := g } :=
  ⟨h.rest_suffix, h.ascii, h.unicode⟩

/-! ### Steps on tokens -/

@[spec]
theorem failAt_spec {cause : Cause} {n : Nat} {Q : α → Progress → Prop} :
    ⦃fun _ => ⌜cause.kind = .invalidSelector⌝⦄ (failAt cause n : Reader α)
    ⦃post⟨fun a p => ⌜Q a p⌝, fun f => ⌜Founded ts f⌝⟩⦄ := by
  intro p h
  exact Or.inl h

@[spec]
theorem failHere_spec {cause : Cause} {Q : α → Progress → Prop} :
    ⦃fun _ => ⌜cause.kind = .invalidSelector⌝⦄ (failHere cause : Reader α)
    ⦃post⟨fun a p => ⌜Q a p⌝, fun f => ⌜Founded ts f⌝⟩⦄ := by
  intro p h
  exact Or.inl h

@[spec]
theorem failWhole_spec {cause : Cause} {Q : α → Progress → Prop} :
    ⦃fun _ => ⌜Founded ts ⟨cause, none⟩⌝⦄ (failWhole cause : Reader α)
    ⦃post⟨fun a p => ⌜Q a p⌝, fun f => ⌜Founded ts f⌝⟩⦄ := by
  intro p h
  exact h

@[spec]
theorem moveTo_spec {n : Nat} {rest : List Token} (h : Stands ts p₀) (hrest : rest <:+ ts) :
    ⦃fun p => ⌜p = p₀⌝⦄ moveTo n rest ⦃passingWith ts fun _ p => p.rest = rest⦄ := by
  mvcgen [moveTo] with subst_vars
  exact ⟨h.forward hrest _, rfl⟩

/-- Taking a token answers the first one and leaves the others. -/
theorem take_moves (h : Stands ts p₀) :
    ⦃fun p => ⌜p = p₀⌝⦄ take
    ⦃passingWith ts fun a p => a = p₀.rest.head? ∧ p.rest = p₀.rest.tail⦄ := by
  mvcgen [take] with subst_vars
  case h_1 hnil => simp [hnil, h]
  case h => exact h
  case hrest t r hcons => exact (List.suffix_cons t r).trans (hcons ▸ h.rest_suffix)
  case h_2.post.success t r hcons _ _ hq => simp [hcons, hq]

@[spec]
theorem take_spec : ⦃reading ts⦄ take ⦃passing ts⦄ := by
  mvcgen [take_moves]
  · exact fun h _ _ => h
  · exact fun _ h => h

/-- A character that is accepted stood there; otherwise nothing is taken. -/
theorem accept_moves {c : Char} (h : Stands ts p₀) :
    ⦃fun p => ⌜p = p₀⌝⦄ accept c
    ⦃passingWith ts fun a p =>
      (a = true → p₀.rest = .char c :: p.rest) ∧ (a = false → p = p₀)⦄ := by
  mvcgen [accept, next?, take_moves, -take_spec] with subst_vars
  case h => exact h
  case isTrue.post.success hhead _ q hq =>
    have hcons := List.cons_head?_tail hhead
    rw [← hq.2.2] at hcons
    exact ⟨hq.1, hcons.symm, fun h => Bool.noConfusion h⟩
  case isFalse => exact ⟨h, fun h => Bool.noConfusion h, rfl⟩

@[spec]
theorem accept_spec {c : Char} : ⦃reading ts⦄ accept c ⦃passing ts⦄ := by
  mvcgen [accept, next?]

section

variable {test : Char → Bool} {limit : Nat} {u : List Token}

theorem spanChars_append :
    plain (spanChars test limit u).1 ++ (spanChars test limit u).2 = u := by
  fun_induction spanChars test limit u with
  | case1 limit c r hc t rest hspan ih =>
    rw [hspan] at ih
    exact congrArg (Token.char c :: ·) ih
  | case2 => rfl
  | case3 => rfl

theorem all_spanChars : (spanChars test limit u).1.all test = true := by
  fun_induction spanChars test limit u with
  | case1 limit c r hc t rest hspan ih =>
    rw [hspan] at ih
    rw [List.all_cons, hc, ih, Bool.true_and]
  | case2 => rfl
  | case3 => rfl

/-- The characters taken stood there, and satisfy the test. -/
theorem takeChars_moves (h : Stands ts p₀) :
    ⦃fun p => ⌜p = p₀⌝⦄ takeChars test limit
    ⦃passingWith ts fun t p => p₀.rest = plain t ++ p.rest ∧ t.all test = true⦄ := by
  mvcgen [takeChars] with subst_vars
  case isTrue => exact ⟨h, rfl, rfl⟩
  case h => exact h
  case hrest =>
    refine List.IsSuffix.trans ?_ h.rest_suffix
    exact ⟨_, spanChars_append⟩
  case isFalse.post.success hq =>
    refine ⟨hq.1, ?_, all_spanChars⟩
    rw [hq.2, spanChars_append]

@[spec]
theorem takeChars_spec : ⦃reading ts⦄ takeChars test limit ⦃passing ts⦄ := by
  mvcgen [takeChars_moves]
  · exact fun h _ _ => h
  · exact fun _ h => h

theorem takeAllChars_moves (h : Stands ts p₀) :
    ⦃fun p => ⌜p = p₀⌝⦄ takeAllChars test
    ⦃passingWith ts fun t p => p₀.rest = plain t ++ p.rest ∧ t.all test = true⦄ := by
  mvcgen [takeAllChars, takeChars_moves, -takeChars_spec]

end

theorem splitAt_suffix {c : Char} {u : List Token} : (splitAt c u).2.1 <:+ u := by
  fun_induction splitAt c u with
  | case1 => exact List.suffix_rfl
  | case2 => exact List.suffix_rfl
  | case3 => exact List.suffix_cons _ _
  | case4 t r _ _ before rest found hsplit ih =>
    rw [hsplit] at ih
    exact ih.trans (List.suffix_cons _ _)

@[spec]
theorem takeUntil_spec {c : Char} : ⦃reading ts⦄ takeUntil c ⦃passing ts⦄ := by
  mvcgen [takeUntil]
  case hrest h => exact splitAt_suffix.trans h.rest_suffix
  case post.success h => exact h.1

@[spec]
theorem takeName_spec {c : Char} : ⦃reading ts⦄ takeName c ⦃passing ts⦄ := by
  mvcgen [takeName, position]

/-! ### Escapes -/

@[spec]
theorem readHex_spec {start digits : Nat} {c : Char} :
    ⦃reading ts⦄ readHex start c digits ⦃passing ts⦄ := by
  mvcgen [readHex]

@[spec]
theorem checkBehind_spec {number : Nat} : ⦃reading ts⦄ checkBehind number ⦃passing ts⦄ := by
  mvcgen [checkBehind]

@[spec]
theorem readReference_spec {start : Nat} {digits : Text} :
    ⦃reading ts⦄ readReference start digits ⦃passingWith ts fun i _ => i.issue = none⦄ := by
  mvcgen [readReference]

@[spec]
theorem readNumericEscape_spec {start : Nat} {c : Char} :
    ⦃reading ts⦄ readNumericEscape start c ⦃passingWith ts fun i _ => i.issue = none⦄ := by
  mvcgen [readNumericEscape]

/-- An escape is an item without an issue, and its faults are mistakes. -/
@[spec]
theorem readEscape_spec {c : Char} :
    ⦃reading ts⦄ readEscape c ⦃passingWith ts fun i _ => i.issue = none⦄ := by
  unfold readEscape
  -- which characters these are does not matter
  generalize "AbBZ".toList.contains c = isAnchor
  generalize "dDsSwWafnrtv\\".toList.contains c = isSingle
  mvcgen [position]

/-! ### Character classes -/

@[spec]
theorem readClassEscape_spec {c : Char} :
    ⦃reading ts⦄ readClassEscape c ⦃passing ts⦄ := by
  unfold readClassEscape
  generalize "dDsSwW".toList.contains c = isCategory
  mvcgen [position]

@[spec]
theorem readMember_spec {t : Token} : ⦃reading ts⦄ readMember t ⦃passing ts⦄ := by
  cases t with
  | char c => mvcgen [readMember]
  | escape c => mvcgen [readMember]
  | dangling => mvcgen [readMember]

@[spec]
theorem readMembers_spec {start fuel : Nat} {isFirst : Bool} :
    ⦃reading ts⦄ readMembers start fuel isFirst ⦃passing ts⦄ := by
  induction fuel generalizing isFirst with
  | zero => mvcgen [readMembers]
  | succ fuel ih => mvcgen [readMembers, position, ih]

/-- A character class is an item without an issue, and its faults are mistakes. -/
@[spec]
theorem readClass_spec {start : Nat} :
    ⦃reading ts⦄ readClass start ⦃passingWith ts fun i _ => i.issue = none⦄ := by
  mvcgen [readClass]

end SelectorCode.Pattern
