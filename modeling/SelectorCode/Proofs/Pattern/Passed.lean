import SelectorCode.Proofs.Pattern.Refusal
import SelectorCode.Proofs.Pattern.Units

/-!
# What a reader has passed

The check reads tokens from left to right and passes them for good, apart from braces that stand for themselves. So what
is known of the tokens it has passed is known of all of them once it comes to the end: no backslash is left among them,
since a dangling one is a fault before it is taken, and between two items no class is open. Comments are the exception.
Their brackets are passed like any other character, so where a pattern may hold comments nothing is said about classes.

This module follows the readers up to the character classes, which are the only ones that pass an opening bracket.

## Main Definitions

* `MayComment`: tokens that may hold a comment.
* `IsClosed`: no class is open behind tokens, comments excepted.
* `IsRead`: tokens that have been read to the end.
* `Stopped`: the faults that are not reported at the end, and those that are.
* `Reaches`: how far the tokens have been read, and whether between two items.
* `Taken`: what is known behind a token that has been taken.

## Main Statements

* `take_reaches`, `takeChars_reaches`, `takeUntil_reaches`: what the steps on tokens pass.
* `readEscape_reaches`, `readClass_reaches`: behind escapes and character classes no class is open.
-/

namespace SelectorCode.Pattern

open Std.Do

set_option mvcgen.warning false

variable {ts us rest passed : List Token} {p p₀ q : Progress} {w : Place} {c : Char} {t : Token}
  {u : Text} {α : Type}

/-! ### Comments and classes -/

/-- Tokens that may hold a comment: one in parentheses, or one up to the end of a line, for which the flag `x` has to be
set somewhere. -/
def MayComment (ts : List Token) : Prop :=
  plain "(?#".toList <:+: ts ∨ ∃ letters : Text, 'x' ∈ letters ∧
    (∀ d ∈ letters, (InlineFlag.ofChar? d).isSome = true) ∧ plain ('(' :: '?' :: letters) <:+: ts

/-- No class is open behind the tokens passed, unless a comment may be among them. -/
def IsClosed (ts passed : List Token) : Prop :=
  isOpenAfter false passed = true → MayComment ts

/-- Tokens that have been read to the end. -/
structure IsRead (ts : List Token) : Prop where
  not_mem_dangling : .dangling ∉ ts
  isClosed : IsClosed ts ts

/-- A fault is not about the length of a look-behind, or it is reported at the end. -/
def Stopped (ts : List Token) (f : Fault) : Prop :=
  f.cause = .variableBehind → IsRead ts

/-- Without opening brackets no class is opened. -/
theorem isOpenAfter_of_not_mem (h : .char '[' ∉ us) : isOpenAfter false us = false := by
  induction us with
  | nil => rfl
  | cons x us ih =>
    have hx : x ≠ .char '[' := fun hx => h (List.mem_cons.2 (Or.inl hx.symm))
    rw [isOpenAfter_cons, classAfter_false hx, ih fun hus => h (List.mem_cons_of_mem x hus)]

theorem IsClosed.append (h : IsClosed ts passed) (hus : .char '[' ∉ us) :
    IsClosed ts (passed ++ us) := by
  intro hopen
  rw [isOpenAfter_append] at hopen
  cases hclass : isOpenAfter false passed with
  | true => exact h hclass
  | false =>
    rw [hclass, isOpenAfter_of_not_mem hus] at hopen
    cases hopen

/-- A closing bracket closes the class that is open. -/
theorem isClosed_append_bracket : IsClosed ts (passed ++ [.char ']']) := by
  intro hopen
  rw [isOpenAfter_append] at hopen
  cases hopen

/-! ### Conditions before and after a reader -/

/-- Where a reader stands: anywhere, or outside character classes. -/
inductive Place where
  | anywhere
  | outside

/-- A point that the tokens have been read up to, anywhere or where no class is open. -/
structure Reaches (ts : List Token) (w : Place) (p : Progress) : Prop where
  exists_passed : ∃ passed, passed ++ p.rest = ts ∧ .dangling ∉ passed ∧
    (w = .outside → IsClosed ts passed)
  head_ne : p.rest.head? ≠ some .dangling
  verbose : p.flags.verbose = true → MayComment ts

/-- The tokens have been read to a point with `Q`, or there is a fault. -/
abbrev reachingWith {α : Type} (ts : List Token) (w : Place) (Q : α → Progress → Prop) :
    PostCond α ReaderShape :=
  post⟨fun a p => ⌜Reaches ts w p ∧ Q a p⌝, fun f => ⌜Stopped ts f⌝⟩

/-- The tokens have been read up to a point. -/
abbrev reached (ts : List Token) (w : Place) : Assertion ReaderShape :=
  fun p => ⌜Reaches ts w p⌝

/-- The tokens have been read up to a point, or there is a fault. -/
abbrev reaching {α : Type} (ts : List Token) (w : Place) : PostCond α ReaderShape :=
  post⟨fun _ p => ⌜Reaches ts w p⌝, fun f => ⌜Stopped ts f⌝⟩

theorem Reaches.weaken (h : Reaches ts w p) : Reaches ts .anywhere p := by
  obtain ⟨passed, heq, hdangling, -⟩ := h.exists_passed
  exact ⟨⟨passed, heq, hdangling, Place.noConfusion⟩, h.head_ne, h.verbose⟩

/-- Where comments are possible, nothing is known of classes. -/
theorem Reaches.of_mayComment (h : Reaches ts .anywhere p) (hts : MayComment ts) :
    Reaches ts w p := by
  obtain ⟨passed, heq, hdangling, -⟩ := h.exists_passed
  exact ⟨⟨passed, heq, hdangling, fun _ _ => hts⟩, h.head_ne, h.verbose⟩

theorem Reaches.withGroups (h : Reaches ts w p) (g : Groups) :
    Reaches ts w { p with groups := g } :=
  ⟨h.exists_passed, h.head_ne, h.verbose⟩

/-- Passing tokens that hold no opening bracket. -/
theorem Reaches.forward (h : Reaches ts w p) (hrest : p.rest = us ++ q.rest)
    (hhead : q.rest.head? ≠ some .dangling) (hflags : q.flags = p.flags)
    (hdangling : .dangling ∉ us) (hus : w = .outside → .char '[' ∉ us) : Reaches ts w q := by
  obtain ⟨passed, heq, hpassed, hclosed⟩ := h.exists_passed
  refine ⟨⟨passed ++ us, ?_, ?_, fun hw => (hclosed hw).append (hus hw)⟩, hhead, ?_⟩
  · rw [List.append_assoc, ← hrest, heq]
  · exact fun hmem => (List.mem_append.1 hmem).elim hpassed hdangling
  · rw [hflags]
    exact h.verbose

/-- Passing a closing bracket. -/
theorem Reaches.forward_bracket (h : Reaches ts w p) (hrest : p.rest = .char ']' :: q.rest)
    (hhead : q.rest.head? ≠ some .dangling) (hflags : q.flags = p.flags) :
    Reaches ts .outside q := by
  obtain ⟨passed, heq, hpassed, -⟩ := h.exists_passed
  refine ⟨⟨passed ++ [.char ']'], ?_, ?_, fun _ => isClosed_append_bracket⟩, hhead, ?_⟩
  · rw [List.append_assoc, List.singleton_append, ← hrest, heq]
  · simpa using hpassed
  · rw [hflags]
    exact h.verbose

/-- Passing one token, where brackets make a difference. -/
theorem Reaches.next (h : Reaches ts w p) (hrest : p.rest = t :: q.rest)
    (hhead : q.rest.head? ≠ some .dangling) (hflags : q.flags = p.flags) :
    Reaches ts .anywhere q ∧ (t ≠ .char '[' → Reaches ts w q) ∧
      (t = .char ']' → Reaches ts .outside q) := by
  have hdangling : .dangling ∉ [t] := by
    intro hmem
    refine h.head_ne ?_
    rw [hrest, ← List.mem_singleton.1 hmem, List.head?_cons]
  refine ⟨h.weaken.forward hrest hhead hflags hdangling Place.noConfusion, fun ht => ?_,
    fun ht => ?_⟩
  · exact h.forward hrest hhead hflags hdangling fun _ hmem => ht (List.mem_singleton.1 hmem).symm
  · exact h.forward_bracket (ht ▸ hrest) hhead hflags

/-! ### Steps on tokens -/

theorem failAt_stopped {cause : Cause} {n : Nat} {Q : α → Progress → Prop} :
    ⦃fun _ => ⌜cause ≠ .variableBehind⌝⦄ (failAt cause n : Reader α)
    ⦃post⟨fun a p => ⌜Q a p⌝, fun f => ⌜Stopped ts f⌝⟩⦄ := by
  intro p h heq
  exact absurd heq h

theorem failHere_stopped {cause : Cause} {Q : α → Progress → Prop} :
    ⦃fun _ => ⌜cause ≠ .variableBehind⌝⦄ (failHere cause : Reader α)
    ⦃post⟨fun a p => ⌜Q a p⌝, fun f => ⌜Stopped ts f⌝⟩⦄ := by
  intro p h heq
  exact absurd heq h

theorem failWhole_stopped {cause : Cause} {Q : α → Progress → Prop} :
    ⦃fun _ => ⌜Stopped ts ⟨cause, none⟩⌝⦄ (failWhole cause : Reader α)
    ⦃post⟨fun a p => ⌜Q a p⌝, fun f => ⌜Stopped ts f⌝⟩⦄ := by
  intro p h
  exact h

/-- A step forward, which never comes to a dangling backslash. -/
theorem moveTo_reaches {n : Nat} :
    ⦃fun p => ⌜p = p₀⌝⦄ moveTo n rest
    ⦃post⟨fun _ p => ⌜p.rest = rest ∧ rest.head? ≠ some .dangling ∧ p.flags = p₀.flags⌝,
      fun f => ⌜Stopped ts f⌝⟩⦄ := by
  mvcgen [moveTo, failHere_stopped, -failHere_spec, -moveTo_spec] with subst_vars
  next hhead => exact ⟨rfl, hhead, rfl⟩

/-- A token, if there was one, has been taken from a point that the tokens had been read up to. -/
structure Taken (ts : List Token) (w : Place) (p₀ : Progress) (a : Option Token) (p : Progress) :
    Prop where
  reaches : Reaches ts .anywhere p
  eq_head? : a = p₀.rest.head?
  rest_eq : p.rest = p₀.rest.tail
  passes : a ≠ some (.char '[') → Reaches ts w p
  closes : a = some (.char ']') → Reaches ts .outside p

theorem Taken.passes_char (h : Taken ts w p₀ (some t) p) (ht : t = .char c) (hc : c ≠ '[') :
    Reaches ts w p := by
  refine h.passes fun hbracket => hc ?_
  rw [ht] at hbracket
  exact Token.char.inj (Option.some.inj hbracket)

/-- What taking a token passes: brackets make a difference. -/
theorem take_reaches (h : Reaches ts w p₀) :
    ⦃fun p => ⌜p = p₀⌝⦄ take
    ⦃post⟨fun a p => ⌜Taken ts w p₀ a p⌝, fun f => ⌜Stopped ts f⌝⟩⦄ := by
  mvcgen [take, moveTo_reaches, -moveTo_spec, -take_spec] with subst_vars
  case h_1 hnil =>
    exact ⟨h.weaken, by rw [hnil]; rfl, by rw [hnil]; rfl, fun _ => h, fun h => by cases h⟩
  case h_2.post.success p t r hcons _ q hq =>
    have hrest : p.rest = t :: q.rest := by rw [hcons, hq.1]
    have hpass := h.next hrest (hq.1.symm ▸ hq.2.1) hq.2.2
    refine ⟨hpass.1, by rw [hrest]; rfl, by rw [hrest]; rfl, fun ht => ?_, fun ht => ?_⟩
    · exact hpass.2.1 fun heq => ht (congrArg some heq)
    · exact hpass.2.2 (Option.some.inj ht)

/-- A character that is accepted stood there. -/
theorem accept_reaches (h : Reaches ts w p₀) (hc : c ≠ '[') :
    ⦃fun p => ⌜p = p₀⌝⦄ accept c
    ⦃reachingWith ts w fun a p => a = true → p₀.rest = .char c :: p.rest⦄ := by
  mvcgen [accept, next?, take_reaches, -take_spec, -accept_spec] with subst_vars
  case h => exact h
  case isTrue.post.success hhead _ q hq =>
    have hcons := List.cons_head?_tail hhead
    rw [← hq.rest_eq] at hcons
    have ha := hq.eq_head?.trans hhead
    exact ⟨(ha ▸ hq).passes_char rfl hc, hcons.symm⟩
  case isFalse => exact ⟨h, Bool.noConfusion⟩

theorem accept_passes (hc : c ≠ '[') : ⦃reached ts w⦄ accept c ⦃reaching ts w⦄ := by
  have haccept {p₀ : Progress} := @accept_reaches ts p₀ w
  mvcgen [haccept, -accept_spec]
  · exact fun hp _ => hp
  · exact fun _ h => h
  · exact fun _ _ => hc

section

variable {test : Char → Bool} {limit : Nat}

theorem not_mem_plain (h : c ∉ u) : .char c ∉ plain u := by
  intro hmem
  obtain ⟨d, hd, heq⟩ := List.mem_map.1 hmem
  exact h (Token.char.inj heq ▸ hd)

theorem dangling_not_mem_plain : .dangling ∉ plain u := by
  intro hmem
  obtain ⟨d, -, heq⟩ := List.mem_map.1 hmem
  cases heq

theorem takeChars_reaches (htest : test '[' = false) :
    ⦃reached ts w⦄ takeChars test limit ⦃reaching ts w⦄ := by
  mvcgen [takeChars, moveTo_reaches, -moveTo_spec, -takeChars_spec]
  next p h _ _ q hq =>
    have hnone : '[' ∉ (spanChars test limit p.rest).1 := by
      intro hmem
      have htrue := List.all_eq_true.1 all_spanChars _ hmem
      rw [htest] at htrue
      cases htrue
    have hrest : p.rest = plain (spanChars test limit p.rest).1 ++ q.rest := by
      rw [hq.1, spanChars_append]
    exact h.forward hrest (hq.1.symm ▸ hq.2.1) hq.2.2 dangling_not_mem_plain
      fun _ => not_mem_plain hnone

theorem takeAllChars_reaches (htest : test '[' = false) :
    ⦃reached ts w⦄ takeAllChars test ⦃reaching ts w⦄ := by
  mvcgen [takeAllChars, takeChars_reaches, -takeChars_spec]

end

/-- What stands before a character and the character itself. -/
theorem exists_splitAt (c : Char) (ts : List Token) :
    ∃ us, ts = us ++ (splitAt c ts).2.1 ∧ .dangling ∉ us ∧
      ∀ d, .char d ∈ us → d ∈ (splitAt c ts).1 ∨ d = c := by
  fun_induction splitAt c ts with
  | case1 => exact ⟨[], rfl, List.not_mem_nil, fun _ h => absurd h List.not_mem_nil⟩
  | case2 r => exact ⟨[], rfl, List.not_mem_nil, fun _ h => absurd h List.not_mem_nil⟩
  | case3 t r => exact ⟨[.char c], rfl, by simp, by simp⟩
  | case4 t r hdangling _ before rest found hsplit ih =>
    obtain ⟨us, heq, hus, hmem⟩ := ih
    rw [hsplit] at heq hmem
    refine ⟨t :: us, congrArg (t :: ·) heq, ?_, fun d hd => ?_⟩
    · exact fun h => (List.mem_cons.1 h).elim (fun h => hdangling h.symm) hus
    · rcases List.mem_cons.1 hd with rfl | hd
      · exact Or.inl (List.mem_append_left _ List.mem_cons_self)
      · exact (hmem d hd).imp_left (List.mem_append_right _)

/-- Up to a character everything is passed, opening brackets included. -/
theorem takeUntil_reaches (hc : c ≠ '[') :
    ⦃reached ts w⦄ takeUntil c
    ⦃reachingWith ts .anywhere fun a p => '[' ∉ a.1 → Reaches ts w p⦄ := by
  mvcgen [takeUntil, moveTo_reaches, -moveTo_spec, -takeUntil_spec]
  next p h _ q hq =>
    obtain ⟨us, hrest, hdangling, hmem⟩ := exists_splitAt c p.rest
    rw [← hq.1] at hrest
    refine ⟨h.weaken.forward hrest (hq.1.symm ▸ hq.2.1) hq.2.2 hdangling Place.noConfusion,
      fun hnone => ?_⟩
    exact h.forward hrest (hq.1.symm ▸ hq.2.1) hq.2.2 hdangling
      fun _ hopen => (hmem '[' hopen).elim hnone (Ne.symm hc)

theorem takeName_reaches (hc : c ≠ '[') :
    ⦃reached ts w⦄ takeName c
    ⦃reachingWith ts .anywhere fun name p => '[' ∉ name → Reaches ts w p⦄ := by
  mvcgen [takeName, position, takeUntil_reaches, failAt_stopped, -failAt_spec, -takeUntil_spec,
    -takeName_spec]
  rintro ⟨⟩

/-! ### Escapes -/

theorem readHex_reaches {start digits : Nat} :
    ⦃reached ts w⦄ readHex start c digits ⦃reaching ts w⦄ := by
  mvcgen [readHex, takeChars_reaches, failAt_stopped, -takeChars_spec, -failAt_spec, -readHex_spec]
  all_goals rintro ⟨⟩

theorem checkBehind_reaches {number : Nat} :
    ⦃reached ts w⦄ checkBehind number ⦃reaching ts w⦄ := by
  mvcgen [checkBehind, failHere_stopped, -failHere_spec, -checkBehind_spec]

theorem readReference_reaches {start : Nat} {digits : Text} :
    ⦃reached ts w⦄ readReference start digits ⦃reaching ts w⦄ := by
  mvcgen [readReference, checkBehind_reaches, failAt_stopped, -checkBehind_spec, -failAt_spec,
    -readReference_spec]
  all_goals rintro ⟨⟩

theorem readNumericEscape_reaches {start : Nat} :
    ⦃reached ts w⦄ readNumericEscape start c ⦃reaching ts w⦄ := by
  mvcgen [readNumericEscape, takeChars_reaches, readReference_reaches, failAt_stopped,
    -takeChars_spec, -readReference_spec, -failAt_spec, -readNumericEscape_spec]
  all_goals rintro ⟨⟩

/-- Escapes take no brackets. -/
theorem readEscape_reaches : ⦃reached ts w⦄ readEscape c ⦃reaching ts w⦄ := by
  unfold readEscape
  generalize "AbBZ".toList.contains c = isAnchor
  generalize "dDsSwWafnrtv\\".toList.contains c = isSingle
  mvcgen [position, readHex_reaches, takeChars_reaches, readNumericEscape_reaches, failAt_stopped,
    -readHex_spec, -takeChars_spec, -readNumericEscape_spec, -failAt_spec]
  all_goals rintro ⟨⟩

/-! ### Character classes -/

theorem readClassEscape_reaches : ⦃reached ts w⦄ readClassEscape c ⦃reaching ts w⦄ := by
  unfold readClassEscape
  generalize "dDsSwW".toList.contains c = isCategory
  mvcgen [position, readHex_reaches, takeChars_reaches, failAt_stopped, -readHex_spec,
    -takeChars_spec, -failAt_spec]
  all_goals rintro ⟨⟩

theorem readMember_reaches : ⦃reached ts w⦄ readMember t ⦃reaching ts w⦄ := by
  cases t with
  | char c => mvcgen [readMember, -readMember_spec]
  | escape c =>
    mvcgen [readMember, readClassEscape_reaches, -readClassEscape_spec, -readMember_spec]
  | dangling => mvcgen [readMember, -readMember_spec]

/-- In a class only the closing bracket matters. -/
theorem take_inside :
    ⦃reached ts .anywhere⦄ take
    ⦃reachingWith ts .anywhere fun a p => a = some (.char ']') → Reaches ts .outside p⦄ := by
  have htake {p₀ : Progress} := @take_reaches ts p₀ .anywhere
  mvcgen [htake, -take_spec]
  · exact fun htaken => ⟨htaken.reaches, htaken.closes⟩
  · exact fun _ h => h

/-- The members of a class end with the bracket that closes it. -/
theorem readMembers_reaches {start fuel : Nat} {isFirst : Bool} :
    ⦃reached ts .anywhere⦄ readMembers start fuel isFirst ⦃reaching ts .outside⦄ := by
  induction fuel generalizing isFirst with
  | zero => mvcgen [readMembers, failAt_stopped, -failAt_spec, -readMembers_spec]
  | succ fuel ih =>
    mvcgen [readMembers, position, take_inside, accept_passes, readMember_reaches, failAt_stopped,
      ih, -take_spec, -accept_spec, -readMember_spec, -failAt_spec, -readMembers_spec]
    -- a bracket closes the class, be it where a member begins or where a range ends
    case h_2.isTrue hclose q hq =>
      exact hq.2 (congrArg some (of_decide_eq_true ((Bool.and_eq_true _ _).mp hclose).1))
    case h_2.isFalse.pre hq => exact hq.1
    case h_2.isTrue hclose q hq => exact hq.2 (congrArg some hclose)
    case h_2.isFalse.pre hq => exact hq.1
    rintro ⟨⟩

/-- Behind a character class no class is open. -/
theorem readClass_reaches {start : Nat} :
    ⦃reached ts .anywhere⦄ readClass start ⦃reaching ts .outside⦄ := by
  mvcgen [readClass, accept_passes, readMembers_reaches, -accept_spec, -readMembers_spec,
    -readClass_spec]

end SelectorCode.Pattern
