import SelectorCode.Proofs.Outcome
import SelectorCode.Proofs.Pattern.Openings

/-!
# Why patterns are refused

Beyond the openings of groups two things can go wrong without a mistake: the bounds of a repetition are numbers, which
may be too large or have too many digits, and the flags for the whole pattern are compared when it has been read. Issues
that are reported at the end travel with the parts, so every reader is shown to pass on none but mistakes.

## Main Definitions

* `IsMistake`, `AreMistakes`: issues that are mistakes.
* `ReadsWell`: what the readers of sequences keep to, up to a depth.
* `SourceExceeds`: a source whose pattern exceeds a limit.

## Main Statements

* `readBraces_spec`: bounds that are refused stand between the braces.
* `readsWell`: the readers of sequences, groups and alternatives keep to their conditions at every depth.
* `founded_of_check`: the fault of a pattern is a mistake, or its tokens hold the reason.
* `sourceExceeds_of_ofSource`: the same of a source with its flags.
-/

namespace SelectorCode.Pattern

open Std.Do

set_option mvcgen.warning false

variable {ts rest : List Token} {t : Token} {p : Progress} {α : Type}

/-! ### Issues -/

/-- The issue, if there is one, is a mistake. -/
def IsMistake (issue : Option Cause) : Prop :=
  ∀ c ∈ issue, c.kind = .invalidSelector

/-- The issues of items, where they have one, are mistakes. -/
def AreMistakes (items : List Item) : Prop :=
  ∀ i ∈ items, IsMistake i.issue

@[grind .]
theorem isMistake_none : IsMistake none := by
  intro c hc
  cases hc

theorem isMistake_some {c : Cause} (h : c.kind = .invalidSelector) : IsMistake (some c) := by
  intro d hd
  cases hd
  exact h

@[grind .]
theorem areMistakes_nil : AreMistakes [] := by
  intro i hi
  cases hi

@[grind =]
theorem areMistakes_cons {i : Item} {is : List Item} :
    AreMistakes (i :: is) ↔ IsMistake i.issue ∧ AreMistakes is :=
  List.forall_mem_cons

/-! ### Bounds -/

section

variable {after : List Token} {low high digits : Text} {start : Nat}

/-- A bound is refused only for its size, so it has to be known to stand between braces. -/
theorem readBound_spec :
    ⦃fun p => ⌜Stands ts p ∧ IsBound ts digits⌝⦄ readBound digits ⦃passing ts⦄ := by
  mvcgen [readBound]
  case isTrue h => exact h.1
  case isFalse.isTrue hlong p h => exact Or.inr (.longBound h.2 hlong)
  case isFalse.isFalse.isTrue hlarge p h => exact Or.inr (.largeBound h.2 hlarge)
  case isFalse.isFalse.isFalse h => exact h.1

/-- The tokens `rest` begin with two bounds of a repetition, or with one that counts twice, and go on with `after`. -/
structure HoldsBounds (rest after : List Token) (low high : Text) : Prop where
  low_all_isDigit : low.all Char.isDigit = true
  high_all_isDigit : high.all Char.isDigit = true
  exists_bounds : ∃ bounds : Text, rest = plain bounds ++ after ∧ low <:+: bounds ∧
    high <:+: bounds ∧ ∀ c ∈ bounds, c.isDigit = true ∨ c = ','

theorem holdsBounds_single (hlow : low.all Char.isDigit = true) :
    HoldsBounds (plain low ++ after) after low low :=
  ⟨hlow, hlow, low, rfl, List.infix_rfl, List.infix_rfl,
    fun c hc => Or.inl (List.all_eq_true.1 hlow c hc)⟩

theorem holdsBounds_pair (hlow : low.all Char.isDigit = true)
    (hhigh : high.all Char.isDigit = true) :
    HoldsBounds (plain low ++ .char ',' :: (plain high ++ after)) after low high := by
  refine ⟨hlow, hhigh, low ++ ',' :: high, by simp [plain],
    (List.prefix_append _ _).isInfix, ⟨low ++ [','], [], by simp⟩, fun c hc => ?_⟩
  rcases List.mem_append.1 hc with hc | hc
  · exact Or.inl (List.all_eq_true.1 hlow c hc)
  · rcases List.mem_cons.1 hc with rfl | hc
    · exact Or.inr rfl
    · exact Or.inl (List.all_eq_true.1 hhigh c hc)

/-- Between braces these are bounds of the pattern. -/
theorem HoldsBounds.isBound (h : HoldsBounds rest (.char '\x7d' :: after) low high)
    (hopen : .char '\x7b' :: rest <:+ ts) : IsBound ts low ∧ IsBound ts high := by
  obtain ⟨bounds, rfl, hlow, hhigh, hbounds⟩ := h.exists_bounds
  have hbraces : plain ('\x7b' :: bounds ++ ['\x7d']) <:+: ts := by
    refine List.IsInfix.trans ⟨[], after, ?_⟩ hopen.isInfix
    simp [plain]
  exact ⟨⟨h.low_all_isDigit, bounds, hlow, hbounds, hbraces⟩,
    ⟨h.high_all_isDigit, bounds, hhigh, hbounds, hbraces⟩⟩

/-- The second bound stands behind a comma, or nothing is taken and it is the first one. -/
theorem readSecondBound_moves {p₀ : Progress} (h : Stands ts p₀)
    (hlow : low.all Char.isDigit = true) :
    ⦃fun p => ⌜p = p₀⌝⦄ readSecondBound low
    ⦃passingWith ts fun high p => HoldsBounds (plain low ++ p₀.rest) p.rest low high⦄ := by
  mvcgen [readSecondBound, accept_moves, takeAllChars_moves, -accept_spec] with subst_vars
  case post.success.isTrue.post.success p₁ high p₂ hcomma =>
    intro hp₂ hrest hhigh
    rw [hcomma.2.1 rfl, hrest]
    exact ⟨hp₂, holdsBounds_pair hlow hhigh⟩
  case post.success.isFalse accepted hcomma p₁ hnone =>
    obtain rfl := hnone.2.2 (Bool.not_eq_true _ ▸ hcomma)
    exact ⟨hnone.1, holdsBounds_single hlow⟩
  all_goals grind

theorem readBoundPair_spec :
    ⦃fun p => ⌜Stands ts p ∧ IsBound ts low ∧ IsBound ts high⌝⦄ readBoundPair start low high
    ⦃passing ts⦄ := by
  mvcgen [readBoundPair, readBound_spec]
  case pre h => exact ⟨h.1, h.2.1⟩
  case post.success.pre h least p hp => exact ⟨hp, h.2.2⟩

/-- The bounds of a repetition are refused only for what stands between its braces. -/
theorem readBraces_spec :
    ⦃fun p => ⌜Stands ts p ∧ .char '\x7b' :: p.rest <:+ ts⌝⦄ readBraces ⦃passing ts⦄ := by
  mvcgen [readBraces, accept_moves, takeAllChars_moves, readSecondBound_moves, readBoundPair_spec,
    -accept_spec] with subst_vars
  case isTrue.pre p h hfirst low p₁ hlow high p₂ hhigh p₃ hclose =>
    have hbounds : HoldsBounds p.rest (.char '\x7d' :: p₃.rest) low high := by
      rw [hlow.2.1, ← hclose.2.1 rfl]
      exact hhigh.2
    exact ⟨hclose.1, hbounds.isBound h.2⟩
  all_goals grind

end

/-! ### Repetitions -/

section

variable {start least : Nat} {greatest : Option Nat} {c : Char} {last : Item} {items : List Item}

theorem readBounds_spec (hc : c = '*' ∨ c = '+' ∨ c = '?' ∨ c = '\x7b') :
    ⦃fun p => ⌜Stands ts p ∧ .char c :: p.rest <:+ ts⌝⦄ readBounds c ⦃passing ts⦄ := by
  mvcgen [readBounds, readBraces_spec]
  all_goals grind

@[spec]
theorem readGreed_spec : ⦃reading ts⦄ readGreed ⦃passing ts⦄ := by
  mvcgen [readGreed]

/-- A repetition of an item has no other issue than the item or the template flag. -/
theorem repeatItem_spec :
    ⦃fun p => ⌜Stands ts p ∧ IsMistake last.issue⌝⦄ repeatItem last least greatest
    ⦃passingWith ts fun i _ => IsMistake i.issue⦄ := by
  mvcgen [repeatItem]
  case pre h => exact h.1
  case post.success h greed p hp issue =>
    refine ⟨hp, ?_⟩
    unfold issue
    split
    · exact isMistake_some rfl
    · exact h.2

theorem readRepetition_spec (hc : c = '*' ∨ c = '+' ∨ c = '?' ∨ c = '\x7b') :
    ⦃fun p => ⌜(Stands ts p ∧ .char c :: p.rest <:+ ts) ∧ AreMistakes items⌝⦄
    readRepetition start c items ⦃passingWith ts fun is _ => AreMistakes is⦄ := by
  mvcgen [readRepetition, readBounds_spec, repeatItem_spec] with subst_vars
  case pre h => exact h.1
  -- the item that is repeated is the first of the items, which `areMistakes_cons` takes apart
  all_goals grind [Item.single]

end

/-! ### Groups -/

@[spec]
theorem openGroup_spec {name : Option (Text × Nat)} : ⦃reading ts⦄ openGroup name ⦃passing ts⦄ := by
  mvcgen [openGroup]
  case h_1 h groups number _ _ opened => exact h.withGroups _
  case h_2.h_2 h groups number _ name start _ _ opened => exact h.withGroups _

@[spec]
theorem closeGroup_spec {number : Nat} {w : Width} :
    ⦃reading ts⦄ closeGroup number w ⦃passing ts⦄ := by
  mvcgen [closeGroup]
  next h _ => exact h.withGroups _

@[spec]
theorem closeParenthesis_spec {start : Nat} : ⦃reading ts⦄ closeParenthesis start ⦃passing ts⦄ := by
  mvcgen [closeParenthesis]

@[spec]
theorem skipLine_spec : ⦃reading ts⦄ skipLine ⦃passing ts⦄ := by
  mvcgen [skipLine]

/-! ### Sequences and alternatives -/

theorem isMistake_ofItems {items : List Item} (h : AreMistakes items) :
    IsMistake (Part.ofItems items).issue := by
  intro c hc
  obtain ⟨i, hi, hissue⟩ := List.exists_of_findSome?_eq_some hc
  exact h i (List.mem_reverse.1 hi) c hissue

section

variable {a b : Part}

theorem isMistake_either (ha : IsMistake a.issue) (hb : IsMistake b.issue) :
    IsMistake (a.either b).issue := by
  intro c hc
  rcases (Option.orElse_eq_some _ _ _).1 hc with hc | ⟨-, hc⟩
  · exact ha c hc
  · exact hb c hc

theorem isMistake_lookBehind (h : IsMistake a.issue) : IsMistake a.lookBehind.issue := by
  unfold Part.lookBehind
  split
  · exact isMistake_some rfl
  · split
    · exact isMistake_some rfl
    · exact h

theorem isMistake_conditional {no : Option Part} (ha : IsMistake a.issue)
    (hno : ∀ b ∈ no, IsMistake b.issue) : IsMistake (Part.conditional a no).issue := by
  cases no with
  | none => exact ha
  | some b => exact isMistake_either ha (hno b rfl)

end

theorem Stands.cons_suffix {q : Progress} (h : Stands ts p) (hhead : p.rest.head? = some t)
    (hq : q.rest = p.rest.tail) : t :: q.rest <:+ ts := by
  rw [hq, List.cons_head?_tail hhead]
  exact h.rest_suffix

/-- A token leads to items whose issues are mistakes, or to a group whose opening has none. -/
def Lead.IsSound : Lead → Prop
  | .items is => AreMistakes is
  | .group o => o.HasNoIssue

theorem readToken_spec {start : Nat} {verbose : Bool} {items : List Item} :
    ⦃fun p => ⌜(Stands ts p ∧ t :: p.rest <:+ ts) ∧ AreMistakes items⌝⦄
    readToken start verbose items t ⦃passingWith ts fun l _ => l.IsSound⦄ := by
  mvcgen [readToken, readRepetition_spec, readOpening_spec] with subst_vars
  -- what is read is put before the items, or is a group
  all_goals grind [Lead.IsSound, Item.anchor, Item.single]

/-- What the readers of sequences keep to up to a depth. -/
structure ReadsWell (ts : List Token) (depth : Nat) : Prop where
  sequence : ∀ {verbose isStart : Bool} {items : List Item},
    ⦃fun p => ⌜Stands ts p ∧ AreMistakes items⌝⦄ readSequence depth verbose isStart items
    ⦃passingWith ts fun a _ => IsMistake a.issue⦄
  group : ∀ {verbose : Bool} {start : Nat} {o : Opening},
    ⦃fun p => ⌜Stands ts p ∧ o.HasNoIssue⌝⦄ readGroup depth verbose start o
    ⦃passingWith ts fun i _ => IsMistake i.issue⦄
  alternatives : ∀ {verbose isWhole : Bool},
    ⦃reading ts⦄ readAlternatives depth verbose isWhole
    ⦃passingWith ts fun a _ => IsMistake a.issue⦄
  more : ∀ {verbose isWhole : Bool} {part : Part},
    ⦃fun p => ⌜Stands ts p ∧ IsMistake part.issue⌝⦄ readMore depth verbose isWhole part
    ⦃passingWith ts fun a _ => IsMistake a.issue⦄

section

variable {depth : Nat} {verbose isStart isWhole : Bool}

theorem readSequence_spec (h : ReadsWell ts depth) {items : List Item} :
    ⦃fun p => ⌜Stands ts p ∧ AreMistakes items⌝⦄ readSequence (depth + 1) verbose isStart items
    ⦃passingWith ts fun a _ => IsMistake a.issue⦄ := by
  have hsequence := @h.sequence
  have hgroup := @h.group
  mvcgen [readSequence, position, next?, take_moves, -take_spec, readToken_spec, hsequence, hgroup]
  -- the specifications have been used, and only slow the search for the rest
  all_goals clear hsequence hgroup
  case h_4.post.success.pre h _ _ _ hhead _ q hq =>
    exact ⟨⟨hq.1, h.1.cons_suffix hhead hq.2.2⟩, h.2⟩
  all_goals grind [isMistake_ofItems, Lead.IsSound]

theorem readGroup_spec (h : ReadsWell ts depth) {start : Nat} {o : Opening} :
    ⦃fun p => ⌜Stands ts p ∧ o.HasNoIssue⌝⦄ readGroup (depth + 1) verbose start o
    ⦃passingWith ts fun i _ => IsMistake i.issue⦄ := by
  have hsequence := @h.sequence
  have halternatives := @h.alternatives
  mvcgen [readGroup, next?, halternatives, hsequence]
  all_goals clear hsequence halternatives
  case h_5.pre h _ _ => exact h.1.withGroups _
  case h_5.post.success.pre h _ => exact h.1.withGroups _
  all_goals grind [isMistake_lookBehind, isMistake_conditional, Part.lookAhead, Part.group,
    Opening.HasNoIssue, Item.anchor]

theorem readAlternatives_spec (h : ReadsWell ts depth) :
    ⦃reading ts⦄ readAlternatives (depth + 1) verbose isWhole
    ⦃passingWith ts fun a _ => IsMistake a.issue⦄ := by
  have hsequence := @h.sequence
  have hmore := @h.more
  mvcgen [readAlternatives, hsequence, hmore]
  next h => exact ⟨h, areMistakes_nil⟩

theorem readMore_spec (h : ReadsWell ts depth) {part : Part} :
    ⦃fun p => ⌜Stands ts p ∧ IsMistake part.issue⌝⦄ readMore (depth + 1) verbose isWhole part
    ⦃passingWith ts fun a _ => IsMistake a.issue⦄ := by
  have hsequence := @h.sequence
  have hmore := @h.more
  mvcgen [readMore, hsequence, hmore]
  all_goals grind [isMistake_either]

theorem readsWell_zero : ReadsWell ts 0 where
  sequence {verbose isStart items} := by
    mvcgen [readSequence]
    next h => exact ⟨h.1, isMistake_ofItems h.2⟩
  group {verbose start o} := by
    mvcgen [readGroup]
    next h => exact ⟨h.1, isMistake_none⟩
  alternatives {verbose isWhole} := by
    mvcgen [readAlternatives]
    next h => exact ⟨h, isMistake_ofItems areMistakes_nil⟩
  more {verbose isWhole part} := by
    mvcgen [readMore]

/-- **The readers of sequences**, groups and alternatives pass on none but mistakes, at every depth. -/
theorem readsWell (depth : Nat) : ReadsWell ts depth := by
  induction depth with
  | zero => exact readsWell_zero
  | succ depth ih =>
    exact ⟨readSequence_spec ih, readGroup_spec ih, readAlternatives_spec ih, readMore_spec ih⟩

end

@[spec]
theorem readPattern_spec : ⦃reading ts⦄ readPattern ⦃passing ts⦄ := by
  have halternatives {depth : Nat} := @(@readsWell ts depth).alternatives
  mvcgen [readPattern, halternatives]
  case hrest h => exact h.rest_suffix
  case post.success.pre h => exact h.1
  case isTrue.pre h _ hflags =>
    have hboth := (Bool.and_eq_true _ _).mp hflags
    exact Or.inr (.clashingGlobalFlags (h.1.ascii hboth.1) (h.1.unicode hboth.2))
  case h_2.h_1 h _ hflags _ hrest _ hasked cause hissue => exact Or.inl (h.2 _ hissue)
  case h_2.h_2 h _ hflags _ hrest _ hasked hissue => exact h.1

/-- What a reader's condition says of its faults. -/
theorem founded_of_eq_error {m : Reader α} {f : Fault} (h : ⦃reading ts⦄ m ⦃passing ts⦄)
    (hp : Stands ts p) (herror : m p = .error f) : Founded ts f := by
  have hrun : ((wp (m p)).apply (fun r => ⌜Stands ts r.2⌝, fun f => ⌜Founded ts f⌝, ())).down :=
    h p hp
  rw [herror] at hrun
  exact hrun

/-- **The fault of a pattern** is a mistake in it, or its tokens hold the reason. -/
theorem founded_of_check {t : Text} {f : Fault} (h : check t = .error f) : Founded (tokens t) f := by
  have hstart : Stands (tokens t) ⟨tokens t, 0, .empty, ⟨false, false, false, false⟩⟩ :=
    ⟨List.suffix_rfl, fun h => Bool.noConfusion h, fun h => Bool.noConfusion h⟩
  exact founded_of_eq_error readPattern_spec hstart (eq_error_of_map_eq_error h)

/-- A source whose pattern exceeds a limit, and the class of the refusal. -/
def SourceExceeds (source : Text) (k : ErrorKind) : Prop :=
  ∃ cause, Exceeds (tokens (portable (normalizeSource source))) cause ∧ cause.kind = k

/-- **A source is refused** for a mistake, or because its pattern exceeds a limit. -/
theorem sourceExceeds_of_ofSource {source flags : Text} {e : Error}
    (h : ofSource source flags = .error e) :
    e.kind = .invalidSelector ∨ SourceExceeds source e.kind := by
  unfold ofSource check? at h
  split at h
  · split at h
    · cases h
    next f hf =>
      split at h
      · cases h
      · cases h
        rcases founded_of_check hf with hmistake | hexceeds
        · exact Or.inl hmistake
        · exact Or.inr ⟨f.cause, hexceeds, rfl⟩
  · cases h
    exact Or.inl rfl

end SelectorCode.Pattern
