import SelectorCode.Proofs.Pattern.Passed
import SelectorCode.Proofs.Pattern.Portable

/-!
# Patterns that are read to the end

An accepted pattern has no fault, or one whose wording speaks of look-behinds. The only fault that is meant by this is a
look-behind of variable length, and it is reported after everything has been read. So one would expect that an accepted
pattern has been read to the end, with no backslash left over and no class open. This module follows the readers from
the openings of groups to the whole pattern and shows that there are two exceptions. Comments hide an opening bracket,
since nothing is read in them. And a fault that quotes a name is taken for one about look-behinds if the name has the
word in it; then nothing has been checked behind the name.

## Main Definitions

* `StartsExtension`, `StartsItem`: what is known behind the token that begins the extension of a group or an item.
* `Opening.AdmitsComments`: a group in which the flag `x` is turned on.
* `ReadsOn`: where the readers of sequences leave off, up to a depth.
* `IsMisjudged`: sources whose fault does not count although it does not concern the length of a look-behind.

## Main Statements

* `readOpening_reaches`: behind the opening of a group no class is open.
* `readsOn`: nor is one open where the readers of sequences, groups and alternatives leave off.
* `isRead_of_check`: a pattern without faults has been read to the end.
* `dangling_not_mem_of_ofSource`, `mayComment_of_ofSource`: what follows for accepted sources.
-/

namespace SelectorCode.Pattern

open Std.Do

set_option mvcgen.warning false

variable {ts rest : List Token} {p p₀ q : Progress} {w : Place} {c : Char} {t : Token} {u : Text}
  {letters : Text} {flags : List InlineFlag} {f : InlineFlag} {α : Type}

/-! ### Names -/

theorem bracket_not_mem_of_isIdentifier (h : Text.isIdentifier u = true) : '[' ∉ u := by
  cases u with
  | nil => exact List.not_mem_nil
  | cons c r =>
    simp only [Text.isIdentifier, Bool.and_eq_true, List.all_eq_true] at h
    intro hmem
    rcases List.mem_cons.1 hmem with rfl | hmem
    · exact absurd h.1 (by decide)
    · exact absurd (h.2 _ hmem) (by decide)

theorem mem_dropWhile {p : Char → Bool} (hmem : c ∈ u) (hc : p c = false) : c ∈ u.dropWhile p := by
  rw [← List.takeWhile_append_dropWhile (p := p) (l := u)] at hmem
  rcases List.mem_append.1 hmem with hmem | hmem
  · rw [List.mem_takeWhile_imp hmem] at hc
    cases hc
  · exact hmem

theorem ne_bracket_of_isDigit (h : c.isDigit = true) : '[' ≠ c := by
  rintro rfl
  cases h

theorem bracket_not_mem_of_underscoredDigits? (h : (underscoredDigits? u).isSome = true) :
    '[' ∉ u := by
  fun_induction underscoredDigits? u with
  | case1 => cases h
  | case2 c hc => simpa using ne_bracket_of_isDigit hc
  | case3 => cases h
  | case4 c r hc ih =>
    rw [Option.isSome_map] at h
    simpa [ne_bracket_of_isDigit hc] using ih h
  | case5 => cases h
  | case6 c r _ _ hc ih =>
    rw [Option.isSome_map] at h
    simpa [ne_bracket_of_isDigit hc] using ih h
  | case7 => cases h

theorem mem_readSign (h : '[' ∈ u) : '[' ∈ (readSign u).2 := by
  fun_cases readSign u with
  | case1 r => simpa using h
  | case2 r => simpa using h
  | case3 => exact h

theorem bracket_not_mem_of_groupNumber? (h : (groupNumber? u).isSome = true) : '[' ∉ u := by
  intro hmem
  have hplain : '[' ∈ u.map plainDigit := List.mem_map.2 ⟨'[', hmem, by decide⟩
  have hstart := mem_dropWhile (p := isNumberSpace) hplain (by decide)
  have htrim := List.mem_reverse.2
    (mem_dropWhile (p := isNumberSpace) (List.mem_reverse.2 hstart) (by decide))
  obtain ⟨n, hn⟩ := Option.isSome_iff_exists.1 h
  obtain ⟨digits, hdigits, -⟩ := Option.bind_eq_some_iff.1 hn
  exact bracket_not_mem_of_underscoredDigits? (Option.isSome_iff_exists.2 ⟨digits, hdigits⟩)
    (mem_readSign htrim)

theorem readGroupName_reaches : ⦃reached ts .outside⦄ readGroupName ⦃reaching ts .outside⦄ := by
  mvcgen [readGroupName, position, takeName_reaches, failAt_stopped, -takeName_spec, -failAt_spec,
    -readGroupName_spec]
  case isTrue hidentifier _ hp => exact hp.2 (bracket_not_mem_of_isIdentifier hidentifier)
  case isFalse => rintro ⟨⟩

theorem readNamedReference_reaches :
    ⦃reached ts .outside⦄ readNamedReference ⦃reaching ts .outside⦄ := by
  mvcgen [readNamedReference, position, takeName_reaches, checkBehind_reaches, failAt_stopped,
    -takeName_spec, -checkBehind_spec, -failAt_spec, -readNamedReference_spec]
  case h_2.h_2.pre hidentifier _ hp groups number hlookup width hwidth =>
    exact hp.2 (bracket_not_mem_of_isIdentifier (by simpa using hidentifier))
  -- a name of no group is a fault, whatever it is
  all_goals rintro ⟨⟩

theorem readCondition_reaches : ⦃reached ts .outside⦄ readCondition ⦃reaching ts .outside⦄ := by
  mvcgen [readCondition, position, takeName_reaches, checkBehind_reaches, failAt_stopped,
    -takeName_spec, -checkBehind_spec, -failAt_spec, -readCondition_spec]
  case isTrue.h_2.pre hidentifier _ hp _ _ =>
    exact hp.2 (bracket_not_mem_of_isIdentifier hidentifier)
  case isFalse.isFalse.isFalse.pre hnumber _ _ _ _ hp asked =>
    exact (hp.2 (bracket_not_mem_of_groupNumber? (Option.isSome_of_eq_some hnumber))).withGroups _
  all_goals rintro ⟨⟩

/-! ### Flags -/

/-- A pattern in which the flag `x` is written may hold comments. -/
theorem FlagsBefore.mayComment (h : FlagsBefore ts rest flags) (hmem : .verbose ∈ flags) :
    MayComment ts := by
  obtain ⟨letters, hnamed, hsuffix⟩ := h
  obtain ⟨c, hc, hname⟩ := hnamed.exists_of_mem _ hmem
  obtain rfl : c = 'x' := InlineFlag.eq_letter hname
  exact Or.inr ⟨letters, hc, hnamed.isSome_of_mem,
    (List.prefix_append _ rest).isInfix.trans hsuffix.isInfix⟩

/-- An opening bracket is no flag. -/
theorem Taken.passes_flag (h : Taken ts w p₀ (some t) p) (hflag : flagOf? t = some f) :
    Reaches ts w p := by
  refine h.passes ?_
  rintro ⟨⟩
  cases hflag

theorem failAtFlag_stopped {gap : FlagGap} {Q : α → Progress → Prop} :
    ⦃fun _ => ⌜True⌝⦄ (failAtFlag t gap : Reader α)
    ⦃post⟨fun a p => ⌜Q a p⌝, fun f => ⌜Stopped ts f⌝⟩⦄ := by
  mvcgen [failAtFlag, position, failAt_stopped, -failAt_spec, -failAtFlag_spec]
  split <;> rintro ⟨⟩

/-- Letters that are read name the flags that are turned on. -/
theorem readAdded_reaches {fuel : Nat} {added : List InlineFlag} :
    ⦃fun p => ⌜Reaches ts .outside p ∧ FlagsBefore ts p.rest (f :: added)⌝⦄
    readAdded fuel f added
    ⦃reachingWith ts .outside fun a _ => .verbose ∈ a.1 → MayComment ts⦄ := by
  induction fuel generalizing f added with
  | zero =>
    mvcgen [readAdded]
    next h => exact ⟨h.1, fun hmem => h.2.mayComment (List.mem_cons_of_mem f hmem)⟩
  | succ fuel ih =>
    mvcgen [readAdded, take_reaches, failHere_stopped, failAtFlag_stopped, ih, -take_spec,
      -failHere_spec, -failAtFlag_spec]
    case h h => exact h.1
    -- the letters end at a parenthesis, a minus sign or a colon
    case h_2.isTrue h _ t _ ht _ hq | h_2.isFalse.isTrue h _ t _ _ ht _ hq
        | h_2.isFalse.isFalse.isTrue h _ t _ _ _ ht _ hq =>
      exact ⟨hq.passes_char ht (by decide), h.2.mayComment⟩
    case isFalse.h_1 h _ t _ _ _ _ g hflag _ hq =>
      exact ⟨hq.passes_flag hflag, hq.rest_eq ▸ h.2.next hq.eq_head?.symm hflag⟩

theorem readRemoved_reaches {fuel : Nat} {removed : List InlineFlag} :
    ⦃reached ts .outside⦄ readRemoved fuel f removed ⦃reaching ts .outside⦄ := by
  induction fuel generalizing f removed with
  | zero =>
    mvcgen [readRemoved, -readRemoved_spec]
  | succ fuel ih =>
    mvcgen [readRemoved, take_reaches, failHere_stopped, failAtFlag_stopped, ih, -take_spec,
      -failHere_spec, -failAtFlag_spec, -readRemoved_spec]
    case h_2.isTrue ht _ hq => exact hq.passes_char ht (by decide)
    case isFalse.h_1 hflag _ hq => exact hq.passes_flag hflag

theorem readAllRemoved_reaches :
    ⦃reached ts .outside⦄ readAllRemoved ⦃reaching ts .outside⦄ := by
  mvcgen [readAllRemoved, take_reaches, failHere_stopped, failAtFlag_stopped, readRemoved_reaches,
    -take_spec, -failHere_spec, -failAtFlag_spec, -readRemoved_spec, -readAllRemoved_spec]
  next hflag _ hq => exact hq.passes_flag hflag

/-- The flags that a group turns on. -/
def FlagGroup.added : FlagGroup → List InlineFlag
  | .global flags => flags
  | .scoped added _ => added

theorem readScoped_reaches {added : List InlineFlag} {stop : Char} :
    ⦃reached ts .outside⦄ readScoped added stop
    ⦃reachingWith ts .outside fun a _ => a.added = added⦄ := by
  mvcgen [readScoped, readAllRemoved_reaches, failAt_stopped, position, -readAllRemoved_spec,
    -failAt_spec]

/-- Where the flag `x` is turned on, it is written. -/
theorem readFlags_reaches {first : Option InlineFlag} :
    ⦃fun p => ⌜Reaches ts .outside p ∧ ∀ f ∈ first, FlagsBefore ts p.rest [f]⌝⦄ readFlags first
    ⦃reachingWith ts .outside fun a _ => .verbose ∈ a.added → MayComment ts⦄ := by
  mvcgen [readFlags, readAdded_reaches, readScoped_reaches]
  case h_1.pre h => exact ⟨h.1, h.2 _ rfl⟩
  case isFalse.pre h => exact h.1
  case isFalse.post.success hadded _ _ =>
    exact fun hp heq => ⟨hp, fun hmem => hadded.2 (heq ▸ hmem)⟩
  case h_2.pre h => exact h.1
  case h_2.post.success =>
    exact fun hp heq => ⟨hp, fun hmem => absurd (heq ▸ hmem) List.not_mem_nil⟩

/-! ### Openings of groups -/

theorem Reaches.withFlags (h : Reaches ts w p) (hflags : .verbose ∈ flags → MayComment ts) :
    Reaches ts w { p with flags := p.flags.add flags } := by
  refine ⟨h.exists_passed, h.head_ne, fun hverbose => ?_⟩
  rcases (Bool.or_eq_true _ _).mp hverbose with hverbose | hverbose
  · exact h.verbose hverbose
  · exact hflags (List.contains_iff_mem.1 hverbose)

/-- A comment in parentheses is opened. -/
theorem mayComment_of_suffix (h : .char '(' :: .char '?' :: rest <:+ ts)
    (hhead : rest.head? = some (.char '#')) : MayComment ts := by
  rw [← List.cons_head?_tail hhead] at h
  exact Or.inl ((List.prefix_append (plain "(?#".toList) rest.tail).isInfix.trans h.isInfix)

/-- A group that turns the flag `x` on may hold comments. -/
def Opening.AdmitsComments (ts : List Token) : Opening → Prop
  | .grouping added _ => .verbose ∈ added → MayComment ts
  | _ => True

theorem readNamedOpening_reaches {mark : Nat} :
    ⦃reached ts .outside⦄ readNamedOpening mark
    ⦃reachingWith ts .outside fun o _ => o.AdmitsComments ts⦄ := by
  mvcgen [readNamedOpening, accept_passes, readGroupName_reaches, readNamedReference_reaches,
    take_reaches, failHere_stopped, failAt_stopped, -accept_spec, -readGroupName_spec,
    -readNamedReference_spec, -take_spec, -failHere_spec, -failAt_spec, -readNamedOpening_spec]
  rintro ⟨⟩

theorem readBehindOpening_reaches {mark : Nat} :
    ⦃reached ts .outside⦄ readBehindOpening mark
    ⦃reachingWith ts .outside fun o _ => o.AdmitsComments ts⦄ := by
  mvcgen [readBehindOpening, take_reaches, failHere_stopped, failAt_stopped, -take_spec,
    -failHere_spec, -failAt_spec, -readBehindOpening_spec]
  case isTrue ht _ hq =>
    refine ⟨hq.passes ?_, trivial⟩
    rintro ⟨⟩
    exact absurd ht (by decide)
  case isFalse => rintro ⟨⟩

/-- In a comment everything is passed, opening brackets included. -/
theorem readComment_reaches {start : Nat} :
    ⦃fun p => ⌜Reaches ts .outside p ∧ MayComment ts⌝⦄ readComment start
    ⦃reachingWith ts .outside fun o _ => o.AdmitsComments ts⦄ := by
  mvcgen [readComment, takeUntil_reaches, failAt_stopped, -takeUntil_spec, -failAt_spec,
    -readComment_spec]
  case pre h => exact h.1
  case isTrue p h _ _ q hq => exact ⟨hq.1.of_mayComment h.2, trivial⟩

theorem readFlagOpening_reaches {first : Option InlineFlag} :
    ⦃fun p => ⌜Reaches ts .outside p ∧ ∀ f ∈ first, FlagsBefore ts p.rest [f]⌝⦄
    readFlagOpening first ⦃reachingWith ts .outside fun o _ => o.AdmitsComments ts⦄ := by
  mvcgen [readFlagOpening, readFlags_reaches]
  case h_1 h _ => exact ⟨h.1.withFlags h.2, trivial⟩

/-- The token `t` has just been taken, behind an opening parenthesis and a question mark. -/
structure StartsExtension (ts : List Token) (t : Token) (p : Progress) : Prop where
  reaches : t ≠ .char '[' → Reaches ts .outside p
  mayComment : t = .char '#' → MayComment ts
  flagsBefore : ∀ f ∈ flagOf? t, FlagsBefore ts p.rest [f]

theorem startsExtension (hopening : .char '(' :: .char '?' :: p.rest <:+ ts)
    (h : Taken ts .outside p (some t) q) : StartsExtension ts t q where
  reaches ht := h.passes fun heq => ht (Option.some.inj heq)
  mayComment ht := mayComment_of_suffix hopening (ht ▸ h.eq_head?.symm)
  flagsBefore _ hf := h.rest_eq ▸ (FlagsBefore.start hopening).next h.eq_head?.symm hf

theorem StartsExtension.reaches_of_flagOf? (h : StartsExtension ts t p)
    (ht : t = .char '-' ∨ (flagOf? t).isSome = true) : Reaches ts .outside p := by
  refine h.reaches ?_
  rintro rfl
  rcases ht with ht | ht <;> cases ht

theorem readExtension_reaches {start : Nat} :
    ⦃fun p => ⌜StartsExtension ts t p⌝⦄ readExtension start t
    ⦃reachingWith ts .outside fun o _ => o.AdmitsComments ts⦄ := by
  mvcgen [readExtension, readNamedOpening_reaches, readComment_reaches, readBehindOpening_reaches,
    readCondition_reaches, readFlagOpening_reaches, failAt_stopped, -readNamedOpening_spec,
    -readComment_spec, -readBehindOpening_spec, -readCondition_spec, -failAt_spec]
  case h_3 h => exact ⟨h.reaches (by decide), h.mayComment rfl⟩
  case h_9.isTrue hflag p h =>
    exact ⟨h.reaches_of_flagOf? (by simpa using hflag), h.flagsBefore⟩
  case h_9.isFalse => rintro ⟨⟩
  -- the other tokens are known, and none of them is an opening bracket
  all_goals grind [StartsExtension.reaches, Opening.AdmitsComments]

/-- Behind the opening of a group no class is open, unless it was a comment. -/
theorem readOpening_reaches {start : Nat} :
    ⦃fun p => ⌜Reaches ts .outside p ∧ .char '(' :: p.rest <:+ ts⌝⦄ readOpening start
    ⦃reachingWith ts .outside fun o _ => o.AdmitsComments ts⦄ := by
  mvcgen [readOpening, accept_reaches, take_reaches, readExtension_reaches, failHere_stopped,
    -accept_spec, -take_spec, -failHere_spec]
  case h h => exact h.1
  case post.success.isTrue h => exact ⟨h.1, trivial⟩
  case h h => exact h.1
  case h_2 p h _ hmark p₁ hmarked _ t _ q hq =>
    have hopening : .char '(' :: .char '?' :: p₁.rest <:+ ts :=
      hmarked.2 (by simpa using hmark) ▸ h.2
    exact startsExtension hopening hq

/-! ### Repetitions -/

section

variable {start least : Nat} {greatest : Option Nat} {low high digits : Text} {last : Item}

theorem readBound_reaches :
    ⦃reached ts .outside⦄ readBound digits ⦃reaching ts .outside⦄ := by
  mvcgen [readBound, failWhole_stopped, -failWhole_spec]
  all_goals rintro ⟨⟩

theorem readSecondBound_reaches :
    ⦃reached ts .outside⦄ readSecondBound low ⦃reaching ts .outside⦄ := by
  mvcgen [readSecondBound, accept_passes, takeAllChars_reaches, -accept_spec]
  exact fun _ _ => rfl

theorem readBoundPair_reaches :
    ⦃reached ts .outside⦄ readBoundPair start low high ⦃reaching ts .outside⦄ := by
  mvcgen [readBoundPair, readBound_reaches, failAt_stopped, -failAt_spec]

theorem readBraces_reaches : ⦃reached ts .outside⦄ readBraces ⦃reaching ts .outside⦄ := by
  mvcgen [readBraces, accept_passes, takeAllChars_reaches, readSecondBound_reaches,
    readBoundPair_reaches, -accept_spec]

theorem readBounds_reaches : ⦃reached ts .outside⦄ readBounds c ⦃reaching ts .outside⦄ := by
  mvcgen [readBounds, readBraces_reaches]

theorem readGreed_reaches : ⦃reached ts .outside⦄ readGreed ⦃reaching ts .outside⦄ := by
  mvcgen [readGreed, accept_passes, -accept_spec, -readGreed_spec]

theorem repeatItem_reaches :
    ⦃reached ts .outside⦄ repeatItem last least greatest ⦃reaching ts .outside⦄ := by
  mvcgen [repeatItem, readGreed_reaches, -readGreed_spec]

theorem readRepetition_reaches {items : List Item} :
    ⦃reached ts .outside⦄ readRepetition start c items ⦃reaching ts .outside⦄ := by
  mvcgen [readRepetition, readBounds_reaches, repeatItem_reaches, failAt_stopped, -failAt_spec]

end

/-! ### Groups -/

theorem openGroup_reaches {name : Option (Text × Nat)} :
    ⦃reached ts .outside⦄ openGroup name ⦃reaching ts .outside⦄ := by
  mvcgen [openGroup, failAt_stopped, -failAt_spec, -openGroup_spec]
  case h_1 h groups number _ _ opened => exact h.withGroups _
  case h_2.h_1.pre => rintro ⟨⟩
  case h_2.h_2 h groups number _ name start _ _ opened => exact h.withGroups _

theorem closeGroup_reaches {number : Nat} {width : Width} :
    ⦃reached ts .outside⦄ closeGroup number width ⦃reaching ts .outside⦄ := by
  mvcgen [closeGroup, -closeGroup_spec]
  next h _ => exact h.withGroups _

theorem closeParenthesis_reaches {start : Nat} :
    ⦃reached ts .outside⦄ closeParenthesis start ⦃reaching ts .outside⦄ := by
  mvcgen [closeParenthesis, accept_passes, failAt_stopped, -accept_spec, -failAt_spec,
    -closeParenthesis_spec]

theorem skipLine_reaches :
    ⦃fun p => ⌜Reaches ts .outside p ∧ MayComment ts⌝⦄ skipLine ⦃reaching ts .outside⦄ := by
  mvcgen [skipLine, takeUntil_reaches, -takeUntil_spec, -skipLine_spec]
  case pre h => exact h.1
  case post.success h _ _ hq => exact hq.1.of_mayComment h.2

/-! ### Sequences and alternatives -/

/-- The token `t`, which begins an item, has just been taken; comments of verbose patterns are possible. -/
structure StartsItem (ts : List Token) (verbose : Bool) (t : Token) (p : Progress) : Prop where
  reaches : Reaches ts .anywhere p
  passes : t ≠ .char '[' → Reaches ts .outside p
  cons_suffix : t :: p.rest <:+ ts
  mayComment : verbose = true → MayComment ts

theorem startsItem {verbose : Bool} {a : Option Token} (h : Reaches ts .outside p)
    (hverbose : verbose = true → MayComment ts) (hhead : p.rest.head? = some t)
    (hq : Taken ts .outside p a q) : StartsItem ts verbose t q where
  reaches := hq.reaches
  passes ht := by
    refine hq.passes ?_
    rw [hq.eq_head?, hhead]
    exact fun heq => ht (Option.some.inj heq)
  cons_suffix := by
    obtain ⟨passed, heq, -, -⟩ := h.exists_passed
    rw [hq.rest_eq, List.cons_head?_tail hhead]
    exact ⟨passed, heq⟩
  mayComment := hverbose

theorem StartsItem.passes_char {verbose : Bool} (h : StartsItem ts verbose (.char c) p)
    (hc : c ≠ '[') : Reaches ts .outside p :=
  h.passes fun heq => hc (Token.char.inj heq)

theorem isVerboseSpace_bracket : isVerboseSpace '[' = false := by
  decide

/-- A group that a token leads to may hold comments if it turns the flag `x` on. -/
def Lead.AdmitsComments (ts : List Token) : Lead → Prop
  | .items _ => True
  | .group o => o.AdmitsComments ts

/-- Behind an item, a repetition or the opening of a group no class is open. -/
theorem readToken_reaches {start : Nat} {verbose : Bool} {items : List Item} :
    ⦃fun p => ⌜StartsItem ts verbose t p⌝⦄ readToken start verbose items t
    ⦃reachingWith ts .outside fun l _ => l.AdmitsComments ts⦄ := by
  mvcgen [readToken, readEscape_reaches, skipLine_reaches, readClass_reaches,
    readRepetition_reaches, readOpening_reaches, -readEscape_spec, -skipLine_spec, -readClass_spec]
    with subst_vars
  case h_3.isTrue hspace _ h =>
    refine ⟨h.passes_char ?_, trivial⟩
    rintro rfl
    simp [isVerboseSpace_bracket] at hspace
  case h_3.isFalse.isTrue.pre hcomment _ h =>
    have hboth := (Bool.and_eq_true _ _).mp hcomment
    exact ⟨h.passes_char (of_decide_eq_true hboth.2 ▸ by decide), h.mayComment hboth.1⟩
  case isFalse.isFalse.isTrue.pre h => exact h.reaches
  case isFalse.isFalse.isFalse.isFalse.isTrue.pre h =>
    exact ⟨h.passes_char (by decide), h.cons_suffix⟩
  -- no other token is an opening bracket
  all_goals grind [StartsItem.passes, Lead.AdmitsComments]

/-- The tokens have been read to a point between two items; comments of verbose patterns are possible. -/
abbrev ready (ts : List Token) (verbose : Bool) : Assertion ReaderShape :=
  fun p => ⌜Reaches ts .outside p ∧ (verbose = true → MayComment ts)⌝

/-- Where the readers of sequences, up to a depth, leave off. -/
structure ReadsOn (ts : List Token) (depth : Nat) : Prop where
  sequence : ∀ {verbose isStart : Bool} {items : List Item},
    ⦃ready ts verbose⦄ readSequence depth verbose isStart items ⦃reaching ts .outside⦄
  group : ∀ {verbose : Bool} {start : Nat} {o : Opening},
    ⦃fun p => ⌜(Reaches ts .outside p ∧ (verbose = true → MayComment ts)) ∧ o.AdmitsComments ts⌝⦄
    readGroup depth verbose start o ⦃reaching ts .outside⦄
  alternatives : ∀ {verbose isWhole : Bool},
    ⦃ready ts verbose⦄ readAlternatives depth verbose isWhole ⦃reaching ts .outside⦄
  more : ∀ {verbose isWhole : Bool} {part : Part},
    ⦃ready ts verbose⦄ readMore depth verbose isWhole part ⦃reaching ts .outside⦄

section

variable {depth : Nat} {verbose isStart isWhole : Bool}

theorem readSequence_reaches (h : ReadsOn ts depth) {items : List Item} :
    ⦃ready ts verbose⦄ readSequence (depth + 1) verbose isStart items ⦃reaching ts .outside⦄ := by
  have htake {p₀ : Progress} := @take_reaches ts p₀ .outside
  have hsequence := @h.sequence
  have hgroup := @h.group
  mvcgen [readSequence, position, next?, htake, readToken_reaches, failAt_stopped, hsequence,
    hgroup, -take_spec, -failAt_spec]
  all_goals clear htake hsequence hgroup
  case h_4.post.success.pre h _ _ _ hhead _ _ hq => exact startsItem h.1 h.2 hhead hq
  case h_3.isFalse hq => exact ⟨hq.1, hq.1.verbose⟩
  -- elsewhere the reader is between two items as before
  all_goals grind [Lead.AdmitsComments]

/-- Where the flag `x` is on in a group, a comment is possible around it, or the group turns it on. -/
theorem mayComment_of_grouping {added removed : List InlineFlag}
    (hverbose : verbose = true → MayComment ts)
    (hadded : (Opening.grouping added removed).AdmitsComments ts)
    (h : ((verbose || added.contains .verbose) && !removed.contains .verbose) = true) :
    MayComment ts := by
  rcases (Bool.or_eq_true _ _).mp ((Bool.and_eq_true _ _).mp h).1 with h | h
  · exact hverbose h
  · exact hadded (List.contains_iff_mem.1 h)

theorem readGroup_reaches (h : ReadsOn ts depth) {start : Nat} {o : Opening} :
    ⦃fun p => ⌜(Reaches ts .outside p ∧ (verbose = true → MayComment ts)) ∧ o.AdmitsComments ts⌝⦄
    readGroup (depth + 1) verbose start o ⦃reaching ts .outside⦄ := by
  have hsequence := @h.sequence
  have halternatives := @h.alternatives
  mvcgen [readGroup, next?, accept_passes, openGroup_reaches, closeGroup_reaches,
    closeParenthesis_reaches, failHere_stopped, halternatives, hsequence, -accept_spec,
    -openGroup_spec, -closeGroup_spec, -closeParenthesis_spec, -failHere_spec]
  all_goals clear hsequence halternatives
  case h_5.pre h _ _ => exact ⟨h.1.1.withGroups _, h.1.2⟩
  case h_5.post.success.pre hp _ => exact hp.withGroups _
  case h_8.pre h => exact ⟨h.1.1, mayComment_of_grouping h.1.2 h.2⟩
  -- the contents of the other groups are read as what stands around them
  all_goals grind

theorem readAlternatives_reaches (h : ReadsOn ts depth) :
    ⦃ready ts verbose⦄ readAlternatives (depth + 1) verbose isWhole ⦃reaching ts .outside⦄ := by
  have hsequence := @h.sequence
  have hmore := @h.more
  mvcgen [readAlternatives, hsequence, hmore]
  next h _ _ hp => exact ⟨hp, h.2⟩

/-- An alternative of the whole pattern is read with the flags set by then, another one with those around it. -/
theorem mayComment_of_alternative (hp : Reaches ts .outside p)
    (hverbose : verbose = true → MayComment ts)
    (h : (if isWhole then p.flags.verbose else verbose) = true) : MayComment ts := by
  cases isWhole with
  | true => exact hp.verbose h
  | false => exact hverbose h

theorem readMore_reaches (h : ReadsOn ts depth) {part : Part} :
    ⦃ready ts verbose⦄ readMore (depth + 1) verbose isWhole part ⦃reaching ts .outside⦄ := by
  have hsequence := @h.sequence
  have hmore := @h.more
  mvcgen [readMore, accept_passes, hsequence, hmore, -accept_spec]
  case pre h => exact h.1
  case isTrue.pre h _ _ p hp global inside =>
    exact ⟨hp, mayComment_of_alternative hp h.2⟩
  case isTrue.post.success h _ _ p hp global inside other q hq =>
    exact ⟨hq, mayComment_of_alternative hp h.2⟩

end

theorem readsOn_zero : ReadsOn ts 0 where
  sequence {verbose isStart items} := by
    mvcgen [readSequence]
    next h => exact h.1
  group {verbose start o} := by
    mvcgen [readGroup]
    next h => exact h.1.1
  alternatives {verbose isWhole} := by
    mvcgen [readAlternatives]
    next h => exact h.1
  more {verbose isWhole part} := by
    mvcgen [readMore]
    next h => exact h.1

/-- **The readers of sequences**, groups and alternatives leave off where no class is open, at every depth. -/
theorem readsOn (depth : Nat) : ReadsOn ts depth := by
  induction depth with
  | zero => exact readsOn_zero
  | succ depth ih =>
    exact ⟨readSequence_reaches ih, readGroup_reaches ih, readAlternatives_reaches ih,
      readMore_reaches ih⟩

/-! ### Whole patterns -/

theorem Reaches.isRead (h : Reaches ts .outside p) (hrest : p.rest = []) : IsRead ts := by
  obtain ⟨passed, heq, hdangling, hclosed⟩ := h.exists_passed
  rw [hrest, List.append_nil] at heq
  subst heq
  exact ⟨hdangling, hclosed rfl⟩

/-- A pattern without faults has been read to the end. -/
theorem readPattern_reaches :
    ⦃fun p => ⌜p.rest = ts ∧ p.flags.verbose = false⌝⦄ readPattern
    ⦃post⟨fun _ _ => ⌜IsRead ts⌝, fun f => ⌜Stopped ts f⌝⟩⦄ := by
  have halternatives {depth : Nat} := @(@readsOn ts depth).alternatives
  mvcgen [readPattern, moveTo_reaches, halternatives, failAt_stopped, failHere_stopped,
    failWhole_stopped, -moveTo_spec, -failAt_spec, -failHere_spec, -failWhole_spec,
    -readPattern_spec]
  case post.success.pre h _ q hq =>
    refine ⟨⟨⟨[], ?_, List.not_mem_nil, fun _ => Bool.noConfusion⟩, ?_, fun hverbose => ?_⟩,
      Bool.noConfusion⟩
    · rw [List.nil_append, hq.1, h.1]
    · rw [hq.1]
      exact hq.2.1
    · rw [hq.2.2, h.2] at hverbose
      cases hverbose
  case h_2.h_1 h _ hflags _ hrest _ hasked cause hissue =>
    intro
    exact h.isRead (by simpa using hrest)
  case h_2.h_2 h _ hflags _ hrest _ hasked hissue => exact h.isRead (by simpa using hrest)
  all_goals rintro ⟨⟩

/-- What the condition on a reader says of a run. -/
theorem isRead_of_run {m : Reader Unit}
    (h : ⦃fun p => ⌜p.rest = ts ∧ p.flags.verbose = false⌝⦄ m
      ⦃post⟨fun _ _ => ⌜IsRead ts⌝, fun f => ⌜Stopped ts f⌝⟩⦄)
    (hp : p.rest = ts ∧ p.flags.verbose = false)
    (hrun : ∀ f, m p = .error f → f.cause = .variableBehind) : IsRead ts := by
  have hwp : ((wp (m p)).apply (fun _ => ⌜IsRead ts⌝, fun f => ⌜Stopped ts f⌝, ())).down :=
    h p hp
  cases hm : m p with
  | ok r =>
    rw [hm] at hwp
    exact hwp
  | error f =>
    rw [hm] at hwp
    exact hwp (hrun f hm)

/-- **A pattern has been read to the end** if it has no fault, or none but a look-behind of variable length. -/
theorem isRead_of_check (h : ∀ f, check u = .error f → f.cause = .variableBehind) :
    IsRead (tokens u) := by
  refine isRead_of_run (p := ⟨tokens u, 0, .empty, ⟨false, false, false, false⟩⟩)
    readPattern_reaches ⟨rfl, rfl⟩ fun f hf => h f ?_
  unfold check
  rw [StateT.run, hf]
  rfl

/-- A source is misjudged when a fault of it does not count because of its wording, which speaks of look-behinds, though
it does not concern the length of one. -/
def IsMisjudged (source : Text) : Prop :=
  ∃ f, check (portable source) = .error f ∧ isTolerated f = true ∧ f.cause ≠ .variableBehind

variable {source : Text} {pattern : Pattern}

theorem isRead_of_ofSource (h : ofSource source u = .ok pattern)
    (hjudged : ¬ IsMisjudged pattern.source) : IsRead (tokens (portable pattern.source)) := by
  refine isRead_of_check fun f hf => ?_
  by_contra hcause
  have htolerated : isTolerated f = true := by
    rw [eq_of_ofSource h] at hf
    simp only [ofSource, check?, hf] at h
    split at h
    · split at h
      · assumption
      · cases h
    · cases h
  exact hjudged ⟨f, hf, htolerated, hcause⟩

/-- **No backslash is left** at the end of an accepted source, unless it is misjudged. -/
theorem dangling_not_mem_of_ofSource (h : ofSource source u = .ok pattern)
    (hjudged : ¬ IsMisjudged pattern.source) : .dangling ∉ tokens pattern.source := fun hmem =>
  (isRead_of_ofSource h hjudged).not_mem_dangling (dangling_mem_tokens_portable_iff.2 hmem)

/-- **No class is open** at the end of an accepted source, unless it is misjudged or may hold comments. -/
theorem mayComment_of_ofSource (h : ofSource source u = .ok pattern)
    (hjudged : ¬ IsMisjudged pattern.source)
    (hopen : isOpenAfter false (tokens pattern.source) = true) :
    MayComment (tokens (portable pattern.source)) := by
  refine (isRead_of_ofSource h hjudged).isClosed ?_
  rw [isOpenAfter_portable (dangling_not_mem_of_ofSource h hjudged)]
  exact hopen

end SelectorCode.Pattern
