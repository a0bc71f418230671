import SelectorCode.Proofs.Pattern.Excess

/-!
# Flags and openings of groups

The only flags that count for the whole pattern are those of a group that holds nothing else. This module follows the
letters from the opening of such a group to its end, so that a flag that has been set is found among the tokens, and
concludes that no opening of a group has other faults than mistakes.

## Main Definitions

* `InlineFlag.letter`: the letter of a flag.
* `NamedBy`: flags and the letters that name them.
* `FlagsBefore`: flags whose letters have just been read.
* `SetsFlags`: flags that a group sets for the whole pattern.
* `Opening.HasNoIssue`: openings that leave nothing to be reported later.

## Main Statements

* `readFlags_spec`: flags for the whole pattern are written in it.
* `readOpening_spec`: the opening of a group has no other faults than mistakes.
-/

namespace SelectorCode.Pattern

open Std.Do

set_option mvcgen.warning false

variable {ts : List Token} {p : Progress} {α : Type}

/-! ### Flags -/

/-- The letter of a flag. -/
def InlineFlag.letter : InlineFlag → Char
  | ignoreCase => 'i'
  | locale => 'L'
  | multiline => 'm'
  | dotAll => 's'
  | verbose => 'x'
  | ascii => 'a'
  | template => 't'
  | unicode => 'u'

theorem InlineFlag.eq_letter {c : Char} {f : InlineFlag} (h : ofChar? c = some f) :
    c = f.letter := by
  unfold ofChar? at h
  split at h <;> cases h <;> rfl

/-- The flags are those that the letters name. -/
structure NamedBy (letters : Text) (flags : List InlineFlag) : Prop where
  isSome_of_mem : ∀ c ∈ letters, (InlineFlag.ofChar? c).isSome = true
  exists_of_mem : ∀ f ∈ flags, ∃ c ∈ letters, InlineFlag.ofChar? c = some f

variable {letters : Text} {flags : List InlineFlag} {c : Char} {f : InlineFlag}

theorem NamedBy.append_singleton (h : NamedBy letters flags)
    (hc : InlineFlag.ofChar? c = some f) : NamedBy (letters ++ [c]) (f :: flags) where
  isSome_of_mem d hd := by
    rcases List.mem_append.1 hd with hd | hd
    · exact h.isSome_of_mem d hd
    · rw [List.mem_singleton.1 hd, hc]
      rfl
  exists_of_mem g hg := by
    rcases List.mem_cons.1 hg with rfl | hg
    · exact ⟨c, List.mem_append_right _ List.mem_cons_self, hc⟩
    · obtain ⟨d, hd, hname⟩ := h.exists_of_mem g hg
      exact ⟨d, List.mem_append_left _ hd, hname⟩

/-- Flags whose letters have been read before the tokens `rest`, after the opening of their group. -/
def FlagsBefore (ts rest : List Token) (flags : List InlineFlag) : Prop :=
  ∃ letters, NamedBy letters flags ∧ plain ('(' :: '?' :: letters) ++ rest <:+ ts

/-- Flags that are set for the whole pattern. -/
def SetsFlags (ts : List Token) (flags : List InlineFlag) : Prop :=
  ∃ letters, NamedBy letters flags ∧ plain ('(' :: '?' :: letters ++ [')']) <:+: ts

variable {rest : List Token} {t : Token}

theorem exists_of_flagOf? (h : flagOf? t = some f) :
    ∃ c, t = .char c ∧ InlineFlag.ofChar? c = some f := by
  cases t with
  | char c => exact ⟨c, rfl, h⟩
  | escape c => cases h
  | dangling => cases h

theorem FlagsBefore.start (h : .char '(' :: .char '?' :: rest <:+ ts) : FlagsBefore ts rest [] :=
  ⟨[], ⟨by simp, by simp⟩, h⟩

/-- A flag that is taken has its letter after those before it. -/
theorem FlagsBefore.next (h : FlagsBefore ts rest flags) (hhead : rest.head? = some t)
    (hflag : flagOf? t = some f) : FlagsBefore ts rest.tail (f :: flags) := by
  obtain ⟨letters, hnamed, hsuffix⟩ := h
  obtain ⟨c, rfl, hc⟩ := exists_of_flagOf? hflag
  refine ⟨letters ++ [c], hnamed.append_singleton hc, ?_⟩
  rw [← List.cons_head?_tail hhead] at hsuffix
  simpa [plain] using hsuffix

/-- At the closing parenthesis the letters are all that the group holds. -/
theorem FlagsBefore.close (h : FlagsBefore ts rest flags) (hhead : rest.head? = some (.char ')')) :
    SetsFlags ts flags := by
  obtain ⟨letters, hnamed, before, hsuffix⟩ := h
  refine ⟨letters, hnamed, before, rest.tail, ?_⟩
  rw [← hsuffix, ← List.cons_head?_tail hhead]
  simp [plain]

theorem SetsFlags.setsFlag (h : SetsFlags ts flags) (hmem : f ∈ flags) :
    SetsFlag ts f.letter := by
  obtain ⟨letters, hnamed, hletters⟩ := h
  obtain ⟨c, hc, hname⟩ := hnamed.exists_of_mem f hmem
  rw [← InlineFlag.eq_letter hname]
  exact ⟨letters, hc, hnamed.isSome_of_mem, hletters⟩

@[spec]
theorem failAtFlag_spec {t : Token} {gap : FlagGap} {Q : α → Progress → Prop} :
    ⦃reading ts⦄ (failAtFlag t gap : Reader α)
    ⦃post⟨fun a p => ⌜Q a p⌝, fun f => ⌜Founded ts f⌝⟩⦄ := by
  mvcgen [failAtFlag, position]
  split <;> rfl

/-- Letters that are read up to a closing parenthesis set their flags for the whole pattern. -/
theorem readAdded_spec {fuel : Nat} {f : InlineFlag} {added : List InlineFlag} :
    ⦃fun p => ⌜Stands ts p ∧ p.rest.length < fuel ∧ FlagsBefore ts p.rest (f :: added)⌝⦄
    readAdded fuel f added ⦃passingWith ts fun a _ => a.2 = ')' → SetsFlags ts a.1⦄ := by
  induction fuel generalizing f added with
  | zero =>
    rintro p ⟨-, hfuel, -⟩
    exact absurd hfuel (Nat.not_lt_zero _)
  | succ fuel ih =>
    -- which token has been taken matters here
    mvcgen [readAdded, take_moves, -take_spec, ih]
    case h h => exact h.1
    case h_2.isTrue p h _ t _ hclose q hq => exact ⟨hq.1, h.2.2.close (hclose ▸ hq.2.1.symm)⟩
    case isFalse.h_1 p h _ t _ _ _ _ g hflag q hq =>
      refine ⟨hq.1, ?_, hq.2.2 ▸ h.2.2.next hq.2.1.symm hflag⟩
      have hcons := congrArg List.length (List.cons_head?_tail hq.2.1.symm)
      rw [List.length_cons, ← hq.2.2] at hcons
      omega
    -- at a minus sign or a colon the letters set nothing for the whole pattern
    all_goals grind

@[spec]
theorem readRemoved_spec {fuel : Nat} {f : InlineFlag} {removed : List InlineFlag} :
    ⦃reading ts⦄ readRemoved fuel f removed ⦃passing ts⦄ := by
  induction fuel generalizing f removed with
  | zero => mvcgen [readRemoved]
  | succ fuel ih => mvcgen [readRemoved, ih]

@[spec]
theorem readAllRemoved_spec : ⦃reading ts⦄ readAllRemoved ⦃passing ts⦄ := by
  mvcgen [readAllRemoved]

theorem readScoped_spec {added : List InlineFlag} {stop : Char} :
    ⦃reading ts⦄ readScoped added stop
    ⦃passingWith ts fun a _ => ∃ removed, a = .scoped added removed⦄ := by
  mvcgen [readScoped, position]
  all_goals exact ⟨‹_›, _, rfl⟩

/-- Flags for the whole pattern are written in it. -/
theorem readFlags_spec {first : Option InlineFlag} :
    ⦃fun p => ⌜Stands ts p ∧ ∀ f ∈ first, FlagsBefore ts p.rest [f]⌝⦄ readFlags first
    ⦃passingWith ts fun a _ => ∀ flags, a = .global flags → SetsFlags ts flags⦄ := by
  mvcgen [readFlags, readAdded_spec, readScoped_spec]
  case h_1.pre h => exact ⟨h.1, Nat.lt_succ_self _, h.2 _ rfl⟩
  case isTrue hstop _ h =>
    refine ⟨h.1, ?_⟩
    rintro _ ⟨⟩
    exact h.2 hstop
  -- otherwise the contents of the group follow
  all_goals grind

/-! ### Openings of groups -/

@[spec]
theorem readGroupName_spec : ⦃reading ts⦄ readGroupName ⦃passing ts⦄ := by
  mvcgen [readGroupName, position]

@[spec]
theorem readNamedReference_spec :
    ⦃reading ts⦄ readNamedReference ⦃passingWith ts fun i _ => i.issue = none⦄ := by
  mvcgen [readNamedReference, position]

@[spec]
theorem readCondition_spec : ⦃reading ts⦄ readCondition ⦃passing ts⦄ := by
  mvcgen [readCondition, position]
  next h _ => exact h.withGroups _

/-- A reference, which is complete with its opening, has no issue. -/
def Opening.HasNoIssue : Opening → Prop
  | .reference i => i.issue = none
  | _ => True

@[spec]
theorem readNamedOpening_spec {mark : Nat} :
    ⦃reading ts⦄ readNamedOpening mark ⦃passingWith ts fun o _ => o.HasNoIssue⦄ := by
  mvcgen [readNamedOpening]

@[spec]
theorem readBehindOpening_spec {mark : Nat} :
    ⦃reading ts⦄ readBehindOpening mark ⦃passingWith ts fun o _ => o.HasNoIssue⦄ := by
  mvcgen [readBehindOpening]

theorem Stands.withFlags (h : Stands ts p) (hflags : SetsFlags ts flags) :
    Stands ts { p with flags := p.flags.add flags } := by
  refine ⟨h.rest_suffix, fun ha => ?_, fun hu => ?_⟩
  · rcases (Bool.or_eq_true _ _).mp ha with ha | ha
    · exact h.ascii ha
    · exact hflags.setsFlag (List.contains_iff_mem.1 ha)
  · rcases (Bool.or_eq_true _ _).mp hu with hu | hu
    · exact h.unicode hu
    · exact hflags.setsFlag (List.contains_iff_mem.1 hu)

@[spec]
theorem readComment_spec {start : Nat} :
    ⦃reading ts⦄ readComment start ⦃passingWith ts fun o _ => o.HasNoIssue⦄ := by
  mvcgen [readComment]

theorem readFlagOpening_spec {first : Option InlineFlag} :
    ⦃fun p => ⌜Stands ts p ∧ ∀ f ∈ first, FlagsBefore ts p.rest [f]⌝⦄ readFlagOpening first
    ⦃passingWith ts fun o _ => o.HasNoIssue⦄ := by
  mvcgen [readFlagOpening, readFlags_spec]
  case post.success.h_1 h _ => exact ⟨h.1.withFlags (h.2 _ rfl), trivial⟩
  case post.success.h_2 h => exact ⟨h.1, trivial⟩

/-- The letter of a flag, if it is one, has been read after the opening of its group. -/
theorem readExtension_spec {start : Nat} :
    ⦃fun p => ⌜Stands ts p ∧ ∀ f ∈ flagOf? t, FlagsBefore ts p.rest [f]⌝⦄ readExtension start t
    ⦃passingWith ts fun o _ => o.HasNoIssue⦄ := by
  mvcgen [readExtension, readFlagOpening_spec]
  all_goals grind [Opening.HasNoIssue]

/-- The opening of a group has no other faults than mistakes, and leaves no issue. -/
theorem readOpening_spec {start : Nat} :
    ⦃fun p => ⌜Stands ts p ∧ .char '(' :: p.rest <:+ ts⌝⦄ readOpening start
    ⦃passingWith ts fun o _ => o.HasNoIssue⦄ := by
  mvcgen [readOpening, accept_moves, take_moves, -accept_spec, -take_spec, readExtension_spec]
  case isFalse.post.success.h_2 p h accepted hmark p₁ hmarked _ t _ q hq =>
    have hopening : FlagsBefore ts p₁.rest [] :=
      .start (hmarked.2.1 (by simpa using hmark) ▸ h.2)
    exact ⟨hq.1, fun f hf => hq.2.2 ▸ hopening.next hq.2.1.symm hf⟩
  all_goals grind [Opening.HasNoIssue]

end SelectorCode.Pattern
