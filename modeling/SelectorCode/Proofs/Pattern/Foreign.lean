import SelectorCode.Proofs.Pattern.Portable

/-!
# Foreign constructs

A source is read in tokens, and between two of them a class is open or not. Whether a construct begins there that is
rewritten can be told from the text that follows. A source without such places is left alone, and no other source is: up to
the first such place nothing changes, and there one of the next three characters does.

## Main Definitions

* `IsForeign`: texts that begin with a construct that is rewritten.
* `IsPortable`: texts in which no such construct begins anywhere.

## Main Statements

* `isPortable_iff_of_tokens`: a text is portable if nothing foreign begins with its first token or later.
* `rewrite_eq_self_iff`: what is rewritten from a context stays as it is when it is portable there.
* `portable_eq_self_iff`: the sources that rewriting leaves alone.
-/

namespace SelectorCode.Pattern

variable {b : Bool} {c : Char} {r t : Text} {ctx : Context}

/-! ### Foreign constructs -/

/-- A construct that is rewritten begins a text, inside a class or outside. -/
inductive IsForeign (inClass : Bool) : Text → Prop
  /-- A letter that the backslash before it does not change. -/
  | letter {c : Char} {r : Text} (h : c ∈ identityEscapes) : IsForeign inClass ('\\' :: c :: r)
  /-- The number of a character, with digits missing. -/
  | shortNumber {r : Text} (h : startsHex 2 r = false) : IsForeign inClass ('\\' :: 'x' :: r)
  | longNumber {r : Text} (h : startsHex 4 r = false) : IsForeign inClass ('\\' :: 'u' :: r)
  /-- A group with a name. -/
  | namedGroup {r : Text} (houtside : inClass = false) (h : startsName r = true) :
      IsForeign inClass ('(' :: '?' :: '<' :: r)
  /-- A class that holds no character, or every character. -/
  | emptyClass {r : Text} (houtside : inClass = false) : IsForeign inClass ('[' :: ']' :: r)
  | fullClass {r : Text} (houtside : inClass = false) : IsForeign inClass ('[' :: '^' :: ']' :: r)

/-- No construct that is rewritten begins between two tokens of a text, which is read from inside a class or from
outside. -/
def IsPortable (inClass : Bool) (t : Text) : Prop :=
  ∀ before after, tokens t = before ++ after →
    ¬ IsForeign (isOpenAfter inClass before) (after.flatMap Token.written)

/-- The escapes that are rewritten. -/
theorem isForeign_pair_iff : IsForeign b ('\\' :: c :: r) ↔ isIdentityEscape c r = true := by
  constructor
  · intro h
    cases h with
    | letter h =>
      have hshort : c ≠ 'x' := fun hc => absurd h (by rw [hc]; decide)
      have hlong : c ≠ 'u' := fun hc => absurd h (by rw [hc]; decide)
      rw [isIdentityEscape, if_neg hshort, if_neg hlong]
      exact List.contains_iff_mem.2 h
    | shortNumber h => simp [isIdentityEscape, h]
    | longNumber h => simp [isIdentityEscape, h]
  · intro h
    unfold isIdentityEscape at h
    split at h
    next hc =>
      subst c
      exact .shortNumber (by simpa using h)
    next =>
      split at h
      next hc =>
        subst c
        exact .longNumber (by simpa using h)
      next => exact .letter (List.contains_iff_mem.1 h)

/-! ### Places -/

theorem isPortable_nil : IsPortable b [] := by
  intro before after h hforeign
  rw [(List.append_eq_nil_iff.1 h.symm).2] at hforeign
  cases hforeign

theorem IsPortable.not_isForeign (h : IsPortable b t) : ¬ IsForeign b t := by
  have hfirst := h [] (tokens t) rfl
  rwa [flatMap_written_tokens] at hfirst

/-- The places of a text are its beginning and the places of what follows its first token. -/
theorem isPortable_iff_of_tokens {x : Token} (h : tokens t = x :: tokens r) :
    IsPortable b t ↔ ¬ IsForeign b t ∧ IsPortable (x.classAfter b) r := by
  constructor
  · intro hplaces
    refine ⟨hplaces.not_isForeign, fun before after hrest => ?_⟩
    exact hplaces (x :: before) after (by rw [h, hrest, List.cons_append])
  · rintro ⟨hfirst, hplaces⟩ before after heq
    cases before with
    | nil =>
      rw [List.nil_append] at heq
      rwa [← heq, flatMap_written_tokens]
    | cons y before =>
      rw [h] at heq
      obtain ⟨rfl, hrest⟩ := List.cons.inj heq
      exact hplaces before after hrest

theorem isPortable_pair_iff :
    IsPortable b ('\\' :: c :: r) ↔ isIdentityEscape c r = false ∧ IsPortable b r := by
  rw [← Bool.not_eq_true, ← isForeign_pair_iff (b := b)]
  exact isPortable_iff_of_tokens (tokens_pair c r)

theorem isPortable_cons_iff (hc : c = '\\' → r = []) :
    IsPortable b (c :: r) ↔ ¬ IsForeign b (c :: r) ∧ IsPortable (classAfter b c) r := by
  by_cases hback : c = '\\'
  · rw [hback, hc hback]
    exact isPortable_iff_of_tokens (t := ['\\']) (r := []) rfl
  · exact isPortable_iff_of_tokens (tokens_cons hback r)

/-- Constructs begin with brackets and backslashes. -/
theorem isPortable_cons_iff_of_not_mem (hc : c ∉ bracketing) :
    IsPortable b (c :: r) ↔ IsPortable b r := by
  simp only [bracketing, List.mem_cons, List.not_mem_nil, or_false, not_or] at hc
  obtain ⟨hback, hopen, hclose, hgroup⟩ := hc
  have hforeign : ¬ IsForeign b (c :: r) := by
    intro h
    cases h with
    | letter | shortNumber | longNumber => exact hback rfl
    | namedGroup => exact hgroup rfl
    | emptyClass | fullClass => exact hopen rfl
  rw [isPortable_cons_iff fun h => absurd h hback, classAfter, if_neg hopen, if_neg hclose]
  exact and_iff_right hforeign

/-- In a class only escapes are rewritten. -/
theorem isPortable_cons_iff_of_isOpen (hopen : b = true) (hc : c = '\\' → r = []) :
    IsPortable b (c :: r) ↔ IsPortable (classAfter b c) r := by
  have hforeign : ¬ IsForeign b (c :: r) := by
    intro h
    cases h with
    | letter | shortNumber | longNumber => cases hc rfl
    | namedGroup houtside | emptyClass houtside | fullClass houtside =>
      exact Bool.noConfusion (hopen.symm.trans houtside)
  rw [isPortable_cons_iff hc]
  exact and_iff_right hforeign

/-! ### Rewriting -/

theorem Context.eq_item (hopen : ctx.isOpen = false) (hreference : ctx ≠ .reference) :
    ctx = .item := by
  cases ctx with
  | item => rfl
  | characterClass => cases hopen
  | reference => exact absurd rfl hreference

/-- A source that is rewritten from a context stays as it is when it is portable there. -/
theorem rewrite_eq_self_iff (hctx : ctx ≠ .reference) :
    rewrite ctx t = t ↔ IsPortable ctx.isOpen t := by
  -- where something is rewritten, both sides fail; elsewhere the same characters stand in front of both
  fun_induction rewrite ctx t with
  | case1 => exact iff_of_true rfl isPortable_nil
  | case2 ctx c r h _ =>
    simp only [Bool.and_eq_true, decide_eq_true_eq, beq_iff_eq] at h
    obtain ⟨⟨⟨-, rfl⟩, -⟩, -⟩ := h
    refine iff_of_false (by simp) fun hportable => ?_
    exact Bool.noConfusion (isPortable_pair_iff.1 hportable).1
  | case3 ctx c r _ hescape _ =>
    have hc : c ≠ '\\' := fun hc => not_mem_of_isIdentityEscape hescape (by simp [hc])
    rw [isPortable_pair_iff, hescape]
    exact iff_of_false (by simp [hc]) (by simp)
  | case4 ctx c r _ hkept ih =>
    rw [isPortable_pair_iff, ← ih hctx]
    simp [hkept]
  | case5 r _ =>
    exact iff_of_false (by simp) fun hportable => hportable.not_isForeign (.fullClass rfl)
  | case6 ctx r hitem ih =>
    rw [Context.eq_characterClass hitem hctx, if_pos rfl] at ih ⊢
    -- in a class the characters stand for themselves, and the last one closes it
    have hclass : IsPortable true ('[' :: '^' :: ']' :: r) ↔ IsPortable false r := by
      rw [isPortable_cons_iff_of_isOpen rfl (by simp)]
      exact (isPortable_cons_iff_of_not_mem (by decide)).trans
        (isPortable_cons_iff_of_isOpen rfl (by simp))
    have hrest : rewrite .item r = r ↔ IsPortable false r := ih Context.noConfusion
    refine Iff.trans ?_ hclass.symm
    simpa using hrest
  | case7 r _ =>
    exact iff_of_false (by simp) fun hportable => hportable.not_isForeign (.emptyClass rfl)
  | case8 ctx r hitem ih =>
    rw [Context.eq_characterClass hitem hctx, if_pos rfl] at ih ⊢
    have hclass : IsPortable true ('[' :: ']' :: r) ↔ IsPortable false r := by
      rw [isPortable_cons_iff_of_isOpen rfl (by simp)]
      exact isPortable_cons_iff_of_isOpen rfl (by simp)
    have hrest : rewrite .item r = r ↔ IsPortable false r := ih Context.noConfusion
    refine Iff.trans ?_ hclass.symm
    simpa using hrest
  | case9 ctx r h _ =>
    simp only [Bool.and_eq_true, decide_eq_true_eq] at h
    obtain ⟨rfl, hname⟩ := h
    exact iff_of_false (by simp) fun hportable => hportable.not_isForeign (.namedGroup rfl hname)
  | case10 ctx r h ih =>
    have hforeign : ¬ IsForeign ctx.isOpen ('(' :: '?' :: '<' :: r) := by
      intro hforeign
      cases hforeign with
      | namedGroup houtside hname =>
        have hitem : ctx = .item := Context.eq_item houtside hctx
        exact h (by simp [hitem, hname])
    have hgroup : IsPortable ctx.isOpen ('(' :: '?' :: '<' :: r) ↔ IsPortable ctx.isOpen r := by
      rw [isPortable_cons_iff (by simp), and_iff_right hforeign]
      exact (isPortable_cons_iff_of_not_mem (by decide)).trans
        (isPortable_cons_iff_of_not_mem (by decide))
    rw [hgroup, ← ih hctx]
    simp
  | case11 c r hpair hfull hempty hgroup ih =>
    have hforeign : ¬ IsForeign Context.item.isOpen (c :: r) := by
      intro hforeign
      cases hforeign with
      | letter | shortNumber | longNumber => exact hpair _ _ rfl rfl
      | namedGroup => exact hgroup _ rfl rfl
      | emptyClass => exact hempty _ rfl rfl
      | fullClass => exact hfull _ rfl rfl
    rw [isPortable_cons_iff (nil_of_backslash hpair), and_iff_right hforeign, ← Context.isOpen_item,
      ← ih (by split <;> decide)]
    exact List.cons_inj_right c
  | case12 c r hpair _ _ _ ih =>
    have hopen : Context.characterClass.isOpen = true := rfl
    rw [isPortable_cons_iff_of_isOpen hopen (nil_of_backslash hpair),
      ← Context.isOpen_characterClass, ← ih (by split <;> decide)]
    exact List.cons_inj_right c
  | case13 | case14 | case15 => exact absurd rfl hctx

/-- **The sources that rewriting leaves alone** are those that are portable as they stand: no backslash is followed by a
letter that it does not change, or by a number with digits missing, and outside classes no group has a name and no class is
closed where it is opened. -/
theorem portable_eq_self_iff (source : Text) : portable source = source ↔ IsPortable false source :=
  rewrite_eq_self_iff Context.noConfusion

/-- A name and an opening bracket in a class, a look-behind, and an escaped backslash before a letter. -/
example : portable "[(?<n>[]\\x4f(?<=a)\\\\-".toList = "[(?<n>[]\\x4f(?<=a)\\\\-".toList := by
  decide

end SelectorCode.Pattern
