import SelectorCode.Pattern.Portable
import SelectorCode.Proofs.Pattern.Units

/-!
# Portable sources

Rewriting a source for the check leaves its classes alone: what is rewritten neither opens nor closes one, and an empty
class becomes something outside classes or a class that is closed again. Neither is a backslash added or removed at the
end. So what the check finds out about the end of the portable source holds of the source itself.

## Main Definitions

* `ending`: whether a class is open at the end of a source, if no backslash is left there.
* `IsNameRest`: the rest of a source inside the name of a reference.

## Main Statements

* `ending_portable`: the portable source ends like the source.
-/

namespace SelectorCode.Pattern

variable {b : Bool} {c : Char} {r s t : Text} {ctx : Context}

/-! ### The end of a source -/

/-- Whether a class is open at the end of a source; nothing if a backslash is left there. -/
def ending (b : Bool) (t : Text) : Option Bool :=
  if .dangling ∈ tokens t then none else some (isOpenAfter b (tokens t))

theorem ending_eq_none_iff : ending b t = none ↔ .dangling ∈ tokens t := by
  simp [ending]

theorem ending_of_not_mem (h : .dangling ∉ tokens t) :
    ending b t = some (isOpenAfter b (tokens t)) :=
  if_neg h

@[simp]
theorem ending_nil (b : Bool) : ending b [] = some b :=
  rfl

@[simp]
theorem ending_pair (b : Bool) (c : Char) (r : Text) : ending b ('\\' :: c :: r) = ending b r := by
  simp [ending, tokens_pair, Token.classAfter]

theorem ending_cons (hc : c ≠ '\\') (b : Bool) (r : Text) :
    ending b (c :: r) = ending (classAfter b c) r := by
  simp [ending, tokens_cons hc, Token.classAfter]

/-- A text in front that leaves no backslash may open a class or close it. -/
theorem ending_append {u : Text} (hu : .dangling ∉ tokens u) (b : Bool) (r : Text) :
    ending b (u ++ r) = ending (isOpenAfter b (tokens u)) r := by
  simp [ending, tokens_append hu, isOpenAfter_append, hu]

/-- Brackets apart, characters leave the end as it is. -/
theorem ending_cons_of_ne (hc : c ∉ ['\\', '[', ']']) (b : Bool) (r : Text) :
    ending b (c :: r) = ending b r := by
  simp only [List.mem_cons, List.not_mem_nil, or_false, not_or] at hc
  rw [ending_cons hc.1, classAfter, if_neg hc.2.1, if_neg hc.2.2]

/-- The same character in front of two texts, which is a backslash only if nothing follows. -/
theorem ending_cons_congr (hc : c = '\\' → r = []) (hs : r = [] → s = [])
    (h : ending (classAfter b c) s = ending (classAfter b c) r) :
    ending b (c :: s) = ending b (c :: r) := by
  by_cases hback : c = '\\'
  · rw [hc hback, hs (hc hback)]
  · rw [ending_cons hback, ending_cons hback, h]

/-! ### Names -/

/-- The characters that mean something else than themselves where names are rewritten. -/
def bracketing : Text :=
  ['\\', '[', ']', '(']

/-- The rest of a source inside the name of a reference: the letters of the name, and what closes it. -/
def IsNameRest (t : Text) : Prop :=
  ∃ name rest : Text, t = name ++ '>' :: rest ∧ ∀ c ∈ name, c ∉ bracketing

theorem IsNameRest.tail (h : IsNameRest (c :: r)) (hc : c ≠ '>') : IsNameRest r := by
  obtain ⟨name, rest, heq, hname⟩ := h
  cases name with
  | nil => exact absurd (List.cons.inj heq).1 hc
  | cons d name =>
    exact ⟨name, rest, (List.cons.inj heq).2, fun e he => hname e (List.mem_cons_of_mem d he)⟩

theorem IsNameRest.head_not_mem (h : IsNameRest (c :: r)) : c ∉ bracketing := by
  obtain ⟨name, rest, heq, hname⟩ := h
  cases name with
  | nil =>
    rw [(List.cons.inj heq).1]
    decide
  | cons d name =>
    rw [(List.cons.inj heq).1]
    exact hname d List.mem_cons_self

theorem not_mem_bracketing {f : Char → Bool} (hf : bracketing.any f = false) (h : f c = true) :
    c ∉ bracketing := by
  intro hc
  exact List.any_eq_false.1 hf c hc h

theorem not_mem_bracketing_of_isWord (h : Text.isWord c = true) : c ∉ bracketing :=
  not_mem_bracketing (by decide) h

theorem not_mem_bracketing_of_startsGroupName (h : startsGroupName c = true) : c ∉ bracketing :=
  not_mem_bracketing (by decide) h

/-- A name that is referred to is closed. -/
theorem isNameRest_of_startsName (hhead : r.head? = some '<') (h : startsName (r.drop 1) = true) :
    IsNameRest r := by
  cases r with
  | nil => cases hhead
  | cons d r =>
    cases hhead
    cases r with
    | nil => cases h
    | cons c r =>
      simp only [List.drop_one, List.tail_cons, startsName, Bool.and_eq_true, beq_iff_eq] at h
      obtain ⟨hc, hclose⟩ := h
      refine ⟨'<' :: c :: r.takeWhile Text.isWord, (r.dropWhile Text.isWord).tail, ?_, ?_⟩
      · rw [List.cons_append, List.cons_append, List.cons_head?_tail hclose,
          List.takeWhile_append_dropWhile]
      · intro d hd
        rcases List.mem_cons.1 hd with rfl | hd
        · decide
        rcases List.mem_cons.1 hd with rfl | hd
        · exact not_mem_bracketing_of_startsGroupName hc
        · exact not_mem_bracketing_of_isWord (List.all_eq_true.1 List.all_takeWhile d hd)

/-! ### Rewriting -/

/-- Whether a class is open in a context. -/
def Context.isOpen (ctx : Context) : Bool :=
  ctx = .characterClass

theorem Context.isOpen_item (c : Char) :
    (if c = '[' then Context.characterClass else .item).isOpen =
      classAfter Context.item.isOpen c := by
  unfold classAfter
  split
  · rfl
  · split <;> rfl

theorem Context.isOpen_characterClass (c : Char) :
    (if c = ']' then Context.item else .characterClass).isOpen =
      classAfter Context.characterClass.isOpen c := by
  unfold classAfter
  split
  · subst c
    rfl
  · split <;> rfl

theorem Context.eq_characterClass (hitem : ctx ≠ .item) (hreference : ctx ≠ .reference) :
    ctx = .characterClass := by
  cases ctx with
  | item => exact absurd rfl hitem
  | characterClass => rfl
  | reference => exact absurd rfl hreference

/-- A backslash that pairs with nothing is the last character. -/
theorem nil_of_backslash (h : ∀ d s, c = '\\' → r = d :: s → False) (hc : c = '\\') : r = [] :=
  List.eq_nil_iff_forall_not_mem.2 fun d hd => by
    cases r with
    | nil => cases hd
    | cons e s => exact h e s hc rfl

/-- An escape that is dropped leaves a letter. -/
theorem not_mem_of_isIdentityEscape (h : isIdentityEscape c r = true) : c ∉ ['\\', '[', ']'] := by
  have hspecial : ∀ d ∈ ['\\', '[', ']'], ∀ r, isIdentityEscape d r = false := by
    intro d hd r
    simp only [List.mem_cons, List.not_mem_nil, or_false] at hd
    rcases hd with rfl | rfl | rfl <;> rfl
  intro hc
  rw [hspecial c hc r] at h
  cases h

/-- Names hold no classes, and neither do they hold backslashes. -/
theorem ctx_ne_reference (hctx : ctx = .reference → IsNameRest (c :: r)) (hc : c ∈ bracketing) :
    ctx ≠ .reference :=
  fun h => (hctx h).head_not_mem hc

/-- A source that is rewritten from a context ends like the source. -/
theorem ending_rewrite (hctx : ctx = .reference → IsNameRest t) :
    ending ctx.isOpen (rewrite ctx t) = ending ctx.isOpen t := by
  fun_induction rewrite ctx t with
  | case1 => rfl
  | case2 ctx c r h ih =>
    simp only [Bool.and_eq_true, decide_eq_true_eq, beq_iff_eq] at h
    obtain ⟨⟨⟨rfl, -⟩, hhead⟩, hname⟩ := h
    rw [ending_pair]
    exact (ending_append (u := "(?P=".toList) (by decide) _ _).trans
      (ih fun _ => isNameRest_of_startsName hhead hname)
  | case3 ctx c r _ hescape ih =>
    rw [ending_pair, ending_cons_of_ne (not_mem_of_isIdentityEscape hescape)]
    exact ih fun h => absurd h (ctx_ne_reference hctx (by decide))
  | case4 ctx c r _ _ ih =>
    rw [ending_pair, ending_pair]
    exact ih fun h => absurd h (ctx_ne_reference hctx (by decide))
  | case5 r ih =>
    -- what the empty class becomes opens a class and closes it
    exact (ending_append (u := "[\\s\\S]".toList) (by decide) _ _).trans
      ((ih Context.noConfusion).trans (ending_append (u := "[^]".toList) (by decide) _ _).symm)
  | case6 ctx r hitem ih =>
    rw [Context.eq_characterClass hitem (ctx_ne_reference hctx (by decide)), if_pos rfl] at ih ⊢
    exact (ending_append (u := "[^]".toList) (by decide) _ _).trans
      ((ih Context.noConfusion).trans (ending_append (u := "[^]".toList) (by decide) _ _).symm)
  | case7 r ih =>
    exact (ending_append (u := "(?!)".toList) (by decide) _ _).trans
      ((ih Context.noConfusion).trans (ending_append (u := "[]".toList) (by decide) _ _).symm)
  | case8 ctx r hitem ih =>
    rw [Context.eq_characterClass hitem (ctx_ne_reference hctx (by decide)), if_pos rfl] at ih ⊢
    exact (ending_append (u := "[]".toList) (by decide) _ _).trans
      ((ih Context.noConfusion).trans (ending_append (u := "[]".toList) (by decide) _ _).symm)
  | case9 ctx r h ih =>
    simp only [Bool.and_eq_true, decide_eq_true_eq] at h
    obtain ⟨rfl, -⟩ := h
    exact (ending_append (u := "(?P<".toList) (by decide) _ _).trans
      ((ih Context.noConfusion).trans (ending_append (u := "(?<".toList) (by decide) _ _).symm)
  | case10 ctx r _ ih =>
    exact (ending_append (u := "(?<".toList) (by decide) _ _).trans
      ((ih fun h => absurd h (ctx_ne_reference hctx (by decide))).trans
        (ending_append (u := "(?<".toList) (by decide) _ _).symm)
  | case11 c r hpair _ _ _ ih =>
    refine ending_cons_congr (nil_of_backslash hpair) (congrArg (rewrite _)) ?_
    rw [← Context.isOpen_item]
    exact ih fun h => absurd h (by split <;> decide)
  | case12 c r hpair _ _ _ ih =>
    refine ending_cons_congr (nil_of_backslash hpair) (congrArg (rewrite _)) ?_
    rw [← Context.isOpen_characterClass]
    exact ih fun h => absurd h (by split <;> decide)
  | case13 r _ _ _ _ ih =>
    rw [ending_cons_of_ne (by decide)]
    exact ih fun _ => (hctx rfl).tail (by decide)
  | case14 r _ _ _ _ _ ih =>
    rw [ending_cons_of_ne (by decide), ending_cons_of_ne (by decide)]
    exact ih Context.noConfusion
  | case15 c r hpair _ _ _ hopen hclose ih =>
    have hname := hctx rfl
    have hc : c ∉ ['\\', '[', ']'] := fun hc => hname.head_not_mem (List.mem_append_left ['('] hc)
    rw [ending_cons_of_ne hc, ending_cons_of_ne hc]
    exact ih fun _ => hname.tail hclose

/-- **The portable source ends like the source**: with an open class if the source does, and with a backslash if the
source does. -/
theorem ending_portable (source : Text) : ending false (portable source) = ending false source :=
  ending_rewrite Context.noConfusion

theorem dangling_mem_tokens_portable_iff {source : Text} :
    .dangling ∈ tokens (portable source) ↔ .dangling ∈ tokens source := by
  rw [← ending_eq_none_iff (b := false), ending_portable, ending_eq_none_iff]

theorem isOpenAfter_portable {source : Text} (h : .dangling ∉ tokens source) :
    isOpenAfter false (tokens (portable source)) = isOpenAfter false (tokens source) := by
  have hportable : .dangling ∉ tokens (portable source) :=
    fun hmem => h (dangling_mem_tokens_portable_iff.1 hmem)
  have heq := ending_portable source
  rw [ending_of_not_mem h, ending_of_not_mem hportable] at heq
  exact Option.some.inj heq

end SelectorCode.Pattern
