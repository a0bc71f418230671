import Mathlib.Logic.Function.Iterate
import SelectorCode.Proofs.Selector.Within

/-!
# The depth of nested selectors

A selector is read by reading the selectors in the bodies of its nested engines in the same way. Such a selector is not a
piece of the text around it: it is what a string in that text stands for. But a string stands for no more characters
than it is written with, and its two quotation marks stand for none. So on every level down, a selector is shorter by
two characters at least, and a selector of length `n` has at most `n / 2` levels below it.

It follows that reading needs no recursion without a bound. However texts are read that many levels down, the chain
around them comes out the same, since there are no such texts.

## Main Definitions

* `Json.leadingString?`: the string that a text begins with.
* `Selector.Nested`: the selectors that are read when a selector is.
* `Selector.NestedAt`: the selectors that are read a number of levels down.

## Main Statements

* `Json.length_of_leadingString?`: a string is shorter than the text that begins with it.
* `Selector.Nested.length_le`, `Selector.NestedAt.length_le`: what one level takes away, and what several levels do.
* `readChain_congr_of_nested`, `iterate_readChain_congr`: what reading depends on, one level down and several.
* `Chain.ofText_nesting_bounded`: reading is a recursion whose depth is at most half the length.
* `Chain.depth_le_of_ofText`: so is the depth of the chain that is read.
-/

namespace SelectorCode

open Selector (Error)

variable {s t : Text} {n : Nat} {f g : Text → Except Error Chain}

/-! ### The string in a body -/

/-- The string that a text begins with, whatever stands behind it. A list whose first entry is a string begins with it,
once its brackets are taken away. -/
def Json.leadingString? (t : Text) : Option Text :=
  match skipSpaces t with
  | '"' :: r => (quoted? r).map Prod.fst
  | _ => none

/-- **A string is shorter than the text that begins with it**, at least by its two quotation marks. -/
theorem Json.length_of_leadingString? (h : Json.leadingString? t = some s) : s.length + 2 ≤ t.length := by
  unfold leadingString? at h
  split at h
  next r hr =>
    obtain ⟨⟨s, rest⟩, hquoted, rfl⟩ := Option.map_eq_some_iff.1 h
    exact length_add_two_le hr hquoted
  next => cases h

/-- The selector in a body is the string that the body begins with. -/
theorem NestedBody.leadingString?_of_ofBody? {name body : Text} {b : NestedBody}
    (h : NestedBody.ofBody? name body = some b) : Json.leadingString? body = some b.selector := by
  have hread := (Option.filter_eq_some_iff.1 h).1
  unfold ofText? at hread
  split at hread
  next r hr =>
    split at hread
    next hquoted =>
      obtain ⟨d, -, rfl⟩ := Option.map_eq_some_iff.1 hread
      simp only [Json.leadingString?, hr, hquoted, Option.map_some]
    next => cases hread
  next => cases hread

/-! ### One level down -/

/-- The selectors in the bodies of the nested engines of a selector. -/
inductive Selector.Nested : Text → Text → Prop
  | body {s : Text} {l : Label} {b : NestedBody} (mem : l ∈ labels s)
      (engine : isNestedEngine l.name = true)
      (body_eq : NestedBody.ofBody? l.name l.body = some b) : Nested b.selector s

/-- **One level down**, a selector is shorter by two characters at least. -/
theorem Selector.Nested.length_le (h : Selector.Nested t s) : t.length + 2 ≤ s.length := by
  cases h with
  | body hmem _ hbody => exact length_add_two_le_of_ofBody? hmem hbody

/-- A selector one level down is the string that a body begins with. -/
theorem Selector.Nested.exists_label (h : Selector.Nested t s) :
    ∃ l ∈ labels s, isNestedEngine l.name = true ∧ Json.leadingString? l.body = some t := by
  cases h with
  | body hmem hengine hbody => exact ⟨_, hmem, hengine, NestedBody.leadingString?_of_ofBody? hbody⟩

/-- Reading a chain depends only on how the selectors one level down are read. -/
theorem readChain_congr_of_nested (h : ∀ t, Selector.Nested t s → f t = g t) :
    readChain f s = readChain g s :=
  readChain_congr fun _ hmem hengine _ hbody => h _ (.body hmem hengine hbody)

/-! ### Several levels down -/

/-- The selectors a number of levels down. -/
inductive Selector.NestedAt : Nat → Text → Text → Prop
  | refl (s : Text) : NestedAt 0 s s
  | step {n : Nat} {t u s : Text} (nested : Nested u s) (below : NestedAt n t u) :
      NestedAt (n + 1) t s

/-- **Several levels down**, a selector is shorter by two characters for each. -/
theorem Selector.NestedAt.length_le (h : Selector.NestedAt n t s) : t.length + 2 * n ≤ s.length := by
  induction h with
  | refl => exact Nat.le_refl _
  | step hnested _ ih =>
    have hlength := hnested.length_le
    omega

theorem Selector.NestedAt.le_half (h : Selector.NestedAt n t s) : n ≤ s.length / 2 := by
  have hlength := h.length_le
  omega

/-- The selectors at every depth are those on the levels. -/
theorem Selector.within_iff_exists_nestedAt : Selector.Within t s ↔ ∃ n, Selector.NestedAt n t s := by
  constructor
  · intro h
    induction h with
    | refl => exact ⟨0, .refl _⟩
    | body hmem hengine hbody _ ih =>
      obtain ⟨n, hbelow⟩ := ih
      exact ⟨n + 1, .step (.body hmem hengine hbody) hbelow⟩
  · rintro ⟨n, h⟩
    induction h with
    | refl => exact .refl _
    | step hnested _ ih =>
      cases hnested with
      | body hmem hengine hbody => exact .body hmem hengine hbody ih

/-- Reading with several levels of recursion depends only on how the selectors below them are read. -/
theorem iterate_readChain_congr (h : ∀ t, Selector.NestedAt n t s → f t = g t) :
    readChain^[n] f s = readChain^[n] g s := by
  induction n generalizing s with
  | zero => exact h s (.refl s)
  | succ n ih =>
    rw [Function.iterate_succ_apply', Function.iterate_succ_apply']
    exact readChain_congr_of_nested fun u hu => ih fun t ht => h t (.step hu ht)

/-- One level of recursion more changes nothing. -/
theorem readChain_ofText : readChain Chain.ofText = Chain.ofText := by
  funext s
  exact (Chain.ofText_eq s).symm

/-- **So many levels of recursion are enough**: below them there is nothing to read. -/
theorem iterate_readChain_eq_ofText (f : Text → Except Error Chain) (h : s.length < 2 * n) :
    readChain^[n] f s = Chain.ofText s := by
  have hnone : ∀ t, ¬ Selector.NestedAt n t s := fun t ht => by
    have hlength := ht.length_le
    omega
  calc
    readChain^[n] f s = readChain^[n] Chain.ofText s :=
      iterate_readChain_congr fun t ht => absurd ht (hnone t)
    _ = Chain.ofText s := by rw [Function.iterate_fixed readChain_ofText]

/-- **Reading is a recursion that ends on every text.** The string at the beginning of a body is shorter than the body by
two characters. The selectors that are read when a selector is, on which alone the chain depends, are such strings, and
shorter than the selector. So no selector is read more levels down than half the length of the outermost, and one level
of recursion more than that determines the chain, whatever stands in for the levels below. -/
theorem Chain.ofText_nesting_bounded (s : Text) :
    (∀ body t, Json.leadingString? body = some t → t.length + 2 ≤ body.length) ∧
    (∀ f g : Text → Except Error Chain, (∀ t, Selector.Nested t s → f t = g t) →
      readChain f s = readChain g s) ∧
    (∀ t, Selector.Nested t s →
      (∃ l ∈ SelectorCode.labels s, isNestedEngine l.name = true ∧ Json.leadingString? l.body = some t) ∧
        t.length < s.length) ∧
    (∀ n t, Selector.NestedAt n t s → n ≤ s.length / 2) ∧
    ∀ f : Text → Except Error Chain, readChain^[s.length / 2 + 1] f s = Chain.ofText s := by
  refine ⟨fun body t => Json.length_of_leadingString?, fun f g => readChain_congr_of_nested, ?_,
    fun n t => Selector.NestedAt.le_half, fun f => iterate_readChain_eq_ofText f (by omega)⟩
  intro t ht
  have hlength := ht.length_le
  exact ⟨ht.exists_label, by omega⟩

/-- A body may go on in any way behind its string. -/
example : Json.leadingString? " \"\\u0041\\n\", [0".toList = some "A\n".toList := by decide

/-! ### The depth of the chain -/

/-- The depth of parts is reached by the chain in the body of one of them. -/
theorem Part.exists_nested_of_lt_depths {ps : List Part} (h : n < Part.depths ps) :
    ∃ p ∈ ps, ∃ c d, p.body = .nested c d ∧ n ≤ c.depth := by
  induction ps with
  | nil => cases h
  | cons p ps ih =>
    rw [Part.depths] at h
    by_cases hfirst : n < p.depth
    · obtain ⟨name, body, source⟩ := p
      rw [Part.depth] at hfirst
      cases body with
      | text t => cases hfirst
      | nested c d =>
        rw [Body.depth] at hfirst
        exact ⟨_, List.mem_cons_self, c, d, rfl, Nat.le_of_lt_succ hfirst⟩
    · obtain ⟨q, hq, hbody⟩ := ih (by omega)
      exact ⟨q, List.mem_cons_of_mem p hq, hbody⟩

/-- Taking away shared frames makes no chain deeper. -/
theorem depth_withoutSharedFrames_le (preceding : List Part) (x : Chain) :
    (withoutSharedFrames preceding x).depth ≤ x.depth := by
  by_contra hlt
  rw [Nat.not_le, Chain.depth_eq (withoutSharedFrames preceding x)] at hlt
  obtain ⟨p, hp, c, d, hbody, hdepth⟩ := Part.exists_nested_of_lt_depths hlt
  have hle := Part.depth_le_depths (mem_of_mem_withoutSharedFrames hp)
  rw [Part.depth_of_nested hbody, ← Chain.depth_eq, ← Chain.depth_eq] at hle
  omega

/-- A chain in the body of a part has been read from a selector one level down. -/
theorem exists_nested_of_readPart {preceding : List Part} {l : Label} {p : Part} {c : Chain}
    {d : Option Binary64} (hl : l ∈ labels s) (h : readPart Chain.ofText s preceding l = .ok p)
    (hbody : p.body = .nested c d) :
    ∃ t x, Selector.Nested t s ∧ Chain.ofText t = .ok x ∧ c.depth ≤ x.depth := by
  rcases readPart_cases h with ⟨body, -, -, rfl⟩ | ⟨-, hengine, hnested⟩ | ⟨-, -, rfl⟩
  · cases hbody
  · obtain ⟨b, x, e, hb, hx, -, rfl⟩ := readNested_eq_ok_iff.1 hnested
    cases hbody
    exact ⟨b.selector, x, .body hl hengine hb, hx, depth_withoutSharedFrames_le preceding x⟩
  · cases hbody

/-- A chain is no deeper than there are levels of selectors to read. -/
theorem exists_nestedAt_of_le_depth {c : Chain} (h : Chain.ofText s = .ok c) (hn : n ≤ c.depth) :
    ∃ t, Selector.NestedAt n t s := by
  induction n generalizing s c with
  | zero => exact ⟨s, .refl s⟩
  | succ n ih =>
    rw [Chain.depth_eq] at hn
    obtain ⟨p, hp, inner, d, hbody, hinner⟩ := Part.exists_nested_of_lt_depths hn
    obtain ⟨before, l, hl, hread⟩ := Chain.exists_readPart h hp
    obtain ⟨u, x, hu, hx, hdepth⟩ := exists_nested_of_readPart hl hread hbody
    obtain ⟨t, ht⟩ := ih hx (Nat.le_trans hinner hdepth)
    exact ⟨t, .step hu ht⟩

/-- **The depth of the chain** that is read is at most half the length of the selector. -/
theorem Chain.depth_le_of_ofText {c : Chain} (h : Chain.ofText s = .ok c) : c.depth ≤ s.length / 2 := by
  obtain ⟨t, ht⟩ := exists_nestedAt_of_le_depth h (Nat.le_refl _)
  exact ht.le_half

end SelectorCode
