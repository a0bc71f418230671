import Mathlib.Data.List.DropRight
import SelectorCode.Proofs.Attribute.Reading

/-!
# Local readers

A reader is local if it does not look behind the first character that it leaves: it does the same on every text that
agrees with the one read up to and including that character, and what it leaves then is what stands there. Readers are
put together from smaller ones that read one after the other, and locality goes from the parts to the whole.

## Main Definitions

* `Result.left?`, `Result.leaving`: the text that a result leaves, and the same result with another one.
* `IsLocalAt`: the reader does not look behind the first character that it leaves of a text.
* `andThen`: two readers one after the other.
* `readWhile`, `readClosed`: runs of characters, and what ends with a character of its own.

## Main Statements

* `IsLocalAt.append`: a local reader is not concerned with what is put behind a text.
* `IsLocalAt.andThen`, `IsLocalAt.of_trimmed`, `IsLocalAt.cons`: how locality comes about.
* `isLocalAt_readWhile`, `isLocalAt_readClosed`: what the other readers are made of is local.
-/

namespace SelectorCode.Attribute

variable {α β : Type}

/-! ### Local readers -/

/-- The text that a result leaves: what is behind what has been read, or begins with the unexpected symbol. -/
def Result.left? : Result α → Option Text
  | .ok (_, rest) => some rest
  | .error (.unexpected rest _) => some rest
  | .error _ => none

/-- The same result with another text left. -/
def Result.leaving (rest : Text) : Result α → Result α
  | .ok (a, _) => .ok (a, rest)
  | .error (.unexpected _ stage) => .error (.unexpected rest stage)
  | .error e => .error e

/-- The result of a reader on a text depends on no character behind the first one that it leaves. -/
def IsLocalAt (f : Text → Result α) (t : Text) : Prop :=
  ∀ c r, Result.left? (f t) = some (c :: r) →
    ∃ u, t = u ++ c :: r ∧ ∀ s, f (u ++ c :: s) = Result.leaving (c :: s) (f t)

/-- Two readers, the second on what the first leaves. -/
def andThen (f : Text → Result α) (g : α → Text → Result β) (t : Text) : Result β :=
  match f t with
  | .error e => .error e
  | .ok (a, rest) => g a rest

variable {f : Text → Result α} {g : α → Text → Result β} {t w r : Text} {a : α} {c : Char}

theorem andThen_of_ok {rest : Text} (h : f t = .ok (a, rest)) : andThen f g t = g a rest := by
  rw [andThen, h]

/-- A local reader reads the same when the text is changed behind the first character that is left. -/
theorem IsLocalAt.exists_append (h : IsLocalAt f t) (hf : f t = .ok (a, w ++ c :: r)) :
    ∃ u, t = u ++ (w ++ c :: r) ∧ ∀ s, f (u ++ (w ++ c :: s)) = .ok (a, w ++ c :: s) := by
  cases w with
  | nil =>
    obtain ⟨u, ht, hu⟩ := h c r (by rw [hf]; rfl)
    rw [hf] at hu
    exact ⟨u, ht, hu⟩
  | cons d w =>
    obtain ⟨u, ht, hu⟩ := h d (w ++ c :: r) (by rw [hf]; rfl)
    rw [hf] at hu
    exact ⟨u, ht, fun s => hu (w ++ c :: s)⟩

/-- A local reader that leaves something is not concerned with what is put behind it. -/
theorem IsLocalAt.append (h : IsLocalAt f t) (hf : f t = .ok (a, w)) (hw : w ≠ []) (s : Text) :
    f (t ++ s) = .ok (a, w ++ s) := by
  obtain ⟨c, r, rfl⟩ := List.exists_cons_of_ne_nil hw
  obtain ⟨u, rfl, hu⟩ := h.exists_append (w := []) hf
  rw [List.nil_append, List.append_assoc]
  exact hu (r ++ s)

/-- Two local readers in a row are local. -/
theorem IsLocalAt.andThen (hf : IsLocalAt f t)
    (hg : ∀ a rest, f t = .ok (a, rest) → IsLocalAt (g a) rest) :
    IsLocalAt (Attribute.andThen f g) t := by
  intro c r hleft
  cases hft : f t with
  | error e =>
    have herror : Attribute.andThen f g t = .error e := by rw [Attribute.andThen, hft]
    rw [herror] at hleft ⊢
    have hleft' : Result.left? (f t) = some (c :: r) := by
      rw [hft]
      cases e <;> exact hleft
    obtain ⟨u, ht, hu⟩ := hf c r hleft'
    refine ⟨u, ht, fun s => ?_⟩
    rw [Attribute.andThen, hu s, hft]
    cases e <;> rfl
  | ok p =>
    obtain ⟨a, rest⟩ := p
    rw [andThen_of_ok hft] at hleft ⊢
    obtain ⟨w, rfl, hw⟩ := hg a rest hft c r hleft
    obtain ⟨u, ht, hu⟩ := hf.exists_append hft
    refine ⟨u ++ w, by rw [ht, List.append_assoc], fun s => ?_⟩
    rw [List.append_assoc, andThen_of_ok (hu s), hw s]

/-- A reader is local if it is a local reader on all texts with the same first character. -/
theorem IsLocalAt.congr {f' : Text → Result α} (h : IsLocalAt f' (c :: t))
    (heq : ∀ s, f (c :: s) = f' (c :: s)) : IsLocalAt f (c :: t) := by
  intro d r hleft
  rw [heq] at hleft ⊢
  obtain ⟨u, hu, hread⟩ := h d r hleft
  refine ⟨u, hu, fun s => ?_⟩
  rw [← hread s]
  cases u with
  | nil =>
    cases hu
    exact heq s
  | cons e u =>
    cases hu
    exact heq (u ++ d :: s)

/-- On an empty text, a reader is local if it is a local reader there. -/
theorem IsLocalAt.congr_nil {f' : Text → Result α} (h : IsLocalAt f' []) (heq : f [] = f' []) :
    IsLocalAt f [] := by
  intro c r hleft
  rw [heq] at hleft
  obtain ⟨u, hu, -⟩ := h c r hleft
  exact absurd hu.symm (List.append_ne_nil_of_right_ne_nil u (List.cons_ne_nil c r))

/-- A reader is local if it is, behind a first character, a local reader. -/
theorem IsLocalAt.cons {f' : Text → Result α} (h : IsLocalAt f' t) (heq : ∀ s, f (c :: s) = f' s) :
    IsLocalAt f (c :: t) := by
  intro d r hleft
  rw [heq] at hleft ⊢
  obtain ⟨u, rfl, hu⟩ := h d r hleft
  refine ⟨c :: u, rfl, fun s => ?_⟩
  rw [List.cons_append, heq, hu s]

/-- Answering without reading is local. -/
theorem isLocalAt_ok (a : α) (t : Text) : IsLocalAt (fun rest => .ok (a, rest)) t := by
  intro c r hleft
  cases hleft
  exact ⟨[], rfl, fun _ => rfl⟩

/-- Blaming the first symbol is local. -/
theorem isLocalAt_unexpected (stage : Option Stage) (t : Text) :
    IsLocalAt (α := α) (fun rest => .error (.unexpected rest stage)) t := by
  intro c r hleft
  cases hleft
  exact ⟨[], rfl, fun _ => rfl⟩

/-- A reader that leaves nothing is local. -/
theorem isLocalAt_of_left? (h : Result.left? (f t) = none ∨ Result.left? (f t) = some []) :
    IsLocalAt f t := by
  intro c r hleft
  rcases h with h | h <;> cases h.symm.trans hleft

/-! ### Runs of characters -/

theorem not_of_dropWhile_eq_cons {p : Char → Bool} (h : t.dropWhile p = c :: r) : p c = false := by
  have hhead := List.head?_dropWhile_not p t
  rw [h] at hhead
  exact hhead

/-- The longest run of characters of one class. -/
def readWhile (p : Char → Bool) (t : Text) : Result Text :=
  .ok (t.takeWhile p, t.dropWhile p)

theorem isLocalAt_readWhile (p : Char → Bool) (t : Text) : IsLocalAt (readWhile p) t := by
  intro c r hleft
  have hdrop : t.dropWhile p = c :: r := Option.some.inj hleft
  have hc := not_of_dropWhile_eq_cons hdrop
  refine ⟨t.takeWhile p, by rw [← hdrop, List.takeWhile_append_dropWhile], fun s => ?_⟩
  have hrun : ∀ d ∈ t.takeWhile p, p d = true := List.all_eq_true.1 List.all_takeWhile
  rw [readWhile, List.takeWhile_append_of_pos hrun, List.dropWhile_append_of_pos hrun,
    List.takeWhile_cons_of_neg (by simp [hc]), List.dropWhile_cons_of_neg (by simp [hc]),
    List.append_nil]
  rfl

/-- A reader that takes no notice of blanks in front is local if it is local behind them. -/
theorem IsLocalAt.of_trimStart (h : IsLocalAt f (Text.trimStart t))
    (htrim : ∀ s, f s = f (Text.trimStart s)) : IsLocalAt f t := by
  have heq : f = Attribute.andThen (readWhile Text.isBlank) fun _ => f := funext htrim
  rw [heq]
  refine (isLocalAt_readWhile _ t).andThen fun _ rest hrest => ?_
  cases hrest
  exact h

theorem trimStart_trimStart (t : Text) : Text.trimStart (Text.trimStart t) = Text.trimStart t :=
  List.dropWhile_idempotent Text.isBlank t

/-- Behind blanks there is nothing, or a character that is no blank with a shorter text behind it. -/
theorem IsLocalAt.of_trimmed (htrim : ∀ s, f s = f (Text.trimStart s)) (hnil : IsLocalAt f [])
    (hcons : ∀ c r, Text.isBlank c = false → r.length < t.length → IsLocalAt f (c :: r)) :
    IsLocalAt f t := by
  refine .of_trimStart ?_ htrim
  have hlength := (trimStart_suffix t).length_le
  cases ht : Text.trimStart t with
  | nil => exact hnil
  | cons c r =>
    rw [ht, List.length_cons] at hlength
    exact hcons c r (Text.isBlank_of_trimStart_cons ht) hlength

/-! ### Closed readers -/

/-- A reader that fails only at the end of the text. -/
def readClosed (f : Text → Option (Text × Text)) (stage : Stage) (t : Text) : Result Text :=
  match f t with
  | none => .error (.unexpected [] (some stage))
  | some p => .ok p

/-- A reader that ends with a character of its own does not look behind it. -/
theorem isLocalAt_readClosed {f : Text → Option (Text × Text)} (stage : Stage)
    (h : ∀ token rest, f t = some (token, rest) →
      ∃ u, t = u ++ rest ∧ ∀ s, f (u ++ s) = some (token, s)) :
    IsLocalAt (readClosed f stage) t := by
  intro c r hleft
  unfold readClosed at hleft ⊢
  cases hft : f t with
  | none =>
    rw [hft] at hleft
    cases hleft
  | some p =>
    obtain ⟨token, rest⟩ := p
    rw [hft] at hleft
    cases hleft
    obtain ⟨u, ht, hu⟩ := h token _ hft
    exact ⟨u, ht, fun s => by rw [hu (c :: s)]; rfl⟩

end SelectorCode.Attribute
