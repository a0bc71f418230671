import Mathlib.Logic.Function.Basic
import SelectorCode.Proofs.Locator.Joining

/-!
# Exchanging pairs

Frames are put first by exchanging every index with the frame marker directly after it. Since no part is both, pairs do
not overlap, and whether two neighbours are a pair can be told from the list as it was given. So it makes no difference
whether all pairs are exchanged at once, or one after the other in the list that is being read: what a pass has changed
lies behind it.

## Main Definitions

* `isPairAt`: the places at which pairs begin.
* `partner`: where the part at a place comes from when all pairs are exchanged at once.
* `ExchangePass`: a pass over a list that changes it in place.

## Main Statements

* `partner_involutive`, `partner_near`: pairs change places, and no part moves further.
* `getElem?_framesFirst`: putting frames first exchanges all pairs at once.
* `ExchangePass.IsOver.next`, `ExchangePass.IsOver.run`: what a round of the pass keeps, and what the pass keeps.
* `ExchangePass.run_copy`: a pass over a copy puts frames first, and leaves all other lists alone.
* `framesFirst_exchanges_pairs`: all of this together.
-/

namespace SelectorCode

variable {p q : Part} {ps : List Part} {i : Nat}

/-! ### All pairs at once -/

theorem exists_cons_cons (h : 1 < ps.length) : ∃ p q r, ps = p :: q :: r := by
  cases ps with
  | nil => cases h
  | cons p ps =>
    obtain ⟨q, r, rfl⟩ := List.exists_cons_of_length_pos (Nat.lt_of_succ_lt_succ h)
    exact ⟨p, q, r, rfl⟩

/-- One part alone stays where it is. -/
theorem framesFirst_of_length_le (h : ps.length ≤ 1) : framesFirst ps = ps := by
  fun_cases framesFirst ps with
  | case1 => simp at h
  | case2 => simp at h
  | case3 => rfl

/-- Whether a pair begins at a place: an index stands there, and a frame marker directly after it. -/
def isPairAt (ps : List Part) (i : Nat) : Bool :=
  ps[i]?.any Part.isNth && ps[i + 1]?.any Part.isEnterFrame

/-- The place that changes with a place when all pairs are exchanged at once. -/
def partner (ps : List Part) (i : Nat) : Nat :=
  if isPairAt ps i then i + 1
  else if isPairAt ps (i - 1) then i - 1
  else i

@[simp]
theorem isPairAt_cons_cons_zero (p q : Part) (ps : List Part) :
    isPairAt (p :: q :: ps) 0 = (p.isNth && q.isEnterFrame) :=
  rfl

@[simp]
theorem isPairAt_cons_succ (p : Part) (ps : List Part) (i : Nat) :
    isPairAt (p :: ps) (i + 1) = isPairAt ps i :=
  rfl

/-- A pair has two places. -/
theorem isPairAt_eq_false (h : ps.length ≤ i + 1) : isPairAt ps i = false := by
  rw [isPairAt, List.getElem?_eq_none h, Option.any_none, Bool.and_false]

/-- Pairs do not overlap. -/
theorem isPairAt_succ (h : isPairAt ps i = true) : isPairAt ps (i + 1) = false := by
  simp only [isPairAt, Bool.and_eq_true, Option.any_eq_true] at h
  obtain ⟨-, q, hq, hmarker⟩ := h
  rw [isPairAt, hq, Option.any_some, isNth_of_isEnterFrame hmarker, Bool.false_and]

theorem partner_of_isPairAt (h : isPairAt ps i = true) : partner ps i = i + 1 :=
  if_pos h

theorem partner_succ (h : isPairAt ps i = true) : partner ps (i + 1) = i := by
  rw [partner, if_neg (by simp [isPairAt_succ h]), Nat.add_sub_cancel, if_pos h]

theorem partner_eq_self (h : isPairAt ps i = false) (hpred : isPairAt ps (i - 1) = false) :
    partner ps i = i := by
  rw [partner, if_neg (by simp [h]), if_neg (by simp [hpred])]

/-- **Pairs change places**: the partner of the partner of a place is the place itself. -/
theorem partner_involutive (ps : List Part) : Function.Involutive (partner ps) := by
  intro i
  by_cases hpair : isPairAt ps i = true
  · rw [partner_of_isPairAt hpair, partner_succ hpair]
  · by_cases hpred : isPairAt ps (i - 1) = true
    · cases i with
      | zero => exact absurd hpred hpair
      | succ i =>
        rw [Nat.add_sub_cancel] at hpred
        rw [partner_succ hpred, partner_of_isPairAt hpred]
    · have hself := partner_eq_self (by simpa using hpair) (by simpa using hpred)
      rw [hself, hself]

/-- **No part moves by more than one place.** -/
theorem partner_near (ps : List Part) (i : Nat) : partner ps i ≤ i + 1 ∧ i ≤ partner ps i + 1 := by
  unfold partner
  split
  · omega
  · split <;> omega

/-- One part more in front moves the partners along, unless it makes up a pair with the first of the others. -/
theorem partner_cons_succ (h : i = 0 → isPairAt (p :: ps) 0 = false) :
    partner (p :: ps) (i + 1) = partner ps i + 1 := by
  cases i with
  | zero => by_cases hpair : isPairAt ps 0 = true <;> simp [partner, h rfl, hpair]
  | succ i =>
    simp only [partner, isPairAt_cons_succ, Nat.add_sub_cancel]
    split
    · rfl
    · split <;> rfl

/-- **Frames are put first by exchanging all pairs at once**: at each place stands the part of its partner. -/
theorem getElem?_framesFirst (ps : List Part) (i : Nat) : (framesFirst ps)[i]? = ps[partner ps i]? := by
  fun_induction framesFirst ps generalizing i with
  | case1 p q r hpair ih =>
    have hfirst : isPairAt (p :: q :: r) 0 = true := hpair
    cases i with
    | zero => rw [partner_of_isPairAt hfirst]; rfl
    | succ i =>
      cases i with
      | zero => rw [partner_succ hfirst]; rfl
      | succ i =>
        rw [partner_cons_succ (by simp), partner_cons_succ fun _ => isPairAt_succ hfirst]
        simpa using ih i
  | case2 p q r hpair ih =>
    have hfirst : isPairAt (p :: q :: r) 0 = false := by simpa using hpair
    cases i with
    | zero => rw [partner_eq_self hfirst hfirst]; rfl
    | succ i =>
      rw [partner_cons_succ fun _ => hfirst]
      simpa using ih i
  | case3 ps hshort =>
    have hlength : ps.length ≤ 1 := by
      by_contra hlong
      obtain ⟨p, q, r, rfl⟩ := exists_cons_cons (Nat.lt_of_not_le hlong)
      exact hshort p q r rfl
    rw [partner_eq_self (isPairAt_eq_false (by omega)) (isPairAt_eq_false (by omega))]

/-! ### The parts of one kind -/

/-- The parts of a kind that only one part of each pair can be of keep their order. -/
theorem filter_framesFirst {kind : Part → Bool}
    (h : ∀ p q, p.isNth = true → q.isEnterFrame = true → (kind p && kind q) = false) (ps : List Part) :
    (framesFirst ps).filter kind = ps.filter kind := by
  fun_induction framesFirst ps with
  | case1 p q r hpair ih =>
    rw [Bool.and_eq_true] at hpair
    have hone := h p q hpair.1 hpair.2
    by_cases hp : kind p = true
    · rw [hp, Bool.true_and] at hone
      simp [List.filter_cons, hone, ih]
    · simp [List.filter_cons, hp, ih]
  | case2 p q r _ ih => rw [List.filter_cons, ih, ← List.filter_cons]
  | case3 => rfl

/-! ### In place -/

/-- A pass that exchanges pairs in place: lists at addresses, and the place in the list that the pass is at. -/
structure ExchangePass where
  lists : Nat → List Part
  index : Nat

/-- A list with the part at a place and the next one exchanged. -/
def exchangeAt (ps : List Part) (i : Nat) : List Part :=
  match ps[i]?, ps[i + 1]? with
  | some p, some q => (ps.set i q).set (i + 1) p
  | _, _ => ps

theorem length_exchangeAt (ps : List Part) (i : Nat) : (exchangeAt ps i).length = ps.length := by
  unfold exchangeAt
  split <;> simp

theorem exchangeAt_append (us ps : List Part) (p q : Part) :
    exchangeAt (us ++ p :: q :: ps) us.length = us ++ q :: p :: ps := by
  simp [exchangeAt]

namespace ExchangePass

variable {a b c : Nat} {s : ExchangePass}

/-- One round of a pass over the list at an address: a pair is exchanged and left behind, any other part is left
behind. -/
def next (b : Nat) (s : ExchangePass) : ExchangePass :=
  if isPairAt (s.lists b) s.index then
    ⟨Function.update s.lists b (exchangeAt (s.lists b) s.index), s.index + 2⟩
  else ⟨s.lists, s.index + 1⟩

theorem index_lt_index_next (b : Nat) (s : ExchangePass) : s.index < (s.next b).index := by
  unfold next
  split <;> simp

theorem length_next (b : Nat) (s : ExchangePass) :
    ((s.next b).lists b).length = (s.lists b).length := by
  unfold next
  split
  · simp [length_exchangeAt]
  · rfl

/-- The rounds of a pass over the list at an address, as long as there are two parts to look at. -/
def run (b : Nat) (s : ExchangePass) : ExchangePass :=
  if s.index + 1 < (s.lists b).length then run b (s.next b) else s
termination_by (s.lists b).length - s.index
decreasing_by
  have hindex := index_lt_index_next b s
  rw [length_next]
  omega

/-- A pass over a copy of the list at the address `a`, put at the address `b`. -/
def copy (lists : Nat → List Part) (a b : Nat) : ExchangePass :=
  ⟨Function.update lists b (lists a), 0⟩

/-- A pass has come over the parts `us`, which stay as they are, and still has to put the parts `rest` in order. -/
structure IsOver (b : Nat) (ps us rest : List Part) (s : ExchangePass) : Prop where
  lists_eq : s.lists b = us ++ rest
  index_eq : s.index = us.length
  framesFirst_eq : framesFirst ps = us ++ framesFirst rest

/-- **One round** takes a pass over a pair, whose parts change places, or over one part. -/
theorem IsOver.next {us rest : List Part} (h : s.IsOver b ps us rest)
    (hindex : s.index + 1 < (s.lists b).length) :
    ∃ us rest, (s.next b).IsOver b ps us rest := by
  have hlength : 1 < rest.length := by
    rw [h.index_eq, h.lists_eq, List.length_append] at hindex
    omega
  obtain ⟨p, q, r, rfl⟩ := exists_cons_cons hlength
  have hpairAt : isPairAt (s.lists b) s.index = (p.isNth && q.isEnterFrame) := by
    simp [isPairAt, h.lists_eq, h.index_eq]
  have hread := h.framesFirst_eq
  by_cases hpair : (p.isNth && q.isEnterFrame) = true
  · have hnext : s.next b = ⟨Function.update s.lists b (us ++ q :: p :: r), s.index + 2⟩ := by
      rw [ExchangePass.next, hpairAt, if_pos hpair, h.lists_eq, h.index_eq, exchangeAt_append]
    rw [framesFirst, if_pos hpair] at hread
    rw [hnext]
    exact ⟨us ++ [q, p], r, by simp, by simp [h.index_eq], by simp [hread]⟩
  · have hnext : s.next b = ⟨s.lists, s.index + 1⟩ := by
      rw [ExchangePass.next, hpairAt, if_neg hpair]
    rw [framesFirst, if_neg hpair] at hread
    rw [hnext]
    exact ⟨us ++ [p], q :: r, by simp [h.lists_eq], by simp [h.index_eq], by simp [hread]⟩

/-- **The whole pass** puts the parts in order. -/
theorem IsOver.run {us rest : List Part} (h : s.IsOver b ps us rest) :
    (s.run b).lists b = framesFirst ps := by
  fun_induction ExchangePass.run b s generalizing us rest with
  | case1 s hindex ih =>
    obtain ⟨us, rest, hnext⟩ := h.next hindex
    exact ih hnext
  | case2 s hindex =>
    -- at most one part is left, and it stays where it is
    have hlength : rest.length ≤ 1 := by
      rw [h.index_eq, h.lists_eq, List.length_append] at hindex
      omega
    rw [h.lists_eq, h.framesFirst_eq, framesFirst_of_length_le hlength]

/-- A pass writes to no other list. -/
theorem lists_run_of_ne (h : c ≠ b) (s : ExchangePass) : (s.run b).lists c = s.lists c := by
  fun_induction ExchangePass.run b s with
  | case1 s _ ih =>
    rw [ih, next]
    split
    · exact Function.update_of_ne h _ _
    · rfl
  | case2 => rfl

/-- **A pass over a copy** puts the parts of the list in order and leaves all lists alone but the copy, also the one that
was copied. -/
theorem run_copy (lists : Nat → List Part) (a b : Nat) :
    ((copy lists a b).run b).lists b = framesFirst (lists a) ∧
      ∀ c, c ≠ b → ((copy lists a b).run b).lists c = lists c := by
  constructor
  · have hstart : (copy lists a b).IsOver b (lists a) [] (lists a) :=
      ⟨by simp [copy], rfl, rfl⟩
    exact hstart.run
  · intro c hc
    rw [lists_run_of_ne hc]
    exact Function.update_of_ne hc (lists a) lists

end ExchangePass

/-! ### Together -/

/-- **Putting frames first exchanges exactly the pairs**: each place takes the part of its partner, so that pairs change
places and nothing moves by more than one. The parts stay the same, those that are indices in their order and those that
are none in theirs. A pass in place comes to this as well, and the list it has copied stays as it was. -/
theorem framesFirst_exchanges_pairs (ps : List Part) :
    (∀ i, (framesFirst ps)[i]? = ps[partner ps i]?) ∧
    Function.Involutive (partner ps) ∧
    (∀ i, partner ps i ≤ i + 1 ∧ i ≤ partner ps i + 1) ∧
    (framesFirst ps).Perm ps ∧
    (framesFirst ps).filter Part.isNth = ps.filter Part.isNth ∧
    (framesFirst ps).filter (fun p => !p.isNth) = ps.filter (fun p => !p.isNth) ∧
    ∀ (lists : Nat → List Part) (a b : Nat), lists a = ps →
      ((ExchangePass.copy lists a b).run b).lists b = framesFirst ps ∧
        ∀ c, c ≠ b → ((ExchangePass.copy lists a b).run b).lists c = lists c := by
  refine ⟨getElem?_framesFirst ps, partner_involutive ps, partner_near ps, framesFirst_perm ps,
    filter_framesFirst (fun p q _ hq => ?_) ps, filter_framesFirst (fun p q hp _ => ?_) ps, ?_⟩
  · rw [isNth_of_isEnterFrame hq, Bool.and_false]
  · rw [hp, Bool.not_true, Bool.false_and]
  · rintro lists a b rfl
    exact ExchangePass.run_copy lists a b

/-- Two markers behind two indices: only the pair in the middle changes places. -/
example : (List.range 4).map (partner [.ofText Engine.nth ['0'], .ofText Engine.nth ['1'],
    .ofText Engine.control Part.enterFrameBody, .ofText Engine.control Part.enterFrameBody]) =
      [0, 2, 1, 3] := by
  decide +kernel

end SelectorCode
