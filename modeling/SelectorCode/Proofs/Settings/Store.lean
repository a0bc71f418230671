import Mathlib.Data.List.Induction
import Mathlib.Data.List.Infix
import SelectorCode.Settings.Store

/-!
# What a settings store answers

Settings that have been read successfully are answered until the store is cleared, whatever happens to the environment.
A failure leaves the store as it was, so the next request reads the environment again. Which environment an answer comes
from is therefore decided by the answers before it: it is the one in which the first request since the last clearing
succeeded, or the present one if none has.

## Main Definitions

* `SettingsStore.after`: the store after a list of steps.
* `environmentAfter`: the environment after a list of steps, whoever reads it.
* `SucceedsAt`: the requests of a run that are answered with settings.
* `ClearedBetween`: whether the store is cleared between two steps of a list.

## Main Statements

* `kept_step`: what is kept is kept by every step but clearing.
* `getElem?_run`: the answers of a run are those of the stores on the way.
* `exists_of_kept_after`: what is kept comes from the first successful request since the last clearing.
* `not_succeedsAt_of_kept_eq_none`: if nothing is kept, there has been no such request.
* `exists_deciding_get`: which environment an answer comes from.
-/

namespace SelectorCode

namespace SettingsStore

variable {validation : Settings.Validation} {s : SettingsStore validation} {env : Environment}
  {settings : Settings} {steps xs ys : List Step}

/-! ### Single steps -/

/-- What a step does to an environment. Neither clearing nor reading changes it. -/
def Step.change (env : Environment) : Step → Environment
  | .set name value => env.set name value
  | .unset name => env.unset name
  | .clear => env
  | .get => env

/-- With nothing kept, a request is answered by the environment. -/
theorem get_of_kept_eq_none (h : s.kept = none) :
    s.get.1 = Settings.read validation s.environment := by
  unfold get
  rw [h]
  cases Settings.read validation s.environment <;> rfl

/-- What is kept is answered. -/
theorem get_of_kept_eq_some (h : s.kept = some settings) : s.get.1 = .ok settings := by
  unfold get
  rw [h]

theorem environment_get (s : SettingsStore validation) : s.get.2.environment = s.environment := by
  unfold get
  split
  · rfl
  · split <;> rfl

/-- What has been answered successfully is kept. -/
theorem kept_get_of_ok (h : s.get.1 = .ok settings) : s.get.2.kept = some settings := by
  unfold get at h ⊢
  cases hkept : s.kept with
  | some other =>
    rw [hkept] at h
    cases h
    exact hkept
  | none =>
    rw [hkept] at h
    cases hread : Settings.read validation s.environment with
    | ok other =>
      simp only [hread] at h ⊢
      cases h
      rfl
    | error e =>
      simp only [hread] at h
      cases h

/-- A failure leaves the store as it was. -/
theorem get_of_error {e : Settings.Error} (h : s.get.1 = .error e) : s.get.2 = s := by
  unfold get at h ⊢
  cases hkept : s.kept with
  | some other => rfl
  | none =>
    rw [hkept] at h
    cases hread : Settings.read validation s.environment with
    | ok other =>
      simp only [hread] at h
      cases h
    | error e => rfl

/-- A step changes the environment of a store as it changes any other. -/
theorem environment_step (s : SettingsStore validation) (x : Step) :
    (s.step x).2.environment = x.change s.environment := by
  cases x with
  | set name value => rfl
  | unset name => rfl
  | clear => rfl
  | get => exact environment_get s

/-- What is kept is kept by every step but clearing. -/
theorem kept_step (h : s.kept = some settings) {x : Step} (hx : x ≠ .clear) :
    (s.step x).2.kept = some settings := by
  cases x with
  | set name value => exact h
  | unset name => exact h
  | clear => exact absurd rfl hx
  | get =>
    rw [step, get, h]
    exact h

/-! ### Runs -/

/-- The store after a list of steps. -/
def after (s : SettingsStore validation) (steps : List Step) : SettingsStore validation :=
  steps.foldl (fun s x => (s.step x).2) s

/-- The environment after a list of steps, whoever reads it on the way. -/
def environmentAfter (env : Environment) (steps : List Step) : Environment :=
  steps.foldl Step.change env

theorem after_append (s : SettingsStore validation) (xs ys : List Step) :
    s.after (xs ++ ys) = (s.after xs).after ys :=
  List.foldl_append

theorem after_concat (s : SettingsStore validation) (xs : List Step) (x : Step) :
    s.after (xs ++ [x]) = ((s.after xs).step x).2 :=
  after_append s xs [x]

theorem environment_after (s : SettingsStore validation) (steps : List Step) :
    (s.after steps).environment = environmentAfter s.environment steps := by
  induction steps generalizing s with
  | nil => rfl
  | cons x xs ih =>
    have hstep := ih (s.step x).2
    rwa [environment_step] at hstep

/-- With nothing kept, a request is answered by the environment that the steps have left behind. -/
theorem get_after_of_kept_eq_none (h : ((opened validation env).after steps).kept = none) :
    ((opened validation env).after steps).get.1 =
      Settings.read validation (environmentAfter env steps) := by
  rw [get_of_kept_eq_none h, environment_after]
  rfl

/-- What is kept is kept until the store is cleared. -/
theorem kept_after (h : s.kept = some settings) (hclear : .clear ∉ steps) :
    (s.after steps).kept = some settings := by
  induction steps generalizing s with
  | nil => exact h
  | cons x xs ih =>
    rw [List.mem_cons, not_or] at hclear
    exact ih (kept_step h (Ne.symm hclear.1)) hclear.2

/-- The answers of a run are those of the stores on the way. -/
theorem getElem?_run (s : SettingsStore validation) (steps : List Step) (k : Nat) :
    (s.run steps)[k]? = steps[k]?.map fun x => ((s.after (steps.take k)).step x).1 := by
  induction steps generalizing s k with
  | nil => rfl
  | cons x xs ih =>
    cases k with
    | zero => rfl
    | succ k => exact ih (s.step x).2 k

/-- What is kept comes from a request since the last clearing that found nothing kept. -/
theorem exists_of_kept_after (h : ((opened validation env).after steps).kept = some settings) :
    ∃ xs ys, steps = xs ++ .get :: ys ∧ .clear ∉ ys ∧ ((opened validation env).after xs).kept = none ∧
      Settings.read validation (environmentAfter env xs) = .ok settings := by
  induction steps using List.reverseRecOn with
  | nil => cases h
  | append_singleton steps x ih =>
    rw [after_concat] at h
    cases hkept : ((opened validation env).after steps).kept with
    | some other =>
      -- it was kept before the last step, which therefore was no clearing
      have hx : x ≠ .clear := by
        rintro rfl
        cases h
      obtain ⟨xs, ys, rfl, hclear, hnone, hread⟩ :=
        ih (hkept.trans ((kept_step hkept hx).symm.trans h))
      refine ⟨xs, ys ++ [x], by simp, ?_, hnone, hread⟩
      rw [List.mem_append, List.mem_singleton, not_or]
      exact ⟨hclear, Ne.symm hx⟩
    | none =>
      -- the last step has brought it, so it is a request
      cases x with
      | set name value => cases hkept.symm.trans h
      | unset name => cases hkept.symm.trans h
      | clear => cases h
      | get =>
        refine ⟨steps, [], rfl, by simp, hkept, ?_⟩
        rw [← get_after_of_kept_eq_none hkept]
        cases hget : ((opened validation env).after steps).get.1 with
        | ok other => exact congrArg Except.ok (Option.some.inj ((kept_get_of_ok hget).symm.trans h))
        | error e =>
          have hsame : ((opened validation env).after steps).get.2.kept = none := by
            rw [get_of_error hget, hkept]
          cases hsame.symm.trans h

/-! ### Which environment is answered -/

/-- Whether the step at index `i` of a run that begins with nothing kept is a request that is answered with settings. -/
def SucceedsAt (validation : Settings.Validation) (env : Environment) (steps : List Step) (i : Nat) : Prop :=
  ∃ settings, ((opened validation env).run steps)[i]? = some (some (.ok settings))

/-- Whether the store is cleared between the steps at indices `i` and `k`. -/
def ClearedBetween (steps : List Step) (i k : Nat) : Prop :=
  .clear ∈ (steps.take k).drop (i + 1)

theorem ClearedBetween.mono {i j k : Nat} (h : ClearedBetween steps i j) (hjk : j ≤ k) :
    ClearedBetween steps i k :=
  List.IsPrefix.mem h (List.IsPrefix.drop (List.take_prefix_take_left hjk) (i + 1))

theorem not_clearedBetween_self (k : Nat) : ¬ ClearedBetween steps k k := by
  have hnil : (steps.take k).drop (k + 1) = [] :=
    List.drop_eq_nil_of_le (by rw [List.length_take]; omega)
  rw [ClearedBetween, hnil]
  exact List.not_mem_nil

/-- The steps before an index, divided at an earlier one. -/
theorem take_eq_append_cons {i k : Nat} {x : Step} (hx : steps[i]? = some x) (hik : i < k) :
    steps.take k = steps.take i ++ x :: (steps.take k).drop (i + 1) := by
  have htake : (steps.take k).take i = steps.take i := by
    rw [List.take_take, Nat.min_eq_left (Nat.le_of_lt hik)]
  have hdrop : (steps.take k).drop i = x :: (steps.take k).drop (i + 1) := by
    rw [List.drop_eq_getElem?_toList_append, List.getElem?_take_of_lt hik, hx]
    rfl
  rw [← htake, ← hdrop, List.take_append_drop]

/-- A request is answered by the store that it finds. -/
theorem getElem?_run_of_get {k : Nat} (hget : steps[k]? = some .get) :
    ((opened validation env).run steps)[k]? = some (some ((opened validation env).after (steps.take k)).get.1) := by
  rw [getElem?_run, hget]
  rfl

/-- After a successful request something is kept, as long as the store is not cleared. -/
theorem kept_after_of_succeedsAt {i k : Nat} (hik : i < k) (hget : steps[i]? = some .get)
    (hclear : ¬ ClearedBetween steps i k) (h : SucceedsAt validation env steps i) :
    ∃ settings, ((opened validation env).after (steps.take k)).kept = some settings := by
  obtain ⟨settings, hanswer⟩ := h
  rw [getElem?_run_of_get hget] at hanswer
  have hok := Option.some.inj (Option.some.inj hanswer)
  refine ⟨settings, ?_⟩
  rw [take_eq_append_cons hget hik, after_append]
  exact kept_after (s := (((opened validation env).after (steps.take i)).step .get).2)
    (kept_get_of_ok hok) hclear

/-- If nothing is kept, no request since the last clearing has succeeded. -/
theorem not_succeedsAt_of_kept_eq_none {i k : Nat} (hik : i < k)
    (hkept : ((opened validation env).after (steps.take k)).kept = none) (hget : steps[i]? = some .get)
    (hclear : ¬ ClearedBetween steps i k) : ¬ SucceedsAt validation env steps i := by
  intro hsucceeds
  obtain ⟨settings, hsome⟩ := kept_after_of_succeedsAt hik hget hclear hsucceeds
  cases hkept.symm.trans hsome

/-- What is kept before a step comes from a request before it that found nothing kept. -/
theorem exists_lt_of_kept_after {k : Nat}
    (hkept : ((opened validation env).after (steps.take k)).kept = some settings) :
    ∃ j < k, steps[j]? = some .get ∧ ¬ ClearedBetween steps j k ∧
      ((opened validation env).after (steps.take j)).kept = none ∧
      Settings.read validation (environmentAfter env (steps.take j)) = .ok settings := by
  obtain ⟨xs, ys, hsplit, hclear, hnone, hread⟩ := exists_of_kept_after hkept
  have hlength := congrArg List.length hsplit
  rw [List.length_take, List.length_append, List.length_cons] at hlength
  have hjk : xs.length < k := by omega
  have hxs : steps.take xs.length = xs := by
    rw [← Nat.min_eq_left (Nat.le_of_lt hjk), ← List.take_take, hsplit, List.take_left]
  have hys : (steps.take k).drop (xs.length + 1) = ys := by
    rw [hsplit, ← List.drop_drop, List.drop_left, List.drop_one, List.tail_cons]
  have hget : steps[xs.length]? = some .get := by
    rw [← List.getElem?_take_of_lt hjk, hsplit]
    simp
  refine ⟨xs.length, hjk, hget, ?_, by rw [hxs]; exact hnone, by rw [hxs]; exact hread⟩
  rw [ClearedBetween, hys]
  exact hclear

/-- **Settings are read once between two clearings.** Every request has one request that decides it: the first successful
one since the last clearing, or itself if there is none before it. The answer is what the environment at the deciding
request holds, be it settings or a failure; so a failure is never remembered. -/
theorem exists_deciding_get {k : Nat} (hget : steps[k]? = some .get) :
    ∃ j ≤ k, steps[j]? = some .get ∧ ¬ ClearedBetween steps j k ∧
      (j < k → SucceedsAt validation env steps j) ∧
      (∀ i < j, steps[i]? = some .get → ¬ ClearedBetween steps i k →
        ¬ SucceedsAt validation env steps i) ∧
      ((opened validation env).run steps)[k]? =
        some (some (Settings.read validation (environmentAfter env (steps.take j)))) := by
  rw [getElem?_run_of_get hget]
  cases hkept : ((opened validation env).after (steps.take k)).kept with
  | none =>
    -- nothing has been read since the last clearing, so the request decides itself
    refine ⟨k, Nat.le_refl k, hget, not_clearedBetween_self k, fun hk => absurd hk (Nat.lt_irrefl k),
      fun i hik => not_succeedsAt_of_kept_eq_none hik hkept, ?_⟩
    rw [get_after_of_kept_eq_none hkept]
  | some settings =>
    obtain ⟨j, hjk, hj, hclear, hnone, hread⟩ := exists_lt_of_kept_after hkept
    have hfirst := (get_after_of_kept_eq_none hnone).trans hread
    refine ⟨j, Nat.le_of_lt hjk, hj, hclear, fun _ => ⟨settings, ?_⟩, fun i hij hi hclear' => ?_, ?_⟩
    · rw [getElem?_run_of_get hj, hfirst]
    · -- a successful request before it would have left something to find
      have hbefore : ¬ ClearedBetween steps i j := fun h => hclear' (h.mono (Nat.le_of_lt hjk))
      exact not_succeedsAt_of_kept_eq_none hij hnone hi hbefore
    · rw [get_of_kept_eq_some hkept, hread]

/-- An unknown level is answered by a failure; once the variable is mended a request is answered, and so is a later one
from the same environment, although another variable has changed in between. -/
theorem exists_deciding_get_mended :
    let steps : List Step :=
      [.set Settings.levelVariable "LOUD".toList, .get,
        .set Settings.levelVariable "DEBUG".toList, .get,
        .set Settings.languageVariable "python".toList, .get]
    steps[5]? = some .get ∧ SucceedsAt Settings.validate [] steps 3 ∧
      ∃ j ≤ 5, steps[j]? = some .get ∧ ¬ ClearedBetween steps j 5 ∧
        (j < 5 → SucceedsAt Settings.validate [] steps j) ∧
        (∀ i < j, steps[i]? = some .get → ¬ ClearedBetween steps i 5 →
          ¬ SucceedsAt Settings.validate [] steps i) ∧
        ((opened Settings.validate []).run steps)[5]? =
          some (some (Settings.read Settings.validate (environmentAfter [] (steps.take j)))) :=
  ⟨rfl, ⟨⟨"DEBUG".toList, .debug, false, .javascript, false⟩, by decide +kernel⟩,
    exists_deciding_get rfl⟩

end SettingsStore

end SelectorCode
