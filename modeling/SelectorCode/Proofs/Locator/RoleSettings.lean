import Mathlib.Algebra.GroupWithZero.Nat
import SelectorCode.Proofs.Locator.Answers

/-!
# Settings of roles

The settings of a role are written one behind the other, so more of them make longer code, in every language. A condition
on the name adds a setting, or two, if it compares the name with a text or a pattern; any other condition adds one.

## Main Statements

* `Language.length_call_lt`: more settings make the code of a call longer.
* `roleOptions_append`, `name_of_roleOptions`: options come from conditions one by one, and the name from one on it.
* `exists_roleSettings_of_addRoleCondition`: what a condition adds to the settings.
* `code_role_eq_iff`: whether one more condition shows in the code of a role.
-/

namespace SelectorCode

open Locator (Error)

/-! ### Settings -/

/-- The length of arguments with commas between them. -/
theorem length_intercalate_cons (x : Text) (xs : List Text) :
    (List.intercalate ", ".toList (x :: xs)).length = x.length + (xs.map (·.length + 2)).sum := by
  induction xs generalizing x with
  | nil => simp [List.intercalate_singleton]
  | cons y ys ih =>
    rw [List.intercalate_cons_cons, List.length_append, List.length_append, ih, List.map_cons,
      List.sum_cons]
    have hcomma : ", ".toList.length = 2 := rfl
    omega

/-- The length of arguments with commas between them and something around them. -/
theorem length_wrapped {x : List Text} (hx : x ≠ []) (before after : Text) :
    (before ++ List.intercalate ", ".toList x ++ after).length + 2 =
      before.length + after.length + (x.map (·.length + 2)).sum := by
  obtain ⟨a, x, rfl⟩ := List.exists_cons_of_ne_nil hx
  rw [List.length_append, List.length_append, length_intercalate_cons, List.map_cons, List.sum_cons]
  omega

namespace Language

variable {l : Language} {x y z : List Text}

theorem setting_ne_nil (key value : Text) : l.setting key value ≠ [] := by
  cases l <;> simp [setting]

/-- Settings take up the length that they have, with the same addition for each of them. -/
theorem exists_length_options (l : Language) (base : Base) (camel : Text) :
    ∃ m n, ∀ x ≠ [], (l.options base camel x).length + 2 = m + (x.map (·.length + n)).sum := by
  cases l with
  | javascript => exact ⟨_, 2, fun x hx => length_wrapped hx "\x7b ".toList " \x7d".toList⟩
  | python =>
    refine ⟨0, 2, fun x hx => ?_⟩
    have hlength := length_wrapped hx [] []
    rwa [List.nil_append, List.append_nil] at hlength
  | java =>
    obtain ⟨before, hbefore⟩ : ∃ before, ∀ x, options .java base camel x = before ++ x.flatten :=
      ⟨_, fun _ => rfl⟩
    refine ⟨before.length + 2, 0, fun x _ => ?_⟩
    have hflatten : x.flatten.length = (x.map (·.length + 0)).sum := List.length_flatten
    rw [hbefore, List.length_append, hflatten]
    omega
  | csharp => exact ⟨_, 2, fun x hx => length_wrapped hx "new() \x7b ".toList " \x7d".toList⟩

/-- More settings take up more than fewer. -/
theorem length_options_lt (l : Language) (base : Base) (camel : Text) (hx : x ≠ [])
    (hadded : y ++ z ≠ []) (hnil : [] ∉ y ++ z) :
    (l.options base camel x).length < (l.options base camel (y ++ x ++ z)).length := by
  obtain ⟨m, n, hlength⟩ := exists_length_options l base camel
  have hsum : ((y ++ x ++ z).map (·.length + n)).sum =
      (x.map (·.length + n)).sum + ((y ++ z).map (·.length + n)).sum := by
    simp only [List.map_append, List.sum_append]
    omega
  have hpositive : 0 < ((y ++ z).map (·.length + n)).sum := by
    obtain ⟨a, w, hw⟩ := List.exists_cons_of_ne_nil hadded
    have ha : 0 < a.length := List.length_pos_of_ne_nil fun h => hnil (by simp [hw, h])
    rw [hw, List.map_cons, List.sum_cons]
    omega
  have hmore : y ++ x ++ z ≠ [] := by simp [hx]
  have h1 := hlength x hx
  have h2 := hlength _ hmore
  omega

/-- More settings make the code of a call longer. -/
theorem length_call_lt (l : Language) (base : Base) (camel argument : Text) (x : List Text)
    (hadded : y ++ z ≠ []) (hnil : [] ∉ y ++ z) :
    (l.call camel (argument :: l.optionList base camel x)).length <
      (l.call camel (argument :: l.optionList base camel (y ++ x ++ z))).length := by
  have hmore : ¬ (y ++ x ++ z).isEmpty = true := by
    rw [List.isEmpty_iff]
    intro h
    simp only [List.append_eq_nil_iff] at h
    exact hadded (by rw [h.1.1, h.2, List.append_nil])
  have harguments : ((l.optionList base camel x).map (·.length + 2)).sum <
      ((l.optionList base camel (y ++ x ++ z)).map (·.length + 2)).sum := by
    rw [optionList, optionList, if_neg hmore]
    by_cases hx : x = []
    · simp [hx]
    · rw [if_neg (by simpa using hx)]
      have hlt := length_options_lt l base camel hx hadded hnil
      simpa using hlt
  simp only [call, List.length_append, List.length_cons, length_intercalate_cons]
  omega

end Language

/-! ### Names and attributes of a role -/

section

variable {l : Language} {source : Text} {o o' : Options} {d : Condition} {cs ds : List Condition}

theorem roleOptions_append (source : Text) (o : Options) (cs ds : List Condition) :
    roleOptions source o (cs ++ ds) =
      (roleOptions source o cs).bind fun o' => roleOptions source o' ds := by
  induction cs generalizing o with
  | nil => rfl
  | cons c cs ih =>
    rw [List.cons_append, roleOptions, roleOptions]
    cases addRoleCondition source o c with
    | error e => rfl
    | ok o' => exact ih o'

/-- Only a condition on the name sets the name. -/
theorem name_of_roleOptions (hcs : ∀ c ∈ cs, c.name ≠ "name".toList)
    (h : roleOptions source o cs = .ok o') : o'.name = o.name := by
  induction cs generalizing o with
  | nil =>
    cases h
    rfl
  | cons c cs ih =>
    rw [roleOptions] at h
    split at h
    · cases h
    next o'' hc =>
      rw [ih (fun c hc => hcs c (List.mem_cons_of_mem _ hc)) h]
      rw [addRoleCondition, if_neg (hcs c List.mem_cons_self)] at hc
      obtain ⟨v, -, rfl⟩ := exists_of_map_eq_ok hc
      rfl

/-- A name is written if it is a text or a pattern. -/
theorem nameSettings_eq_nil_iff : nameSettings l o = [] ↔ Value.target? o.name = none := by
  obtain ⟨mode, name, attributes⟩ := o
  unfold nameSettings Value.target?
  cases name with
  | none => simp
  | some v => cases v <;> simp

theorem nil_not_mem_nameSettings : [] ∉ nameSettings l o := by
  intro hmem
  unfold nameSettings at hmem
  split at hmem
  · exact Language.setting_ne_nil _ _ (List.mem_singleton.1 hmem).symm
  · split at hmem
    · rcases List.mem_pair.1 hmem with hnil | hnil
      · exact Language.setting_ne_nil _ _ hnil.symm
      · exact Language.setting_ne_nil _ _ hnil.symm
    · exact Language.setting_ne_nil _ _ (List.mem_singleton.1 hmem).symm
  · cases hmem

/-- What a condition adds to the settings of a role: a name, if there is none yet, comes first, and an attribute last. -/
theorem exists_roleSettings_of_addRoleCondition (l : Language)
    (hname : d.name = "name".toList → o.name = none)
    (h : addRoleCondition source o d = .ok o') :
    ∃ y z, roleSettings l o' = y ++ roleSettings l o ++ z ∧ [] ∉ y ++ z ∧
      (y ++ z = [] ↔ d.name = "name".toList ∧ Value.target? d.test.value? = none) := by
  unfold addRoleCondition at h
  split at h
  next hd =>
    cases h
    have hnone : nameSettings l o = [] := by
      rw [nameSettings_eq_nil_iff, hname hd]
      rfl
    refine ⟨nameSettings l { o with exact := some d.test.isCaseSensitive, name := d.test.value? }, [],
      ?_, ?_, ?_⟩
    · rw [roleSettings, roleSettings, hnone, List.nil_append, List.append_nil]
    · rw [List.append_nil]
      exact nil_not_mem_nameSettings
    · rw [List.append_nil, nameSettings_eq_nil_iff]
      exact (and_iff_right hd).symm
  next hd =>
    obtain ⟨v, -, rfl⟩ := exists_of_map_eq_ok h
    refine ⟨[], [l.setting (roleAttributeName d.name) (l.value v)], ?_, fun hmem => ?_,
      iff_of_false (List.cons_ne_nil _ _) fun h => hd h.1⟩
    · simp [roleSettings, nameSettings, Options.isExact]
    · exact Language.setting_ne_nil _ _ (List.mem_singleton.1 hmem).symm

/-- **The code of a role with one more condition** is the same if the condition is on the name and compares it with
neither a text nor a pattern; otherwise it is longer. -/
theorem code_role_eq_iff {base : Base} {target : Target} (l : Language)
    (hname : d.name = "name".toList → o.name = none)
    (h : addRoleCondition source o d = .ok o') :
    (Call.simple base .role target o').code l = (Call.simple base .role target o).code l ↔
      d.name = "name".toList ∧ Value.target? d.test.value? = none := by
  obtain ⟨y, z, hsettings, hnil, hiff⟩ := exists_roleSettings_of_addRoleCondition l hname h
  have hcode : ∀ o, (Call.simple base .role target o).code l = l.call Kind.role.method
      (l.role target.written :: l.optionList base Kind.role.method (roleSettings l o)) := fun _ => rfl
  rw [← hiff, hcode, hcode, hsettings]
  constructor
  · intro hsame
    by_contra hadded
    have hlt := l.length_call_lt base Kind.role.method (l.role target.written) (roleSettings l o) hadded
      hnil
    rw [hsame] at hlt
    exact Nat.lt_irrefl _ hlt
  · intro hadded
    obtain ⟨rfl, rfl⟩ := List.append_eq_nil_iff.1 hadded
    rw [List.nil_append, List.append_nil]

end

end SelectorCode
