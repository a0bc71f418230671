import SelectorCode.Proofs.Locator.Subexpression
import SelectorCode.Proofs.Selector.Frames

/-!
# Arguments of combinations

A combination takes the code of a chain as its argument. The code is empty only if the chain has no part, which is so
only if the selector of the chain ends with a frame marker and has been taken away up to it.

## Main Statements

* `render_ne_nil`, `code_eq_nil_iff`: only the code of no calls is empty.
* `calls_eq_ok_nil_iff`: only the translation of no parts has no calls.
* `exists_empty_argument_iff`: when a combination in the code of a chain has an empty argument.
* `argument_ne_nil_of_followsRules`: no argument is empty where every chain keeps to the rules.
* `Chain.followsRules_within`: where the rules of a chain hold, at every depth.
-/

namespace SelectorCode

variable {l : Language} {base b : Base} {ps : List Part} {cs : List Call} {c x : Chain} {s t : Text}

/-! ### Code -/

theorem Language.call_ne_nil (camel : Text) (arguments : List Text) :
    l.call camel arguments ≠ [] := by
  simp [Language.call]

/-- No call is without code. -/
theorem render_ne_nil (kind : Kind) (target : Target) (options : Options) :
    render l base kind target options ≠ [] := by
  have hproperty : ∀ l : Language, ∀ kind ∈ [Kind.first, .last], l.property kind.method ≠ [] := by
    intro l
    cases l <;> decide
  have hmatch : ∀ exact, renderMatch l base kind target exact ≠ [] := by
    intro exact
    cases target <;> exact Language.call_ne_nil _ _
  -- two kinds have no argument, and may be written as properties
  cases kind with
  | first => exact hproperty l .first (by decide)
  | last => exact hproperty l .last (by decide)
  | text => exact hmatch _
  | alt => exact hmatch _
  | placeholder => exact hmatch _
  | label => exact hmatch _
  | title => exact hmatch _
  | _ => exact Language.call_ne_nil _ _

theorem Call.code_ne_nil (call : Call) : call.code l ≠ [] := by
  cases call with
  | simple => exact render_ne_nil _ _ _
  | combined => exact render_ne_nil _ _ _

/-- Only the code of no calls is empty. -/
theorem code_eq_nil_iff : code l cs = [] ↔ cs = [] := by
  constructor
  · intro h
    cases cs with
    | nil => rfl
    | cons c cs =>
      cases cs with
      | nil =>
        rw [code, codes, codes, joinCalls, List.intercalate_singleton] at h
        exact absurd h c.code_ne_nil
      | cons d ds =>
        have happend := code_append l (List.cons_ne_nil c []) (List.cons_ne_nil d ds)
        rw [List.singleton_append, h] at happend
        simp at happend
  · rintro rfl
    rfl

/-- Only the translation of no parts has no calls. -/
theorem eq_nil_of_calls (h : calls base ps = .ok []) : ps = [] := by
  by_contra hps
  exact calls_ne_nil hps h rfl

theorem calls_nil (base : Base) : calls base [] = .ok [] := by
  rw [calls_eq]
  rfl

/-! ### Arguments -/

/-- **Empty arguments.** In the code of a chain with a part, some combination has an empty argument exactly if some
chain below, in the body of a combination, has no part. -/
theorem exists_empty_argument_iff (hc : c.parts ≠ []) (h : calls base c.parts = .ok cs) :
    (∃ b ds, Subexpression base cs b ds ∧
      ∃ d combination es, .combined d combination es ∈ ds ∧ code l es = []) ↔
    ∃ x, c.CombinedIn x ∧ x.parts = [] := by
  constructor
  · rintro ⟨b, ds, hsub, d, combination, es, hmem, hcode⟩
    obtain ⟨x, hx, hcalls⟩ := exists_calls_of_subexpression h (hsub.combined hmem)
    rw [code_eq_nil_iff.1 hcode] at hcalls
    exact ⟨x, hx, eq_nil_of_calls hcalls⟩
  · rintro ⟨x, hx, hnil⟩
    obtain ⟨b, ds, hsub, hcalls⟩ := exists_subexpression_of_combinedIn h hx
    rw [hnil, calls_nil] at hcalls
    cases hcalls
    -- the empty expression is not the one of the chain itself, so it is an argument
    cases hsub with
    | refl => exact absurd (eq_nil_of_calls h) hc
    | combined houter hmem => exact ⟨_, _, houter, _, _, [], hmem, rfl⟩

/-- As long as every chain keeps to the rules, no argument is empty. -/
theorem argument_ne_nil_of_followsRules (hrules : ∀ x : Chain, x.Within c → x.FollowsRules)
    (h : calls base c.parts = .ok cs) :
    ∀ b ds, Subexpression base cs b ds →
      ∀ d combination es, .combined d combination es ∈ ds → code l es ≠ [] := by
  intro b ds hsub d combination es hmem hcode
  have hparts : c.parts ≠ [] := (hrules c (.refl c)).parts_ne_nil
  obtain ⟨x, hx, hnil⟩ :=
    (exists_empty_argument_iff hparts h).1 ⟨b, ds, hsub, d, combination, es, hmem, hcode⟩
  exact (hrules x hx.within).parts_ne_nil hnil

namespace Chain

/-- **The rules of a chain, at every depth.** A chain that has been read has a part and does not begin with a nested
engine. A chain in it does so exactly if nothing has been taken away, or its selector goes on behind the last frame marker
with an engine that is not nested; it has no part exactly if its selector ends with the marker that has been taken away.
In the code, some combination has an empty argument exactly if some chain below, in the body of a combination, has no
part. -/
theorem followsRules_within (h : Chain.ofText s = .ok c) :
    c.FollowsRules ∧ (∀ x : Chain, x.Within c → ∃ t, x.ReadWithin t c s) ∧
    (∀ (x : Chain) (t : Text), x.ReadWithin t c s →
      (x.FollowsRules ↔ x.parts.length = (chunks t).length ∨
        ∃ l rest, labelsBehindFrames t = l :: rest ∧ isNestedEngine l.name = false) ∧
      (x.parts = [] ↔ x.parts.length ≠ (chunks t).length ∧ labelsBehindFrames t = [])) ∧
    ∀ (l : Language) (inFrame : Bool) (cs : List Call), c.calls inFrame = .ok cs →
      ((∃ b ds, Subexpression (startBase inFrame) cs b ds ∧
          ∃ d combination es, .combined d combination es ∈ ds ∧ SelectorCode.code l es = []) ↔
        ∃ x, c.CombinedIn x ∧ x.parts = []) := by
  have hread : c.IsReadFrom s := ⟨c, h, Or.inl rfl⟩
  have hrules := followsRules_of_ofText h
  refine ⟨hrules, ?_, ?_, ?_⟩
  · intro x hwithin
    exact exists_readWithin hread hwithin
  · intro x t hwithin
    exact (hwithin.isReadFrom hread).followsRules_iff
  · intro l inFrame cs hcs
    exact exists_empty_argument_iff hrules.parts_ne_nil hcs

/-- A nested selector that goes on behind the frame that is taken away keeps to the rules. -/
theorem followsRules_within_frame :
    Chain.ofText ("a >> internal:control=enter-frame >> ".toList ++
        "internal:has=\"a >> internal:control=enter-frame >> b\"".toList) =
      .ok ⟨[.ofText Engine.css "a".toList, .ofText Engine.control Part.enterFrameBody,
        ⟨Engine.has, .nested ⟨[.ofText Engine.css "b".toList], none⟩ none,
          "\"a >> internal:control=enter-frame >> b\"".toList⟩], none⟩ ∧
      FollowsRules ⟨[.ofText Engine.css "b".toList], none⟩ := by
  refine (fun hread => ⟨hread, ?_⟩) (eq_ok_of_toOption_eq_some (by decide +kernel))
  obtain ⟨-, -, hall, -⟩ := followsRules_within hread
  have hwithin := hall ⟨[.ofText Engine.css "b".toList], none⟩
    "a >> internal:control=enter-frame >> b".toList
    (.body (List.mem_cons_of_mem _ (List.mem_cons_of_mem _ List.mem_cons_self)) rfl rfl
      (.refl _ _))
  exact hwithin.1.2 (Or.inr ⟨_, [], rfl, by decide⟩)

/-- Not every chain in a chain keeps to the rules: what is left of a nested selector may begin with a nested engine.
Nor has every combination an argument: when the nested selector ends with the frame that is taken away, nothing is left
of it. -/
theorem not_followsRules_within :
    (¬ ∀ (s : Text) (c : Chain), Chain.ofText s = .ok c → ∀ x : Chain, x.Within c → x.FollowsRules) ∧
    ¬ ∀ (s : Text) (c : Chain), Chain.ofText s = .ok c →
      ∀ (l : Language) (inFrame : Bool) (cs : List Call), c.calls inFrame = .ok cs →
        ∀ b ds, Subexpression (startBase inFrame) cs b ds →
          ∀ d combination es, .combined d combination es ∈ ds → SelectorCode.code l es ≠ [] := by
  constructor
  · intro h
    have hread : Chain.ofText ("a >> internal:control=enter-frame >> internal:has=".toList ++
          "\"a >> internal:control=enter-frame >> internal:has=\\\"b\\\"\"".toList) =
        .ok ⟨[.ofText Engine.css "a".toList, .ofText Engine.control Part.enterFrameBody,
          ⟨Engine.has, .nested ⟨[⟨Engine.has, .nested ⟨[.ofText Engine.css "b".toList], none⟩ none,
              "\"b\"".toList⟩], none⟩ none,
            "\"a >> internal:control=enter-frame >> internal:has=\\\"b\\\"\"".toList⟩], none⟩ :=
      eq_ok_of_toOption_eq_some (by decide +kernel)
    have hrules := h _ _ hread _
      (.body (List.mem_cons_of_mem _ (List.mem_cons_of_mem _ List.mem_cons_self)) rfl (.refl _))
    exact absurd (hrules.isNestedEngine_head _ rfl) (by decide)
  · intro h
    have hread : Chain.ofText ("a >> internal:control=enter-frame >> ".toList ++
          "internal:has=\"a >> internal:control=enter-frame\"".toList) =
        .ok ⟨[.ofText Engine.css "a".toList, .ofText Engine.control Part.enterFrameBody,
          ⟨Engine.has, .nested ⟨[], none⟩ none,
            "\"a >> internal:control=enter-frame\"".toList⟩], none⟩ :=
      eq_ok_of_toOption_eq_some (by decide +kernel)
    have hempty : ∀ source, specialCall? (fun c => SelectorCode.calls .locator c.parts) .frameLocator
        ⟨Engine.has, .nested ⟨[], none⟩ none, source⟩ =
        .ok (some (.combined .frameLocator .has [])) := by
      intro source
      rw [specialCall?_of_combination rfl, combinedCall]
      simp only [calls_nil]
      rfl
    have hcalls : SelectorCode.calls .page [.ofText Engine.css "a".toList,
        .ofText Engine.control Part.enterFrameBody, ⟨Engine.has, .nested ⟨[], none⟩ none,
          "\"a >> internal:control=enter-frame\"".toList⟩] =
        .ok [.simple .page .frame (.text "a".toList) .empty, .combined .frameLocator .has []] := by
      rw [calls_eq]
      show walk _ _ [_, _, _] = _
      simp only [walk, isEnterFrame_marker, hempty]
      rfl
    exact h _ _ hread .javascript false _ hcalls .page _ .refl .frameLocator .has []
      (List.mem_cons_of_mem _ List.mem_cons_self) rfl

end Chain

end SelectorCode
