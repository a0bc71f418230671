import SelectorCode.Locator.Expression
import SelectorCode.Proofs.Attribute.Refusal
import SelectorCode.Proofs.Selector.Refusal

/-!
# Why selectors are refused

Malformed input is meant to be reported as a selector error, and most of it is. What is not, exceeds a limit: a
distance or a level that no double can hold, or a pattern or an attribute selector in the body of a part that is refused
for something else than a mistake. The parts of a chain are translated one by one, so the reason for an error is found
in the body of a part at some depth, and from there in the label that the part has been read from.

## Main Definitions

* `AttributeSelector.IsTooDeep`: attribute selectors with a level beyond the range of doubles.
* `Label.Exceeds`, `Part.Exceeds`: what a label and a part hold when a limit is exceeded.

## Main Statements

* `specialCall?_eq_error`: what the error of a part comes from.
* `Chain.exceeds_of_calls`: a chain is not translated because of a mistake, or because of the body of a part in it.
* `Label.exceeds_of_readPart`: what a part holds, its label holds.
* `exceeds_of_asLocator`: a selector has no code because of a mistake, or because it exceeds a limit.
* `kind_eq_invalidSelector_or_exceeds`: every other error than a selector error has its reason in the text.
-/

namespace SelectorCode

/-! ### What a label holds -/

/-- A level that is beyond the range of doubles. -/
def AttributeSelector.IsTooDeep (s : AttributeSelector) : Prop :=
  ∃ c ∈ s.conditions, c.name = "level".toList ∧
    ∃ t n, c.test.value? = some (.text t) ∧ numeral? t = some (.int n) ∧ Binary64.ofInt? n = none

/-- The engines that match by text. -/
def matchEngines : List Text :=
  [Engine.internalText, Engine.internalLabel, Engine.hasText]

/-- The engines whose bodies are attribute selectors. -/
def attributeEngines : List Text :=
  [Engine.role, Engine.testId, Engine.attr]

/-- What a label holds when its selector is refused for something else than a mistake. -/
inductive Label.Exceeds (l : Label) : ErrorKind → Prop
  | distance (tooFar : l.IsTooFar) : Exceeds l .invalidData
  | target {source flags : Text} {k : ErrorKind} (engine : l.name ∈ matchEngines)
      (slashed : TextMatch.slashed? l.body = some (source, flags))
      (exceeds : Pattern.SourceExceeds source k) : Exceeds l k
  | conditions {k : ErrorKind} (engine : l.name ∈ attributeEngines)
      (exceeds : Attribute.Exceeds true l.body k) : Exceeds l k
  | level {s : AttributeSelector} (engine : l.name = Engine.role)
      (read : AttributeSelector.ofText true l.body = .ok s) (tooDeep : s.IsTooDeep) :
      Exceeds l .overflow

/-! ### Translating -/

section

open Locator (Error)

variable {inner : Chain → Except Error (List Call)} {base : Base} {p : Part} {e : Error}

/-- A part whose own body is refused for something else than a mistake. -/
inductive Part.Exceeds (p : Part) (k : ErrorKind) : Prop
  | target {body source flags : Text} (engine : p.name ∈ matchEngines) (text : p.body = .text body)
      (slashed : TextMatch.slashed? body = some (source, flags))
      (exceeds : Pattern.SourceExceeds source k)
  | conditions {body : Text} (engine : p.name ∈ attributeEngines) (text : p.body = .text body)
      (exceeds : Attribute.Exceeds true body k)
  | level {body : Text} {s : AttributeSelector} (engine : p.name = Engine.role)
      (text : p.body = .text body) (read : AttributeSelector.ofText true body = .ok s)
      (tooDeep : s.IsTooDeep) (kind_eq : k = .overflow)

theorem textBody_eq_ok {t : Text} (h : p.textBody = .ok t) : p.body = .text t := by
  unfold Part.textBody at h
  split at h
  next hbody =>
    cases h
    exact hbody
  · cases h

theorem kind_of_textBody (h : p.textBody = .error e) : e.kind = .invalidSelector := by
  unfold Part.textBody at h
  split at h
  · cases h
  · cases h
    rfl

theorem exceeds_of_textMatch (hengine : p.name ∈ matchEngines) (h : p.textMatch = .error e) :
    e.kind = .invalidSelector ∨ p.Exceeds e.kind := by
  unfold Part.textMatch at h
  split at h
  next d hbody =>
    cases h
    exact Or.inl (kind_of_textBody hbody)
  next body hbody =>
    obtain ⟨d, hd, rfl⟩ := exists_of_mapError_eq_error h
    refine (TextMatch.sourceExceeds_of_ofBody hd).imp_right ?_
    rintro ⟨source, flags, hslashed, hexceeds⟩
    exact .target hengine (textBody_eq_ok hbody) hslashed hexceeds

theorem exceeds_of_attributes (hengine : p.name ∈ attributeEngines)
    (h : p.attributes = .error e) : e.kind = .invalidSelector ∨ p.Exceeds e.kind := by
  unfold Part.attributes at h
  split at h
  next d hbody =>
    cases h
    exact Or.inl (kind_of_textBody hbody)
  next body hbody =>
    obtain ⟨d, hd, rfl⟩ := exists_of_mapError_eq_error h
    exact (AttributeSelector.exceeds_of_ofText hd).imp_right
      (.conditions hengine (textBody_eq_ok hbody))

theorem attributes_eq_ok {s : AttributeSelector} (h : p.attributes = .ok s) :
    ∃ body, p.body = .text body ∧ AttributeSelector.ofText true body = .ok s := by
  unfold Part.attributes at h
  split at h
  · cases h
  next body hbody => exact ⟨body, textBody_eq_ok hbody, eq_ok_of_mapError_eq_ok h⟩

/-! ### Levels -/

/-- A level is refused as no number at all, or for its size. -/
theorem exists_of_levelValue {source t : Text} (h : levelValue source t = .error e) :
    e.kind = .invalidSelector ∨ e.kind = .overflow ∧
      ∃ n, numeral? t = some (.int n) ∧ Binary64.ofInt? n = none := by
  unfold levelValue at h
  split at h
  · cases h
    exact Or.inl rfl
  next n hn =>
    split at h
    next hrange =>
      cases h
      exact Or.inr ⟨rfl, n, hn, Option.isNone_iff_eq_none.1 hrange⟩
    · cases h
  · split at h
    · cases h
    · cases h
      exact Or.inl rfl

theorem isTooDeep_of_roleOptions {source : Text} {o : Options} {s : AttributeSelector}
    {cs : List Condition} (hcs : ∀ c ∈ cs, c ∈ s.conditions) (h : roleOptions source o cs = .error e) :
    e.kind = .invalidSelector ∨ e.kind = .overflow ∧ s.IsTooDeep := by
  induction cs generalizing o with
  | nil => cases h
  | cons c cs ih =>
    rw [roleOptions] at h
    split at h
    next d hcondition =>
      cases h
      unfold addRoleCondition at hcondition
      split at hcondition
      · cases hcondition
      · have hrole := eq_error_of_map_eq_error hcondition
        unfold roleValue at hrole
        split at hrole
        next t ht =>
          split at hrole
          next hname =>
            refine (exists_of_levelValue (eq_error_of_map_eq_error hrole)).imp_right ?_
            rintro ⟨hkind, n, hn, hrange⟩
            exact ⟨hkind, c, hcs c List.mem_cons_self, hname, t, n, ht, hn, hrange⟩
          · cases hrole
        · cases hrole
    · exact ih (fun d hd => hcs d (List.mem_cons_of_mem c hd)) h

/-! ### Calls -/

theorem exceeds_of_roleCall (hengine : p.name = Engine.role) (h : roleCall base p = .error e) :
    e.kind = .invalidSelector ∨ p.Exceeds e.kind := by
  have hmem : p.name ∈ attributeEngines := by
    rw [hengine]
    decide
  unfold roleCall at h
  split at h
  next d hattributes =>
    cases h
    exact exceeds_of_attributes hmem hattributes
  next s hs =>
    obtain ⟨body, hbody, hread⟩ := attributes_eq_ok hs
    refine (isTooDeep_of_roleOptions (fun _ h => h) (eq_error_of_map_eq_error h)).imp_right ?_
    rintro ⟨hkind, hdeep⟩
    exact .level hengine hbody hread hdeep hkind

theorem exceeds_of_testIdCall (hengine : p.name ∈ attributeEngines)
    (h : testIdCall base p = .error e) : e.kind = .invalidSelector ∨ p.Exceeds e.kind := by
  unfold testIdCall at h
  split at h
  next d hattributes =>
    cases h
    exact exceeds_of_attributes hengine hattributes
  · split at h
    · cases h
      exact Or.inl rfl
    · split at h
      · cases h
        exact Or.inl rfl
      · cases h

theorem exceeds_of_attributeCall? (hengine : p.name ∈ attributeEngines)
    (h : attributeCall? base p = .error e) : e.kind = .invalidSelector ∨ p.Exceeds e.kind := by
  unfold attributeCall? at h
  split at h
  next d hattributes =>
    cases h
    exact exceeds_of_attributes hengine hattributes
  · split at h
    · cases h
      exact Or.inl rfl
    · split at h
      · cases h
      · split at h
        · cases h
          exact Or.inl rfl
        · cases h

theorem kind_of_nthCall (h : nthCall base p = .error e) : e.kind = .invalidSelector := by
  unfold nthCall at h
  split at h
  next d hbody =>
    cases h
    exact kind_of_textBody hbody
  · split at h
    · cases h
    · split at h
      · cases h
      · cases h

theorem combinedCall_eq_error {c : Combination} (h : combinedCall inner base c p = .error e) :
    e.kind = .invalidSelector ∨ ∃ x d, p.body = .nested x d ∧ inner x = .error e := by
  unfold combinedCall at h
  split at h
  · cases h
    exact Or.inl rfl
  next x d hbody => exact Or.inr ⟨x, d, hbody, eq_error_of_map_eq_error h⟩

/-- A part is not translated because of a mistake, because of its own body, or because of the chain in its body. -/
theorem specialCall?_eq_error (h : specialCall? inner base p = .error e) :
    (e.kind = .invalidSelector ∨ p.Exceeds e.kind) ∨
      ∃ x d, p.body = .nested x d ∧ inner x = .error e := by
  unfold specialCall? at h
  split at h
  · exact Or.inl (Or.inl (kind_of_nthCall (eq_error_of_map_eq_error h)))
  split at h
  next hname =>
    have htext := eq_error_of_map_eq_error (eq_error_of_map_eq_error h)
    exact Or.inl (exceeds_of_textMatch (hname ▸ (by decide)) htext)
  split at h
  next hname =>
    have htext := eq_error_of_map_eq_error (eq_error_of_map_eq_error h)
    exact Or.inl (exceeds_of_textMatch (hname ▸ (by decide)) htext)
  split at h
  next hname =>
    exact Or.inl (exceeds_of_textMatch (hname ▸ (by decide)) (eq_error_of_map_eq_error h))
  split at h
  next c _ =>
    rcases combinedCall_eq_error (eq_error_of_map_eq_error h) with hmistake | hinner
    · exact Or.inl (Or.inl hmistake)
    · exact Or.inr hinner
  split at h
  next hname => exact Or.inl (exceeds_of_roleCall hname (eq_error_of_map_eq_error h))
  split at h
  next hname =>
    exact Or.inl (exceeds_of_testIdCall (hname ▸ (by decide)) (eq_error_of_map_eq_error h))
  split at h
  next hname => exact Or.inl (exceeds_of_attributeCall? (hname ▸ (by decide)) h)
  cases h

/-! ### Chains -/

theorem exists_of_walk_eq_error {ps : List Part} (h : walk inner base ps = .error e) :
    ∃ p ∈ ps, ∃ b, specialCall? inner b p = .error e := by
  fun_induction walk inner base ps with
  | case1 => cases h
  | case2 base p ps d hd =>
    cases h
    exact ⟨p, List.mem_cons_self, base, hd⟩
  | case3 base p ps call hcall ih =>
    obtain ⟨q, hq, hfails⟩ := ih (eq_error_of_map_eq_error h)
    exact ⟨q, List.mem_cons_of_mem p hq, hfails⟩
  | case4 => cases h
  | case5 base p hraw q qs hframe ih =>
    obtain ⟨r, hr, hfails⟩ := ih (eq_error_of_map_eq_error h)
    exact ⟨r, List.mem_cons_of_mem p (List.mem_cons_of_mem q hr), hfails⟩
  | case6 base p hraw q qs hframe ih =>
    obtain ⟨r, hr, hfails⟩ := ih (eq_error_of_map_eq_error h)
    exact ⟨r, List.mem_cons_of_mem p hr, hfails⟩

/-- **A chain is not translated** because of a mistake, or because of the body of a part in it, at whatever depth. -/
theorem Chain.exceeds_of_calls {c : Chain} (h : SelectorCode.calls base c.parts = .error e) :
    e.kind = .invalidSelector ∨ ∃ x : Chain, x.Within c ∧ ∃ p ∈ x.parts, p.Exceeds e.kind := by
  induction hn : Part.depths c.parts using Nat.strongRecOn generalizing base c with
  | ind n ih =>
    rw [calls_eq] at h
    obtain ⟨p, hp, b, hspecial⟩ := exists_of_walk_eq_error h
    have hmem := (framesFirst_perm c.parts).mem_iff.1 hp
    rcases specialCall?_eq_error hspecial with (hmistake | hexceeds) | ⟨x, d, hbody, hinner⟩
    · exact Or.inl hmistake
    · exact Or.inr ⟨c, .refl c, p, hmem, hexceeds⟩
    · have hlower : Part.depths x.parts < n := by
        have hdepth := Part.depth_le_depths hmem
        rw [Part.depth_of_nested hbody] at hdepth
        omega
      refine (ih _ hlower hinner rfl).imp_right ?_
      rintro ⟨y, hy, hpart⟩
      exact ⟨y, .body hmem hbody hy, hpart⟩

end

/-! ### From parts back to labels -/

/-- A part whose body is a text is that of a label as it stands, unless it is a style-sheet selector. -/
theorem eq_of_readPart_text {inner : Text → Except Selector.Error Chain} {selector body : Text}
    {preceding : List Part} {l : Label} {p : Part}
    (h : readPart inner selector preceding l = .ok p) (hcss : p.name ≠ Engine.css)
    (hbody : p.body = .text body) : p.name = l.name ∧ body = l.body := by
  rcases readPart_cases h with ⟨source, -, -, rfl⟩ | ⟨-, -, hnested⟩ | ⟨-, -, rfl⟩
  · exact absurd rfl hcss
  · obtain ⟨b, x, d, -, -, -, rfl⟩ := readNested_eq_ok_iff.1 hnested
    cases hbody
  · cases hbody
    exact ⟨rfl, rfl⟩

/-- What a part holds, its label holds. -/
theorem Label.exceeds_of_readPart {inner : Text → Except Selector.Error Chain} {selector : Text}
    {preceding : List Part} {l : Label} {p : Part} {k : ErrorKind}
    (hread : readPart inner selector preceding l = .ok p) (h : p.Exceeds k) : l.Exceeds k := by
  cases h with
  | target engine text slashed exceeds =>
    have hcss : p.name ≠ Engine.css := fun h => absurd (h ▸ engine) (by decide)
    obtain ⟨hname, rfl⟩ := eq_of_readPart_text hread hcss text
    exact .target (hname ▸ engine) slashed exceeds
  | conditions engine text exceeds =>
    have hcss : p.name ≠ Engine.css := fun h => absurd (h ▸ engine) (by decide)
    obtain ⟨hname, rfl⟩ := eq_of_readPart_text hread hcss text
    exact .conditions (hname ▸ engine) exceeds
  | level engine text read tooDeep kind_eq =>
    have hcss : p.name ≠ Engine.css := by
      rw [engine]
      decide
    obtain ⟨hname, rfl⟩ := eq_of_readPart_text hread hcss text
    rw [kind_eq]
    exact .level (hname ▸ engine) read tooDeep

/-- **A selector has no code** because of a mistake, or because it exceeds a limit, at whatever depth. -/
theorem exceeds_of_asLocator {language : Language} {inFrame : Bool} {selector : Text}
    {e : Locator.Error} (h : asLocator language inFrame selector = .error e) :
    e.kind = .invalidSelector ∨
      ∃ t, Selector.Within t selector ∧ ∃ l ∈ labels t, l.Exceeds e.kind := by
  have hcalls := eq_error_of_map_eq_error h
  unfold selectorCalls at hcalls
  split at hcalls
  next d hd =>
    cases hcalls
    refine (Chain.isTooFar_of_ofText hd).imp_right ?_
    rintro ⟨hkind, t, ht, l, hl, hfar⟩
    refine ⟨t, ht, l, hl, ?_⟩
    have hdata : (Locator.Error.selector d).kind = .invalidData := hkind
    rw [hdata]
    exact .distance hfar
  next c hc =>
    refine (Chain.exceeds_of_calls hcalls).imp_right ?_
    rintro ⟨x, hx, p, hp, hexceeds⟩
    have hread : c.IsRead selector := ⟨selector, c, .refl selector, hc, Or.inl rfl⟩
    obtain ⟨t, ht, before, l, hl, hpart⟩ := (Chain.isRead_of_within hread hx).exists_readPart hp
    exact ⟨t, ht, l, hl, Label.exceeds_of_readPart hpart hexceeds⟩

/-- **Malformed input is reported as a selector error**, whatever a text is read as. Any other error has its reason in
the text: a distance or a level beyond the range of doubles, a bound of a repetition that is too large or has too many
digits, flags of a pattern that exclude each other, or in the strict mode an integer that is too long to be shown. -/
theorem kind_eq_invalidSelector_or_exceeds (selector : Text) :
    (∀ e, Chain.ofText selector = .error e → e.kind = .invalidSelector ∨ e.kind = .invalidData ∧
      ∃ t, Selector.Within t selector ∧ ∃ l ∈ labels t, l.IsTooFar) ∧
    (∀ permissive e, AttributeSelector.ofText permissive selector = .error e →
      e.kind = .invalidSelector ∨ Attribute.Exceeds permissive selector e.kind) ∧
    (∀ e, TextMatch.ofBody selector = .error e → e.kind = .invalidSelector ∨
      ∃ source flags, TextMatch.slashed? selector = some (source, flags) ∧
        Pattern.SourceExceeds source e.kind) ∧
    ∀ language inFrame e, asLocator language inFrame selector = .error e →
      e.kind = .invalidSelector ∨
        ∃ t, Selector.Within t selector ∧ ∃ l ∈ labels t, l.Exceeds e.kind :=
  ⟨fun _ h => Chain.isTooFar_of_ofText h, fun _ _ h => AttributeSelector.exceeds_of_ofText h,
    fun _ h => TextMatch.sourceExceeds_of_ofBody h, fun _ _ _ h => exceeds_of_asLocator h⟩

/-- The fault of a pattern with a bound that is one too large. -/
def largeBoundFault : Pattern.Error :=
  .fault ⟨"b\x7b4294967295\x7d".toList, []⟩ ⟨.largeBound, none⟩

theorem asLocator_largeBound :
    asLocator .python false "internal:text=/b\x7b4294967295\x7d/".toList =
      .error (.textMatch (.pattern largeBoundFault)) := by
  decide +kernel

/-- A distance of 310 digits, and a bound that is one too large in each of the other places. -/
theorem exceeds_at_limits :
    (∃ t, Selector.Within t ("near=\"a\",1".toList ++ List.replicate 309 '0') ∧
      ∃ l ∈ labels t, l.IsTooFar) ∧
    Attribute.Exceeds false "[a=/b\x7b4294967295\x7d/]".toList .overflow ∧
    (∃ source flags, TextMatch.slashed? "/b\x7b4294967295\x7d/".toList = some (source, flags) ∧
      Pattern.SourceExceeds source .overflow) ∧
    ∃ t, Selector.Within t "internal:text=/b\x7b4294967295\x7d/".toList ∧
      ∃ l ∈ labels t, l.Exceeds .overflow := by
  have hdistance : Chain.ofText ("near=\"a\",1".toList ++ List.replicate 309 '0') =
      .error .distanceTooLarge := by decide +kernel
  have hcondition : AttributeSelector.ofText false "[a=/b\x7b4294967295\x7d/]".toList =
      .error ⟨"[a=/b\x7b4294967295\x7d/]".toList, .pattern largeBoundFault⟩ := by decide +kernel
  have hbody : TextMatch.ofBody "/b\x7b4294967295\x7d/".toList = .error (.pattern largeBoundFault) := by
    decide +kernel
  refine ⟨?_, ?_, ?_, ?_⟩
  · have hfar := (kind_eq_invalidSelector_or_exceeds _).1 _ hdistance
    exact (hfar.resolve_left (by decide)).2
  · have hexceeds := (kind_eq_invalidSelector_or_exceeds _).2.1 _ _ hcondition
    exact hexceeds.resolve_left (by decide)
  · have hexceeds := (kind_eq_invalidSelector_or_exceeds _).2.2.1 _ hbody
    exact hexceeds.resolve_left (by decide)
  · have hexceeds := (kind_eq_invalidSelector_or_exceeds _).2.2.2 _ _ _ asLocator_largeBound
    exact hexceeds.resolve_left (by decide)

/-- Not every error is a selector error: a bound that is one too large is an overflow. -/
theorem not_kind_eq_invalidSelector :
    ¬ ∀ selector : Text,
      (∀ e, Chain.ofText selector = .error e → e.kind = .invalidSelector) ∧
      (∀ permissive e, AttributeSelector.ofText permissive selector = .error e →
        e.kind = .invalidSelector) ∧
      (∀ e, TextMatch.ofBody selector = .error e → e.kind = .invalidSelector) ∧
      ∀ language inFrame e, asLocator language inFrame selector = .error e →
        e.kind = .invalidSelector := by
  intro h
  have hkind := (h _).2.2.2 _ _ _ asLocator_largeBound
  exact absurd hkind (by decide)

end SelectorCode
