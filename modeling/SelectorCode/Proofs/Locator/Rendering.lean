import SelectorCode.Proofs.Locator.Answers

/-!
# Rendering in one pass

A chain may also be rendered in one pass: each part is translated and its call is asked of the language at once, the
chain in a body before the call that combines it, and whatever fails first ends the pass. The two ways agree, because
every call of a part is answered. What the pass adds is a record of the calls that were asked for, in their order.

## Main Definitions

* `Rendered`: codes of calls, and the calls that were asked for.
* `renderSpecial`, `renderWalk`, `renderParts`, `renderSelector`: the pass over a part, over parts, over the parts of
  a chain with the frames put first, and over a selector.
* `requests`: the calls that are asked for when a list of calls is rendered.

## Main Statements

* `renderWalk_eq`: the pass over parts, when the passes over the chains in their bodies are known.
* `renderParts_eq`: the pass is the translation of the parts followed by the rendering of the calls.
* `renderSelector_eq`: the same for a selector.
-/

namespace SelectorCode

open Locator (Error)

/-! ### The pass -/

/-- Why the pass ends early: a part has no translation, or the language refuses a call. -/
inductive RenderError where
  | translation (e : Error)
  | request (e : RequestError)
deriving DecidableEq, Repr

/-- The codes of calls, and all calls that were asked for on the way. -/
structure Rendered where
  codes : List Text
  requests : List CallRequest
deriving DecidableEq, Repr

namespace Rendered

/-- The expression that the calls make up. -/
def text (r : Rendered) : Text :=
  joinCalls r.codes

/-- What is rendered first, and what is rendered after it. -/
def append (r s : Rendered) : Rendered :=
  ⟨r.codes ++ s.codes, r.requests ++ s.requests⟩

end Rendered

/-- The arguments of a call; those of a combination hold the code of the locator in it. -/
def Call.request (l : Language) : Call → CallRequest
  | simple base kind target options => ⟨base, kind, target, options⟩
  | combined base combination inner => ⟨base, combination.kind, .text (SelectorCode.code l inner), .empty⟩

/-- Asks a language for a call. -/
def ask (l : Language) (r : CallRequest) : Except RenderError Rendered :=
  match r.answer l with
  | .error e => .error (.request e)
  | .ok t => .ok ⟨[t], [r]⟩

/-- Asks a language for the call of a part, if the part has one. -/
def askCall (l : Language) : Except Error Call → Except RenderError Rendered
  | .error e => .error (.translation e)
  | .ok c => ask l (c.request l)

/-- Asks a language for the call of a part unless the part is raw. -/
def askCall? (l : Language) : Except Error (Option Call) → Except RenderError (Option Rendered)
  | .error e => .error (.translation e)
  | .ok none => .ok none
  | .ok (some c) => (ask l (c.request l)).map some

section

variable (l : Language) (inner : Chain → Except RenderError Rendered)

/-- Renders the chain in a body, and then the call that combines the locator with it. -/
def renderCombined (base : Base) (c : Combination) (p : Part) : Except RenderError Rendered :=
  match p.body with
  | .text _ => .error (.translation (.malformed p.name p.source))
  | .nested chain _ =>
    match inner chain with
    | .error e => .error e
    | .ok r =>
      (ask l ⟨base, c.kind, .text r.text, .empty⟩).map fun s => ⟨s.codes, r.requests ++ s.requests⟩

/-- Renders a part, unless it is raw. -/
def renderSpecial (base : Base) (p : Part) : Except RenderError (Option Rendered) :=
  if p.isNth then (askCall l (nthCall base p)).map some
  else if p.name = Engine.internalText then (askCall l (matchCall base .text p)).map some
  else if p.name = Engine.internalLabel then (askCall l (matchCall base .label p)).map some
  else if p.name = Engine.hasText then askCall? l (hasTextCall? base p)
  else match combination? p.name with
    | some c => (renderCombined l inner base c p).map some
    | none =>
      if p.name = Engine.role then (askCall l (roleCall base p)).map some
      else if p.name = Engine.testId then (askCall l (testIdCall base p)).map some
      else if p.name = Engine.attr then askCall? l (attributeCall? base p)
      else .ok none

/-- Renders parts one after the other, the first call made on `base`. -/
def renderWalk (base : Base) : List Part → Except RenderError Rendered
  | [] => .ok ⟨[], []⟩
  | p :: ps =>
    match renderSpecial l inner base p with
    | .error e => .error e
    | .ok (some r) => (renderWalk .locator ps).map r.append
    | .ok none =>
      match ps with
      | [] => askCall l (.ok (rawCall base .default p))
      | q :: qs =>
        if q.isEnterFrame then
          match askCall l (.ok (rawCall base .frame p)) with
          | .error e => .error e
          | .ok r => (renderWalk .frameLocator qs).map r.append
        else
          match askCall l (.ok (rawCall base .default p)) with
          | .error e => .error e
          | .ok r => (renderWalk .locator (q :: qs)).map r.append

end

/-- Renders parts with the frames put first, the first call made on `base`. Chains in bodies are nested less deeply. -/
def renderParts (l : Language) (base : Base) (parts : List Part) : Except RenderError Rendered :=
  renderWalk l
    (fun c =>
      if _h : Part.depths c.parts < Part.depths parts then renderParts l .locator c.parts
      else .error (.translation (.malformed [] [])))
    base (framesFirst parts)
termination_by Part.depths parts

/-- Renders a selector on a page, or inside a frame locator. -/
def renderSelector (l : Language) (inFrame : Bool) (selector : Text) :
    Except RenderError Rendered :=
  match Chain.ofText selector with
  | .error e => .error (.translation (.selector e))
  | .ok c => renderParts l (startBase inFrame) c.parts

/-! ### Calls that are known beforehand -/

mutual

/-- The calls that are asked for when a call is rendered. -/
def Call.requests (l : Language) : Call → List CallRequest
  | .simple base kind target options => [⟨base, kind, target, options⟩]
  | .combined base combination inner =>
    SelectorCode.requests l inner ++ [⟨base, combination.kind, .text (code l inner), .empty⟩]

/-- The calls that are asked for when a list of calls is rendered, in their order. -/
def requests (l : Language) : List Call → List CallRequest
  | [] => []
  | c :: cs => c.requests l ++ requests l cs

end

/-- What rendering a list of calls comes to. -/
def rendered (l : Language) (calls : List Call) : Rendered :=
  ⟨codes l calls, requests l calls⟩

theorem rendered_cons (l : Language) (c : Call) (cs : List Call) :
    rendered l (c :: cs) = (rendered l [c]).append (rendered l cs) := by
  simp [rendered, Rendered.append, codes, requests]

/-- What a translation comes to when its result is rendered. -/
def Locator.lift {α β : Type} (f : α → β) : Except Error α → Except RenderError β
  | .error e => .error (.translation e)
  | .ok a => .ok (f a)

open Locator (lift)

variable {l : Language} {base : Base} {p : Part} {c : Call}

/-- A call that every language answers is rendered. -/
theorem ask_request (h : c.Answerable) : ask l (c.request l) = .ok (rendered l [c]) := by
  cases h with
  | intro base kind target options short =>
    rw [ask, Call.request, CallRequest.answer_eq_ok l short]
    simp [rendered, codes, requests, Call.code, Call.requests]

theorem askCall_eq {x : Except Error Call} (h : ∀ c, x = .ok c → c.Answerable) :
    askCall l x = lift (fun c => rendered l [c]) x := by
  cases x with
  | error e => rfl
  | ok c => exact ask_request (h c rfl)

theorem askCall?_eq {x : Except Error (Option Call)} (h : ∀ c, x = .ok (some c) → c.Answerable) :
    askCall? l x = lift (Option.map fun c => rendered l [c]) x := by
  cases x with
  | error e => rfl
  | ok o =>
    cases o with
    | none => rfl
    | some c =>
      rw [askCall?, ask_request (h c rfl)]
      rfl

theorem lift_map_some {x : Except Error Call} (f : Call → Rendered) :
    (lift f x).map some = lift (Option.map f) (x.map some) := by
  cases x <;> rfl

/-! ### The two ways agree -/

section

variable {inner : Chain → Except RenderError Rendered} {g : Chain → Except Error (List Call)}

/-- A combination is rendered when its chain is. -/
theorem renderCombined_eq {combination : Combination}
    (h : ∀ chain d, p.body = .nested chain d → inner chain = lift (rendered l) (g chain)) :
    renderCombined l inner base combination p =
      lift (fun c => rendered l [c]) (combinedCall g base combination p) := by
  unfold renderCombined combinedCall
  cases hbody : p.body with
  | text t => rfl
  | nested chain d =>
    simp only [h chain d hbody]
    cases g chain with
    | error e => rfl
    | ok cs =>
      -- a combination has no options, so no language refuses it
      have hanswer := CallRequest.answer_eq_ok l
        (r := ⟨base, combination.kind, .text (code l cs), .empty⟩) fun _ => rfl
      have htext : (rendered l cs).text = code l cs := rfl
      simp only [lift, ask, htext, hanswer]
      simp [Except.map, rendered, codes, requests, Call.code, Call.requests, code]

/-- A part is rendered when the chain in its body is. -/
theorem renderSpecial_eq
    (h : ∀ chain d, p.body = .nested chain d → inner chain = lift (rendered l) (g chain)) :
    renderSpecial l inner base p =
      lift (Option.map fun c => rendered l [c]) (specialCall? g base p) := by
  unfold renderSpecial specialCall?
  split
  · rw [askCall_eq fun c => answerable_of_nthCall, lift_map_some]
  · split
    · rw [askCall_eq fun c => answerable_of_matchCall (by decide), lift_map_some]
    · split
      · rw [askCall_eq fun c => answerable_of_matchCall (by decide), lift_map_some]
      · split
        · exact askCall?_eq fun c => answerable_of_hasTextCall?
        · cases combination? p.name with
          | some combination =>
            simp only
            rw [renderCombined_eq h, lift_map_some]
          | none =>
            simp only
            split
            · rw [askCall_eq fun c => answerable_of_roleCall, lift_map_some]
            · split
              · rw [askCall_eq fun c => answerable_of_testIdCall, lift_map_some]
              · split
                · exact askCall?_eq fun c => answerable_of_attributeCall?
                · rfl

/-- A raw call is answered by every language. -/
theorem askCall_rawCall {kind : Kind} (hkind : kind ≠ .role) :
    askCall l (.ok (rawCall base kind p)) = .ok (rendered l [rawCall base kind p]) :=
  ask_request (answerable_of_ne_role hkind _ _)

theorem map_append_lift {c : Call} {x : Except Error (List Call)} :
    (lift (rendered l) x).map (rendered l [c]).append = lift (rendered l) (x.map (c :: ·)) := by
  cases x with
  | error e => rfl
  | ok cs => exact congrArg Except.ok (rendered_cons l c cs).symm

/-- Parts are rendered one after the other when the chains in their bodies are. -/
theorem renderWalk_eq {ps : List Part}
    (h : ∀ p ∈ ps, ∀ chain d, p.body = .nested chain d →
      inner chain = lift (rendered l) (g chain)) :
    renderWalk l inner base ps = lift (rendered l) (walk g base ps) := by
  -- one case for each way the walk goes on; in all of them the part at the head decides
  fun_induction walk g base ps with
  | case1 => rfl
  | case2 base p ps e he =>
    have hspecial : renderSpecial l inner base p = .error (.translation e) := by
      rw [renderSpecial_eq (h p List.mem_cons_self), he]
      rfl
    rw [renderWalk.eq_def]
    simp only [hspecial]
    rfl
  | case3 base p ps call hc ih =>
    have hspecial : renderSpecial l inner base p = .ok (some (rendered l [call])) := by
      rw [renderSpecial_eq (h p List.mem_cons_self), hc]
      rfl
    rw [renderWalk.eq_def]
    simp only [hspecial]
    rw [ih fun q hq => h q (List.mem_cons_of_mem _ hq), map_append_lift]
  | case4 base p hc =>
    have hspecial : renderSpecial l inner base p = .ok none := by
      rw [renderSpecial_eq (h p List.mem_cons_self), hc]
      rfl
    rw [renderWalk.eq_def]
    simp only [hspecial]
    exact askCall_rawCall (by decide)
  | case5 base p hc q qs hq ih =>
    have hspecial : renderSpecial l inner base p = .ok none := by
      rw [renderSpecial_eq (h p List.mem_cons_self), hc]
      rfl
    rw [renderWalk.eq_def]
    simp only [hspecial, if_pos hq, askCall_rawCall (by decide : Kind.frame ≠ .role)]
    rw [ih fun r hr => h r (List.mem_cons_of_mem _ (List.mem_cons_of_mem _ hr)), map_append_lift]
  | case6 base p hc q qs hq ih =>
    have hspecial : renderSpecial l inner base p = .ok none := by
      rw [renderSpecial_eq (h p List.mem_cons_self), hc]
      rfl
    rw [renderWalk.eq_def]
    simp only [hspecial, if_neg hq, askCall_rawCall (by decide : Kind.default ≠ .role)]
    rw [ih fun r hr => h r (List.mem_cons_of_mem _ hr), map_append_lift]

end

/-- The chain in the body of a part is nested less deeply than the parts, in whichever order they are. -/
theorem Part.depths_lt_of_nested {p : Part} {ps : List Part} {chain : Chain} {d : Option Binary64}
    (hp : p ∈ framesFirst ps) (hbody : p.body = .nested chain d) :
    Part.depths chain.parts < Part.depths ps := by
  have hle := Part.depth_le_depths ((framesFirst_perm ps).mem_iff.1 hp)
  rw [Part.depth_of_nested hbody] at hle
  exact hle

/-- **The pass over parts** is their translation, followed by the rendering of the calls. -/
theorem renderParts_eq (l : Language) (base : Base) (parts : List Part) :
    renderParts l base parts = lift (rendered l) (calls base parts) := by
  rw [renderParts, calls_eq]
  refine renderWalk_eq fun p hp chain d hbody => ?_
  have hdepth := Part.depths_lt_of_nested hp hbody
  rw [dif_pos hdepth]
  exact renderParts_eq l .locator chain.parts
termination_by Part.depths parts

/-- **The pass over a selector** is its translation, followed by the rendering of the calls. -/
theorem renderSelector_eq (l : Language) (inFrame : Bool) (selector : Text) :
    renderSelector l inFrame selector = lift (rendered l) (selectorCalls inFrame selector) := by
  unfold renderSelector selectorCalls
  cases Chain.ofText selector with
  | error e => rfl
  | ok c => exact renderParts_eq l (startBase inFrame) c.parts

end SelectorCode
