import SelectorCode.Attribute.Reader
import SelectorCode.Locator.Call
import SelectorCode.Locator.Error
import SelectorCode.Selector.Printer

/-!
# Translating chains

Each part of a chain becomes one call, except that a part and the frame marker after it become one call together. A
part without a call of its own becomes a raw call with the text of the part. A chain may pick a match by index and then
enter its frame; the call that enters the frame has to come first, so the two parts change places.

## Main Definitions

* `matchCall?`, `roleCall`, `testIdCall`, `attributeCall?`: the engines that have calls of their own.
* `specialCall?`: the call of a part, unless it is raw.
* `framesFirst`: a list of parts in the order in which they are translated.
* `walk`: the calls of a list of parts.
* `calls`: the calls of parts from a base, with the frames put first.
* `calls_eq`: the equation of the recursion.
* `Chain.calls`: the calls of a chain.
-/

namespace SelectorCode

open Locator (Error)

/-! ### Engines -/

namespace Engine

/-- Matches by text. -/
def internalText : Text := "internal:text".toList

/-- Matches by the text of a label. -/
def internalLabel : Text := "internal:label".toList

/-- Keeps the matches that contain a text. -/
def hasText : Text := "internal:has-text".toList

/-- Matches by an accessible role. -/
def role : Text := "internal:role".toList

/-- Matches by a test id. -/
def testId : Text := "internal:testid".toList

/-- Matches by an attribute. -/
def attr : Text := "internal:attr".toList

end Engine

/-- The combination that an engine makes. -/
def combination? (name : Text) : Option Combination :=
  if name = Engine.has then some .has
  else if name = Engine.or then some .or
  else if name = Engine.and then some .and
  else if name = Engine.not then some .not
  else none

/-- The kind of call for an attribute that has one. -/
def attributeKind? (name : Text) : Option Kind :=
  if name = Kind.placeholder.name then some .placeholder
  else if name = Kind.alt.name then some .alt
  else if name = Kind.title.name then some .title
  else none

/-! ### Bodies -/

/-- The body of a part that must be a text. -/
def Part.textBody (p : Part) : Except Error Text :=
  match p.body with
  | .text t => .ok t
  | .nested _ _ => .error (.unexpectedNested p.name p.source)

/-- The match that the body of a part asks for. -/
def Part.textMatch (p : Part) : Except Error TextMatch :=
  match p.textBody with
  | .error e => .error e
  | .ok t => (TextMatch.ofBody t).mapError .textMatch

/-- The attribute selector in the body of a part. -/
def Part.attributes (p : Part) : Except Error AttributeSelector :=
  match p.textBody with
  | .error e => .error e
  | .ok t => (AttributeSelector.ofText true t).mapError .conditions

/-! ### Calls of their own -/

/-- The call of an index. -/
def nthCall (base : Base) (p : Part) : Except Error Call :=
  match p.textBody with
  | .error e => .error e
  | .ok t =>
    if t = "0".toList then .ok (.simple base .first (.text []) .empty)
    else if t = "-1".toList then .ok (.simple base .last (.text []) .empty)
    else .ok (.simple base .nth (.text t) .empty)

/-- The call of an engine that looks for a text. -/
def matchCall (base : Base) (kind : Kind) (p : Part) : Except Error Call :=
  p.textMatch.map fun m => .simple base kind m.target (.ofExact m.exact)

/-- The call of an engine that filters by text; there is none for an exact match. -/
def hasTextCall? (base : Base) (p : Part) : Except Error (Option Call) :=
  p.textMatch.map fun m =>
    if m.exact = some true then none else some (.simple base .hasText m.target (.ofExact m.exact))

/-- The number of a level, which has to be finite. -/
def levelValue (source t : Text) : Except Error Value :=
  match numeral? t with
  | none => .error (.invalidLevel source)
  | some (.int n) =>
    if (Binary64.ofInt? n).isNone then .error .levelTooLarge else .ok (.number (.int n))
  | some (.float x) => if x.isFinite then .ok (.number (.float x)) else .error (.invalidLevel source)

/-- The value of a role attribute. -/
def roleValue (source name : Text) (value : Option Value) : Except Error (Option Value) :=
  match value with
  | some (.text t) =>
    if name = "level".toList then (levelValue source t).map some else .ok (some (.text t))
  | v => .ok v

/-- The name under which a role attribute is passed. -/
def roleAttributeName (name : Text) : Text :=
  if name = "include-hidden".toList then "includeHidden".toList else name

/-- The options of a role with one more condition. The condition on the name also says whether it is exact. -/
def addRoleCondition (source : Text) (options : Options) (c : Condition) : Except Error Options :=
  if c.name = "name".toList then
    .ok { options with exact := some c.test.isCaseSensitive, name := c.test.value? }
  else
    (roleValue source c.name c.test.value?).map fun v =>
      { options with attributes := options.attributes ++ [(roleAttributeName c.name, v)] }

/-- The options of a role with the given conditions. -/
def roleOptions (source : Text) (options : Options) : List Condition → Except Error Options
  | [] => .ok options
  | c :: cs =>
    match addRoleCondition source options c with
    | .error e => .error e
    | .ok options => roleOptions source options cs

/-- The call of a role. -/
def roleCall (base : Base) (p : Part) : Except Error Call :=
  match p.attributes with
  | .error e => .error e
  | .ok s =>
    (roleOptions p.source .empty s.conditions).map fun o => .simple base .role (.text s.name) o

/-- A value that can be looked for. -/
def Value.target? : Option Value → Option Target
  | some (.text t) => some (.text t)
  | some (.pattern p) => some (.pattern p)
  | _ => none

/-- The call of a test id. -/
def testIdCall (base : Base) (p : Part) : Except Error Call :=
  match p.attributes with
  | .error e => .error e
  | .ok s =>
    match s.conditions with
    | [] => .error (.missingTestId p.source)
    | c :: _ =>
      match Value.target? c.test.value? with
      | none => .error (.invalidTestId p.source)
      | some t => .ok (.simple base .testId t .empty)

/-- The call of an attribute, if there is one for it. -/
def attributeCall? (base : Base) (p : Part) : Except Error (Option Call) :=
  match p.attributes with
  | .error e => .error e
  | .ok s =>
    match s.conditions with
    | [] => .error (.missingAttribute p.source)
    | c :: _ =>
      match attributeKind? c.name with
      | none => .ok none
      | some kind =>
        match Value.target? c.test.value? with
        | none => .error (.invalidAttribute c.name p.source)
        | some t => .ok (some (.simple base kind t (.ofExact (some c.test.isCaseSensitive))))

/-- The call of an engine that combines locators, when `inner` translates the chain in its body. -/
def combinedCall (inner : Chain → Except Error (List Call)) (base : Base) (c : Combination)
    (p : Part) : Except Error Call :=
  match p.body with
  | .text _ => .error (.malformed p.name p.source)
  | .nested chain _ => (inner chain).map fun calls => .combined base c calls

/-- The call of a part, unless it is raw. -/
def specialCall? (inner : Chain → Except Error (List Call)) (base : Base) (p : Part) :
    Except Error (Option Call) :=
  if p.isNth then (nthCall base p).map some
  else if p.name = Engine.internalText then (matchCall base .text p).map some
  else if p.name = Engine.internalLabel then (matchCall base .label p).map some
  else if p.name = Engine.hasText then hasTextCall? base p
  else match combination? p.name with
    | some c => (combinedCall inner base c p).map some
    | none =>
      if p.name = Engine.role then (roleCall base p).map some
      else if p.name = Engine.testId then (testIdCall base p).map some
      else if p.name = Engine.attr then attributeCall? base p
      else .ok none

/-! ### The order of index and frame -/

/-- Exchanges every index with a frame marker directly after it; a part that has moved does not move again. -/
def framesFirst : List Part → List Part
  | p :: q :: r =>
    if p.isNth && q.isEnterFrame then q :: p :: framesFirst r else p :: framesFirst (q :: r)
  | ps => ps

/-- Nothing is lost by exchanging. -/
theorem framesFirst_perm (ps : List Part) : (framesFirst ps).Perm ps := by
  fun_induction framesFirst ps with
  | case1 p q r _ ih => exact (List.Perm.swap p q _).trans ((ih.cons q).cons p)
  | case2 p q r _ ih => exact ih.cons p
  | case3 => exact .refl _

/-! ### Chains -/

/-- A raw call with the text of a part. -/
def rawCall (base : Base) (kind : Kind) (p : Part) : Call :=
  .simple base kind (.text (p.text false)) .empty

/-- The calls of a list of parts, the first made on `base`. A raw part enters a frame when a marker follows it; every
call but those is followed by calls on a locator. -/
def walk (inner : Chain → Except Error (List Call)) (base : Base) :
    List Part → Except Error (List Call)
  | [] => .ok []
  | p :: ps =>
    match specialCall? inner base p with
    | .error e => .error e
    | .ok (some call) => (walk inner .locator ps).map (call :: ·)
    | .ok none =>
      match ps with
      | [] => .ok [rawCall base .default p]
      | q :: qs =>
        if q.isEnterFrame then (walk inner .frameLocator qs).map (rawCall base .frame p :: ·)
        else (walk inner .locator (q :: qs)).map (rawCall base .default p :: ·)

/-- The calls of parts, the first made on `base`. Chains in bodies are nested less deeply than the parts, and their
first call is made on a locator. -/
def calls (base : Base) (parts : List Part) : Except Error (List Call) :=
  walk
    (fun c =>
      if _h : Part.depths c.parts < Part.depths parts then calls .locator c.parts
      else .error (.malformed [] []))
    base (framesFirst parts)
termination_by Part.depths parts

section

variable {f g : Chain → Except Error (List Call)}

theorem combinedCall_congr {base : Base} {c : Combination} {p : Part}
    (h : ∀ inner d, p.body = .nested inner d → f inner = g inner) :
    combinedCall f base c p = combinedCall g base c p := by
  unfold combinedCall
  split
  · rfl
  next inner d hb => rw [h inner d hb]

theorem specialCall?_congr {base : Base} {p : Part}
    (h : ∀ inner d, p.body = .nested inner d → f inner = g inner) :
    specialCall? f base p = specialCall? g base p := by
  unfold specialCall?
  simp only [combinedCall_congr h]

/-- The calls of parts depend only on how the chains in their bodies are translated. -/
theorem walk_congr {base : Base} {ps : List Part}
    (h : ∀ p ∈ ps, ∀ inner d, p.body = .nested inner d → f inner = g inner) :
    walk f base ps = walk g base ps := by
  fun_induction walk f base ps with
  | case1 => rfl
  | case2 base p ps e he =>
    have hs := (specialCall?_congr (h p List.mem_cons_self)).symm.trans he
    rw [walk.eq_def g]
    simp only [hs]
  | case3 base p ps call hc ih =>
    have hs := (specialCall?_congr (h p List.mem_cons_self)).symm.trans hc
    rw [walk.eq_def g]
    simp only [hs]
    rw [ih fun q hq => h q (List.mem_cons_of_mem _ hq)]
  | case4 base p hc =>
    have hs := (specialCall?_congr (h p List.mem_cons_self)).symm.trans hc
    rw [walk.eq_def g]
    simp only [hs]
  | case5 base p hc q qs hq ih =>
    have hs := (specialCall?_congr (h p List.mem_cons_self)).symm.trans hc
    rw [walk.eq_def g]
    simp only [hs, if_pos hq]
    rw [ih fun r hr => h r (List.mem_cons_of_mem _ (List.mem_cons_of_mem _ hr))]
  | case6 base p hc q qs hq ih =>
    have hs := (specialCall?_congr (h p List.mem_cons_self)).symm.trans hc
    rw [walk.eq_def g]
    simp only [hs, if_neg hq]
    rw [ih fun r hr => h r (List.mem_cons_of_mem _ hr)]

end

/-- Parts are translated with the same function for the chains in their bodies. -/
theorem calls_eq (base : Base) (parts : List Part) :
    calls base parts = walk (fun c => calls .locator c.parts) base (framesFirst parts) := by
  rw [calls]
  refine walk_congr fun p hp inner d hb => dif_pos ?_
  have hd := Part.depth_le_depths ((framesFirst_perm parts).mem_iff.1 hp)
  rw [Part.depth_of_nested hb] at hd
  exact hd

/-- The base of the first call of a chain. -/
def startBase (inFrame : Bool) : Base :=
  if inFrame then .frameLocator else .page

/-- The calls of a chain on a page, or inside a frame locator. -/
def Chain.calls (inFrame : Bool) (c : Chain) : Except Error (List Call) :=
  SelectorCode.calls (startBase inFrame) c.parts

end SelectorCode
