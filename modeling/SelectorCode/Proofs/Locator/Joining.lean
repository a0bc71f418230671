import Mathlib.Data.List.Basic
import SelectorCode.Proofs.Locator.Languages

/-!
# Translating joined lists of parts

Parts are translated one after the other, so two lists put together are translated as the one and then the other. What
passes from the first to the second is the base of the next call: a call that enters a frame is followed by calls on a
frame locator, every other call by calls on a locator. The parts of the two lists have nothing else to do with each
other unless the second begins with a frame marker, which belongs to the part before it.

## Main Definitions

* `BeginsOutside`: the lists that do not begin with a frame marker.
* `Call.nextBase`, `baseAfter`: what the call after a call, and after a list of calls, is made on.
* `partsCode`: the code of a list of parts.

## Main Statements

* `framesFirst_append_of_seam`, `framesFirst_append`: the frames of two lists are put first in each of them.
* `kind_ne_frame_of_specialCall?`: only a raw call enters a frame.
* `walk_append`, `calls_append`: the calls of two lists.
* `partsCode_append`: the code of two lists, with a point between.
-/

namespace SelectorCode

open Locator (Error)

variable {base : Base} {p : Part} {c : Call} {ps qs : List Part}

/-! ### Frames first -/

/-- The lists that do not begin with a frame marker. -/
def BeginsOutside (ps : List Part) : Prop :=
  ∀ p, ps.head? = some p → p.isEnterFrame = false

theorem isEnterFrame_marker :
    (Part.ofText Engine.control Part.enterFrameBody).isEnterFrame = true := by
  simp [Part.isEnterFrame, Part.ofText]

theorem isNth_of_isEnterFrame (h : p.isEnterFrame = true) : p.isNth = false := by
  simp only [Part.isEnterFrame, Bool.and_eq_true, decide_eq_true_eq] at h
  rw [Part.isNth, h.1]
  decide

/-- A frame marker at the beginning stays there, since it is no index. -/
theorem framesFirst_cons_of_isEnterFrame (h : p.isEnterFrame = true) (ps : List Part) :
    framesFirst (p :: ps) = p :: framesFirst ps := by
  cases ps with
  | nil => simp [framesFirst]
  | cons q ps => rw [framesFirst, isNth_of_isEnterFrame h, Bool.false_and, if_neg (by simp)]

theorem beginsOutside_of_framesFirst (h : BeginsOutside (framesFirst ps)) : BeginsOutside ps := by
  intro p hp
  cases ps with
  | nil => cases hp
  | cons q ps =>
    cases hp
    rw [Bool.eq_false_iff]
    intro hframe
    rw [framesFirst_cons_of_isEnterFrame hframe] at h
    rw [h p rfl] at hframe
    exact Bool.noConfusion hframe

/-- No part moves across the seam of two lists, unless an index ends the first and a frame marker begins the second. -/
theorem framesFirst_append_of_seam
    (h : ∀ p ∈ ps.getLast?, ∀ q ∈ qs.head?, (p.isNth && q.isEnterFrame) = false) :
    framesFirst (ps ++ qs) = framesFirst ps ++ framesFirst qs := by
  fun_induction framesFirst ps with
  | case1 p q r hswap ih =>
    have hr := ih fun x hx => h x (List.mem_getLast?_cons (List.mem_getLast?_cons hx))
    rw [List.cons_append, List.cons_append, framesFirst, if_pos hswap, hr]
    rfl
  | case2 p q r hstay ih =>
    have hr := ih fun x hx => h x (List.mem_getLast?_cons hx)
    rw [List.cons_append, List.cons_append, framesFirst, if_neg hstay, ← List.cons_append, hr]
    rfl
  | case3 ps hshort =>
    match ps, hshort with
    | [], _ => rfl
    | [p], _ =>
      cases qs with
      | nil => simp [framesFirst]
      | cons q qs =>
        rw [List.singleton_append, framesFirst, h p rfl q rfl, if_neg (by simp)]
        rfl
    | p :: q :: r, hshort => exact absurd rfl (hshort p q r)

/-- No part moves across the seam of two lists, if the second does not begin with a frame marker. -/
theorem framesFirst_append (h : BeginsOutside qs) :
    framesFirst (ps ++ qs) = framesFirst ps ++ framesFirst qs :=
  framesFirst_append_of_seam fun p _ q hq => by rw [h q hq, Bool.and_false]

/-! ### Calls of their own -/

/-- The call of a part enters no frame, unless it is raw. -/
theorem kind_ne_frame_of_specialCall? {inner : Chain → Except Error (List Call)}
    (h : specialCall? inner base p = .ok (some c)) : c.kind ≠ .frame := by
  rcases exists_of_specialCall? h with
    ⟨kind, hkind, target, options, rfl⟩ | ⟨combination, -, -, -, -, -, -, rfl⟩
  · rintro rfl
    exact absurd hkind (by decide)
  · cases combination <;> exact Kind.noConfusion

/-! ### Walks -/

/-- What the call after a call is made on. -/
def Call.nextBase (c : Call) : Base :=
  if c.entersFrame then .frameLocator else .locator

theorem Call.nextBase_of_kind_ne (h : c.kind ≠ .frame) : c.nextBase = .locator := by
  simp [nextBase, entersFrame, h]

/-- What the call after a list of calls is made on, when the first of them is made on `base`. -/
def baseAfter (base : Base) (cs : List Call) : Base :=
  (cs.getLast?.map Call.nextBase).getD base

theorem baseAfter_cons (base : Base) (c : Call) (cs : List Call) :
    baseAfter base (c :: cs) = baseAfter c.nextBase cs := by
  cases cs with
  | nil => rfl
  | cons d cs => simp [baseAfter, List.getLast?_cons]

/-- A call in front stays in front of whatever comes next. -/
theorem bind_map_cons {x : Except Error (List Call)} {f g : List Call → Except Error (List Call)}
    (h : ∀ cs, f (c :: cs) = (g cs).map (c :: ·)) :
    (x.map (c :: ·)).bind f = (x.bind g).map (c :: ·) := by
  cases x with
  | error e => rfl
  | ok cs => exact h cs

/-- The calls of two lists are those of the first, and those of the second on what the first leaves. -/
theorem walk_append {inner : Chain → Except Error (List Call)} (h : BeginsOutside qs) :
    walk inner base (ps ++ qs) = (walk inner base ps).bind fun cs =>
      (walk inner (baseAfter base cs) qs).map (cs ++ ·) := by
  have hcons : ∀ (base : Base) (c : Call) (cs : List Call),
      (walk inner (baseAfter base (c :: cs)) qs).map (c :: cs ++ ·) =
        ((walk inner (baseAfter c.nextBase cs) qs).map (cs ++ ·)).map (c :: ·) := by
    intro base c cs
    rw [baseAfter_cons]
    cases walk inner (baseAfter c.nextBase cs) qs <;> rfl
  -- one case for each way in which the walk goes on from the part at the head
  fun_induction walk inner base ps with
  | case1 base =>
    have hbase : baseAfter base [] = base := rfl
    rw [List.nil_append, Except.bind, hbase]
    cases walk inner base qs <;> rfl
  | case2 base p ps e he =>
    rw [List.cons_append, walk.eq_def]
    simp only [he]
    rfl
  | case3 base p ps call hc ih =>
    have hbase := Call.nextBase_of_kind_ne (kind_ne_frame_of_specialCall? hc)
    rw [List.cons_append, walk.eq_def]
    simp only [hc]
    rw [ih, ← hbase, bind_map_cons (hcons base call)]
  | case4 base p hc =>
    -- the seam: the raw part would enter a frame if a marker followed it
    rw [List.singleton_append, walk.eq_def]
    simp only [hc]
    cases qs with
    | nil => rfl
    | cons q qs =>
      simp only [h q rfl]
      rfl
  | case5 base p hc q qs' hq ih =>
    rw [List.cons_append, List.cons_append, walk.eq_def]
    simp only [hc, hq, if_true]
    rw [ih]
    exact (bind_map_cons (hcons base (rawCall base .frame p))).symm
  | case6 base p hc q qs' hq ih =>
    rw [List.cons_append, List.cons_append, walk.eq_def]
    simp only [hc, hq]
    rw [← List.cons_append, ih]
    exact (bind_map_cons (hcons base (rawCall base .default p))).symm

/-- The calls of two lists, with the frames put first in each. -/
theorem calls_append (h : BeginsOutside (framesFirst qs)) :
    calls base (ps ++ qs) = (calls base ps).bind fun cs =>
      (calls (baseAfter base cs) qs).map (cs ++ ·) := by
  rw [calls_eq, calls_eq base ps, framesFirst_append (beginsOutside_of_framesFirst h),
    walk_append h]
  simp only [calls_eq _ qs]

/-! ### Code -/

theorem walk_ne_nil {inner : Chain → Except Error (List Call)} {cs : List Call} (hps : ps ≠ [])
    (h : walk inner base ps = .ok cs) : cs ≠ [] := by
  cases isWalk_of_walk h with
  | nil => exact absurd rfl hps
  | _ => exact List.cons_ne_nil _ _

/-- Parts have at least one call. -/
theorem calls_ne_nil {cs : List Call} (hps : ps ≠ []) (h : calls base ps = .ok cs) : cs ≠ [] := by
  rw [calls_eq] at h
  refine walk_ne_nil (fun hnil => hps ?_) h
  exact List.nil_perm.1 (hnil ▸ framesFirst_perm ps)

theorem joinCalls_append {xs ys : List Text} (hxs : xs ≠ []) (hys : ys ≠ []) :
    joinCalls (xs ++ ys) = joinCalls xs ++ '.' :: joinCalls ys := by
  unfold joinCalls
  induction xs with
  | nil => exact absurd rfl hxs
  | cons x xs ih =>
    rw [List.cons_append, List.intercalate_cons_of_ne_nil (by simp [hys])]
    by_cases hnil : xs = []
    · simp [hnil]
    · simp [ih hnil, List.intercalate_cons_of_ne_nil hnil]

/-- The codes of two lists of calls are joined by a point. -/
theorem code_append (l : Language) {cs ds : List Call} (hcs : cs ≠ []) (hds : ds ≠ []) :
    code l (cs ++ ds) = code l cs ++ '.' :: code l ds := by
  simp only [code, codes_eq_map, List.map_append]
  exact joinCalls_append (by simpa using hcs) (by simpa using hds)

/-- The code of a list of parts, the first call made on `base`. -/
def partsCode (l : Language) (base : Base) (parts : List Part) : Except Error Text :=
  (calls base parts).map (code l)

/-- The code of a chain is that of its parts. -/
theorem Chain.code_eq_partsCode (l : Language) (inFrame : Bool) (c : Chain) :
    c.code l inFrame = partsCode l (startBase inFrame) c.parts :=
  rfl

/-- **Rendering is compositional.** The code of two lists of parts is the code of the first, a point, and the code of
the second on what the last call of the first leaves, unless the second begins with a frame marker. Of two errors the
first counts. -/
theorem partsCode_append (l : Language) (base : Base) (hps : ps ≠ []) (hqs : qs ≠ [])
    (hseam : BeginsOutside (framesFirst qs)) :
    (∀ e, partsCode l base ps = .error e → partsCode l base (ps ++ qs) = .error e) ∧
    ∀ cs, calls base ps = .ok cs → partsCode l base ps = .ok (code l cs) ∧
      ∃ last, cs.getLast? = some last ∧
        (∀ e, partsCode l last.nextBase qs = .error e → partsCode l base (ps ++ qs) = .error e) ∧
        ∀ t, partsCode l last.nextBase qs = .ok t →
          partsCode l base (ps ++ qs) = .ok (code l cs ++ '.' :: t) := by
  have happend : partsCode l base (ps ++ qs) = ((calls base ps).bind fun cs =>
      (calls (baseAfter base cs) qs).map (cs ++ ·)).map (code l) := by
    rw [partsCode, calls_append hseam]
  rw [happend]
  constructor
  · intro e he
    cases hcalls : calls base ps with
    | error e' =>
      rw [partsCode, hcalls] at he
      exact he
    | ok cs =>
      rw [partsCode, hcalls] at he
      cases he
  · intro cs hcs
    have hne := calls_ne_nil hps hcs
    have hlast := List.getLast?_eq_some_getLast hne
    have hbase : baseAfter base cs = (cs.getLast hne).nextBase := by
      rw [baseAfter, hlast]
      rfl
    refine ⟨by rw [partsCode, hcs]; rfl, cs.getLast hne, hlast, ?_⟩
    rw [hcs, Except.bind, hbase, partsCode]
    cases hds : calls (cs.getLast hne).nextBase qs with
    | error e =>
      refine ⟨fun e' he => ?_, fun t ht => ?_⟩
      · exact he
      · cases ht
    | ok ds =>
      refine ⟨fun e he => ?_, fun t ht => ?_⟩
      · cases he
      · cases ht
        exact congrArg Except.ok (code_append l hne (calls_ne_nil hqs hds))

/-- Behind a frame, the options of a call are those of a frame locator. -/
theorem partsCode_append_frame :
    partsCode .java .page ([.ofText Engine.css "iframe".toList,
        .ofText Engine.control Part.enterFrameBody] ++
        [.ofText Engine.internalText "\"a\"".toList]) =
      .ok ("frameLocator(\"iframe\")".toList ++
        ".getByText(\"a\", new FrameLocator.GetByTextOptions().setExact(true))".toList) := by
  have hmarker : (Part.ofText Engine.control Part.enterFrameBody).isEnterFrame = true := by
    simp [Part.isEnterFrame, Part.ofText]
  have hfirst : calls .page [.ofText Engine.css "iframe".toList,
      .ofText Engine.control Part.enterFrameBody] =
      .ok [.simple .page .frame (.text "iframe".toList) .empty] := by
    have hraw : ∀ inner, specialCall? inner .page (.ofText Engine.css "iframe".toList) = .ok none :=
      fun _ => rfl
    have horder : framesFirst [.ofText Engine.css "iframe".toList,
        .ofText Engine.control Part.enterFrameBody] = [.ofText Engine.css "iframe".toList,
        .ofText Engine.control Part.enterFrameBody] := rfl
    rw [calls_eq, horder, walk, hraw]
    simp only [hmarker, if_true]
    rfl
  have hsecond : partsCode .java .frameLocator [.ofText Engine.internalText "\"a\"".toList] =
      .ok "getByText(\"a\", new FrameLocator.GetByTextOptions().setExact(true))".toList := by
    rw [partsCode, calls_eq]
    rfl
  have hseam : BeginsOutside (framesFirst [.ofText Engine.internalText "\"a\"".toList]) := by
    intro p hp
    cases hp
    decide
  obtain ⟨-, last, hlast, -, hcode⟩ :=
    (partsCode_append .java .page (by simp) (by simp) hseam).2 _ hfirst
  cases hlast
  exact hcode _ hsecond

end SelectorCode
