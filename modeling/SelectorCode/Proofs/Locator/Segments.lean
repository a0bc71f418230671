import Mathlib.Logic.Relation
import Mathlib.Order.WellFounded
import SelectorCode.Proofs.Locator.Receiver

/-!
# The parts that calls use

The parts of a chain may be translated by a loop that holds an index into them. Each round makes one call of the part at
the index and goes on behind what the call has used: the part alone or, if the call enters a frame, the part and the
marker behind it. So the calls made so far correspond to segments of the parts up to the index, which no round takes
past the end. Since each round takes it further, the loop comes to the end, and then every part has been used once.

## Main Definitions

* `Call.Uses`: the segments of parts that a call may use.
* `CallRound`, `callRound`: a round of the loop.
* `CallLoop`, `CallLoop.Next`: the loop on its way, and how a round takes it on.
* `CallLoop.run`: the whole loop.
* `CallLoop.Covers`: the calls so far use the parts up to the index.
* `CallWriter`, `CallWriter.render`: whatever writes calls, and what it writes of a list of parts.
* `Language.writer`: the languages as writers.

## Main Statements

* `exists_uses_of_callRound`: what a round uses.
* `CallLoop.Covers.next`, `CallLoop.Covers.of_reaches`: what a round keeps, and what any number of rounds keep.
* `CallLoop.wellFounded_next`: there are only finitely many rounds.
* `CallLoop.run_eq`: the loop does the same as the translation part by part.
* `Language.render_writer`: what a language writes is its code.
* `exists_segments_of_render`: the calls that are written of a list of parts use every part once.
-/

namespace SelectorCode

open Locator (Error)

variable {inner : Chain → Except Error (List Call)} {base : Base} {parts : List Part} {cs : List Call}

/-! ### Segments -/

/-- The segments of parts that a call may use: the part that makes it, and the frame marker behind that part if and only
if the call enters a frame. -/
inductive Call.Uses (inner : Chain → Except Error (List Call)) (c : Call) : List Part → Prop
  | part {p : Part} (makes : p.Makes inner c.base c) (stays : c.entersFrame = false) :
      Uses inner c [p]
  | frame {p q : Part} (makes : p.Makes inner c.base c) (enters : c.entersFrame = true)
      (marker : q.isEnterFrame = true) : Uses inner c [p, q]

/-- Calls use as many parts as there are calls, and one part more for each frame that is entered. -/
theorem length_flatten_of_uses {segments : List (List Part)}
    (h : List.Forall₂ (Call.Uses inner) cs segments) :
    segments.flatten.length = cs.length + cs.countP Call.entersFrame := by
  induction h with
  | nil => rfl
  | @cons c segment cs segments huses _ ih =>
    rw [List.flatten_cons, List.length_append, ih, List.length_cons, List.countP_cons]
    cases huses with
    | part _ hstays =>
      rw [List.length_singleton, hstays, if_neg Bool.false_ne_true]
      omega
    | frame _ henters _ =>
      rw [henters, if_pos rfl, List.length_cons, List.length_singleton]
      omega

/-! ### Rounds -/

/-- What a round yields: a call, what the next call is made on, and how many parts the call uses. -/
structure CallRound where
  call : Call
  nextBase : Base
  used : Nat

/-- The round at an index. The call of a raw part uses the frame marker behind the part as well, if there is one. -/
def callRound (inner : Chain → Except Error (List Call)) (base : Base) (parts : List Part)
    (index : Nat) (h : index < parts.length) : Except Error CallRound :=
  match specialCall? inner base parts[index] with
  | .error e => .error e
  | .ok (some call) => .ok ⟨call, .locator, 1⟩
  | .ok none =>
    if parts[index + 1]?.any Part.isEnterFrame then
      .ok ⟨rawCall base .frame parts[index], .frameLocator, 2⟩
    else .ok ⟨rawCall base .default parts[index], .locator, 1⟩

variable {index : Nat} {h : index < parts.length} {r : CallRound}

/-- **A round uses** a segment that begins at the index and lies within the parts. -/
theorem exists_uses_of_callRound (hr : callRound inner base parts index h = .ok r) :
    ∃ segment, r.call.Uses inner segment ∧ segment.length = r.used ∧
      parts.drop index = segment ++ parts.drop (index + r.used) := by
  have hcons : parts.drop index = parts[index] :: parts.drop (index + 1) :=
    List.drop_eq_getElem_cons h
  unfold callRound at hr
  split at hr
  next => cases hr
  next call hcall =>
    cases hr
    have hbase := base_of_specialCall? hcall
    have hstays : call.entersFrame = false :=
      decide_eq_false (kind_ne_frame_of_specialCall? hcall)
    exact ⟨[parts[index]], .part (.engine (by rwa [hbase])) hstays, rfl, hcons⟩
  next hraw =>
    split at hr
    next hmarker =>
      cases hr
      obtain ⟨q, hq, hmarker⟩ := Option.any_eq_true _ _ |>.1 hmarker
      obtain ⟨hlt, rfl⟩ := List.getElem?_eq_some_iff.1 hq
      refine ⟨[parts[index], parts[index + 1]], .frame (.text .frame (Or.inr rfl) rfl) rfl hmarker, rfl, ?_⟩
      rw [hcons, List.drop_eq_getElem_cons hlt]
      rfl
    next =>
      cases hr
      exact ⟨[parts[index]], .part (.text .default (Or.inl rfl) rfl) rfl, rfl, hcons⟩

/-- A round uses at least one part, and none past the end. -/
theorem used_of_callRound (hr : callRound inner base parts index h = .ok r) :
    0 < r.used ∧ index + r.used ≤ parts.length := by
  obtain ⟨segment, huses, hlength, hdrop⟩ := exists_uses_of_callRound hr
  have hpos : 0 < segment.length := by
    cases huses with
    | part => exact Nat.zero_lt_one
    | frame => exact Nat.zero_lt_two
  have hlengths := congrArg List.length hdrop
  rw [List.length_append, List.length_drop, List.length_drop] at hlengths
  omega

/-- Translating parts one after the other begins with a round. -/
theorem walk_drop_eq (inner : Chain → Except Error (List Call)) (base : Base)
    (h : index < parts.length) :
    walk inner base (parts.drop index) = (callRound inner base parts index h).bind fun r =>
      (walk inner r.nextBase (parts.drop (index + r.used))).map (r.call :: ·) := by
  have hcons : parts.drop index = parts[index] :: parts.drop (index + 1) :=
    List.drop_eq_getElem_cons h
  rw [hcons, callRound, walk.eq_def]
  cases hspecial : specialCall? inner base parts[index] with
  | error e => simp only [hspecial, Except.bind]
  | ok call =>
    cases call with
    | some call => simp only [hspecial, Except.bind]
    | none =>
      simp only [hspecial]
      -- whether a marker follows is seen in the rest of the parts
      by_cases hnext : index + 1 < parts.length
      · rw [List.drop_eq_getElem_cons hnext, List.getElem?_eq_getElem hnext, Option.any_some]
        by_cases hmarker : parts[index + 1].isEnterFrame = true
        · simp only [hmarker, if_true, Except.bind]
        · simp only [if_neg hmarker, Except.bind]
          rw [← List.drop_eq_getElem_cons hnext]
      · have hnone := Nat.le_of_not_lt hnext
        rw [List.drop_of_length_le hnone, List.getElem?_eq_none hnone, Option.any_none,
          if_neg Bool.false_ne_true, Except.bind, List.drop_of_length_le hnone, walk]
        rfl

/-! ### The loop -/

/-- The loop on its way: an index into the parts, what the next call is made on, and the calls so far. -/
structure CallLoop where
  index : Nat
  base : Base
  calls : List Call

namespace CallLoop

variable {s t : CallLoop}

/-- The loop before its first round. -/
def start (base : Base) : CallLoop :=
  ⟨0, base, []⟩

/-- The loop after one round more. -/
def after (s : CallLoop) (r : CallRound) : CallLoop :=
  ⟨s.index + r.used, r.nextBase, s.calls ++ [r.call]⟩

/-- A round takes the loop from one state to the next, as long as the index is not at the end. -/
def Next (inner : Chain → Except Error (List Call)) (parts : List Part) (s t : CallLoop) : Prop :=
  ∃ (h : s.index < parts.length) (r : CallRound),
    callRound inner s.base parts s.index h = .ok r ∧ t = s.after r

/-- The whole loop. -/
def run (inner : Chain → Except Error (List Call)) (parts : List Part) (s : CallLoop) :
    Except Error (List Call) :=
  if h : s.index < parts.length then
    match _hr : callRound inner s.base parts s.index h with
    | .error e => .error e
    | .ok r => run inner parts (s.after r)
  else .ok s.calls
termination_by parts.length - s.index
decreasing_by
  have hused := (used_of_callRound _hr).1
  show parts.length - (s.index + r.used) < parts.length - s.index
  omega

/-- The calls so far use the parts up to the index, segment by segment, and the index is not past the end. -/
def Covers (inner : Chain → Except Error (List Call)) (parts : List Part) (s : CallLoop) : Prop :=
  ∃ segments, List.Forall₂ (Call.Uses inner) s.calls segments ∧
    segments.flatten = parts.take s.index ∧ s.index ≤ parts.length

theorem covers_start (base : Base) : (start base).Covers inner parts :=
  ⟨[], .nil, rfl, Nat.zero_le _⟩

/-- **One round** adds the segment that its call uses. -/
theorem Covers.next (hs : s.Covers inner parts) (hnext : s.Next inner parts t) :
    t.Covers inner parts := by
  obtain ⟨segments, huses, hflatten, -⟩ := hs
  obtain ⟨h, r, hr, rfl⟩ := hnext
  obtain ⟨segment, hsegment, hlength, hdrop⟩ := exists_uses_of_callRound hr
  refine ⟨segments ++ [segment], List.rel_append huses (.cons hsegment .nil), ?_,
    (used_of_callRound hr).2⟩
  have htake : (parts.drop s.index).take r.used = segment := by
    rw [hdrop, ← hlength, List.take_left]
  rw [List.flatten_append, hflatten, List.flatten_singleton, after, List.take_add, htake]

/-- **Any number of rounds** leave the loop like this. -/
theorem Covers.of_reaches (hs : s.Covers inner parts)
    (h : Relation.ReflTransGen (Next inner parts) s t) : t.Covers inner parts := by
  induction h with
  | refl => exact hs
  | tail _ hnext ih => exact ih.next hnext

/-- The index counts the calls, and each call that enters a frame once more. -/
theorem Covers.index_eq (hs : s.Covers inner parts) :
    s.index = s.calls.length + s.calls.countP Call.entersFrame := by
  obtain ⟨segments, huses, hflatten, hindex⟩ := hs
  rw [← length_flatten_of_uses huses, hflatten, List.length_take, Nat.min_eq_left hindex]

/-- **The loop ends**: each round brings the index closer to the end. -/
theorem wellFounded_next (inner : Chain → Except Error (List Call)) (parts : List Part) :
    WellFounded fun t s : CallLoop => s.Next inner parts t := by
  refine Subrelation.wf ?_ (measure fun s : CallLoop => parts.length - s.index).wf
  rintro t s ⟨h, r, hr, rfl⟩
  have hused := used_of_callRound hr
  show parts.length - (s.index + r.used) < parts.length - s.index
  omega

/-- **The loop does the same as the translation part by part**, from wherever it is. -/
theorem run_eq (inner : Chain → Except Error (List Call)) (parts : List Part) (s : CallLoop) :
    s.run inner parts = (walk inner s.base (parts.drop s.index)).map (s.calls ++ ·) := by
  fun_induction CallLoop.run inner parts s with
  | case1 s h e hr =>
    rw [walk_drop_eq inner s.base h, hr]
    rfl
  | case2 s h r hr ih =>
    rw [ih, walk_drop_eq inner s.base h, hr, after, Except.bind]
    cases walk inner r.nextBase (parts.drop (s.index + r.used)) with
    | error e => rfl
    | ok cs => exact congrArg Except.ok (List.append_assoc s.calls [r.call] cs)
  | case3 s h =>
    rw [List.drop_of_length_le (Nat.le_of_not_lt h), walk]
    exact congrArg Except.ok (List.append_nil s.calls).symm

/-- A loop that succeeds comes to a state with its calls in which nothing is left to do. -/
theorem exists_reaches_of_run (h : s.run inner parts = .ok cs) :
    ∃ t, Relation.ReflTransGen (Next inner parts) s t ∧ t.calls = cs ∧ parts.length ≤ t.index := by
  fun_induction CallLoop.run inner parts s with
  | case1 => cases h
  | case2 s hindex r hr ih =>
    obtain ⟨t, ht, hcalls, hend⟩ := ih h
    exact ⟨t, .head ⟨hindex, r, hr, rfl⟩ ht, hcalls, hend⟩
  | case3 s hindex =>
    cases h
    exact ⟨s, .refl, rfl, Nat.le_of_not_lt hindex⟩

end CallLoop

/-! ### Writers -/

/-- Whatever writes calls, one at a time, and puts the written calls of a chain together. It may refuse a call. -/
structure CallWriter (ε : Type) where
  write : CallRequest → Except ε Text
  join : List Text → Text

namespace CallWriter

variable {ε : Type} {w : CallWriter ε}

mutual

/-- A written call. A combination is written with the chain in it, whose calls have been written before. -/
def code (w : CallWriter ε) : Call → Except ε Text
  | .simple base kind target options => w.write ⟨base, kind, target, options⟩
  | .combined base combination inner =>
    match w.codes inner with
    | .error e => .error e
    | .ok ts => w.write ⟨base, combination.kind, .text (w.join ts), .empty⟩

/-- Written calls. -/
def codes (w : CallWriter ε) : List Call → Except ε (List Text)
  | [] => .ok []
  | c :: cs =>
    match w.code c with
    | .error e => .error e
    | .ok t => (w.codes cs).map (t :: ·)

end

/-- Parts, written call by call. A part that cannot be translated is told from a call that is refused. -/
def render (w : CallWriter ε) (base : Base) (parts : List Part) : Except (Error ⊕ ε) Text :=
  match calls base parts with
  | .error e => .error (.inl e)
  | .ok cs =>
    match w.codes cs with
    | .error e => .error (.inr e)
    | .ok ts => .ok (w.join ts)

/-- Calls are written one by one. -/
theorem forall₂_of_codes {ts : List Text} (h : w.codes cs = .ok ts) :
    List.Forall₂ (fun c t => w.code c = .ok t) cs ts := by
  induction cs generalizing ts with
  | nil =>
    cases h
    exact .nil
  | cons c cs ih =>
    rw [codes] at h
    split at h
    next => cases h
    next t ht =>
      obtain ⟨us, hus, rfl⟩ := exists_of_map_eq_ok h
      exact .cons ht (ih hus)

/-- Parts are written when they are translated and no call is refused. -/
theorem render_eq_ok_iff {t : Text} :
    w.render base parts = .ok t ↔
      ∃ cs ts, calls base parts = .ok cs ∧ w.codes cs = .ok ts ∧ t = w.join ts := by
  unfold render
  cases calls base parts with
  | error e => simp
  | ok cs =>
    cases hts : w.codes cs with
    | error e => simp [hts]
    | ok ts => simp [hts, eq_comm]

end CallWriter

/-- A language writes every call. -/
def Language.writer (l : Language) : CallWriter Empty :=
  ⟨fun r => .ok (render l r.base r.kind r.target r.options), joinCalls⟩

mutual

theorem Language.code_writer (l : Language) (c : Call) : l.writer.code c = .ok (c.code l) := by
  cases c with
  | simple base kind target options => rw [CallWriter.code, Call.code]; rfl
  | combined base combination inner => rw [CallWriter.code, Language.codes_writer l inner, Call.code]; rfl

theorem Language.codes_writer (l : Language) (cs : List Call) : l.writer.codes cs = .ok (codes l cs) := by
  cases cs with
  | nil => rfl
  | cons c cs =>
    rw [CallWriter.codes, Language.code_writer l c, Language.codes_writer l cs, codes]
    rfl

end

/-- Code in a language is what the language writes. -/
theorem Language.render_writer (l : Language) (base : Base) (parts : List Part) :
    l.writer.render base parts = (partsCode l base parts).mapError Sum.inl := by
  rw [partsCode, CallWriter.render]
  cases calls base parts with
  | error e => rfl
  | ok cs => simp only [Language.codes_writer]; rfl

/-! ### Together -/

/-- The calls of a chain inside another one, which begin on a locator. -/
def Chain.innerCalls (c : Chain) : Except Error (List Call) :=
  SelectorCode.calls .locator c.parts

/-- The calls of parts are those of the loop over them, with the frames put first. -/
theorem run_start_eq (base : Base) (ps : List Part) :
    (CallLoop.start base).run Chain.innerCalls (framesFirst ps) = calls base ps := by
  rw [CallLoop.run_eq, calls_eq]
  change (walk Chain.innerCalls base (framesFirst ps)).map ([] ++ ·) =
    walk Chain.innerCalls base (framesFirst ps)
  cases walk Chain.innerCalls base (framesFirst ps) <;> rfl

/-- **No part is lost or rendered twice**, whoever writes the calls. What is written of a list of parts are calls, one
by one and in order, which correspond to the segments that make up the parts with the frames put first. So there are as
many parts as there are calls and calls that enter frames. Every language writes the same calls. They are those of a
loop, whose index is never past the end, and which ends. -/
theorem exists_segments_of_render {ε : Type} {w : CallWriter ε} {ps : List Part} {t : Text}
    (h : w.render base ps = .ok t) :
    ∃ cs ts segments,
      t = w.join ts ∧
      List.Forall₂ (fun c u => w.code c = .ok u) cs ts ∧
      List.Forall₂ (Call.Uses Chain.innerCalls) cs segments ∧
      segments.flatten = framesFirst ps ∧
      cs.length + cs.countP Call.entersFrame = ps.length ∧
      (∀ l, partsCode l base ps = .ok (joinCalls (cs.map (Call.code l)))) ∧
      (CallLoop.start base).run Chain.innerCalls (framesFirst ps) = .ok cs ∧
      (∀ s, Relation.ReflTransGen (CallLoop.Next Chain.innerCalls (framesFirst ps)) (.start base) s →
        s.index ≤ ps.length ∧ s.index = s.calls.length + s.calls.countP Call.entersFrame) ∧
      WellFounded fun t s : CallLoop => s.Next Chain.innerCalls (framesFirst ps) t := by
  have hlength := (framesFirst_perm ps).length_eq
  obtain ⟨cs, ts, hcalls, hcodes, rfl⟩ := CallWriter.render_eq_ok_iff.1 h
  have hrun := (run_start_eq base ps).trans hcalls
  obtain ⟨s, hreaches, rfl, hend⟩ := CallLoop.exists_reaches_of_run hrun
  obtain ⟨segments, huses, hflatten, -⟩ := (CallLoop.covers_start base).of_reaches hreaches
  rw [List.take_of_length_le hend] at hflatten
  refine ⟨s.calls, ts, segments, rfl, CallWriter.forall₂_of_codes hcodes, huses, hflatten, ?_,
    fun l => ?_, hrun, fun s hs => ?_, CallLoop.wellFounded_next _ _⟩
  · rw [← length_flatten_of_uses huses, hflatten, hlength]
  · rw [partsCode, hcalls, ← codes_eq_map]
    rfl
  · have hcovers := (CallLoop.covers_start base).of_reaches hs
    have hindex := hcovers.index_eq
    obtain ⟨-, -, -, hle⟩ := hcovers
    rw [hlength] at hle
    exact ⟨hle, hindex⟩

/-- A frame that is picked by its index, and two frame markers more. -/
def manyMarkers : List Part :=
  [.ofText Engine.css "a".toList, .ofText Engine.nth "0".toList,
    .ofText Engine.control Part.enterFrameBody, .ofText Engine.control Part.enterFrameBody,
    .ofText Engine.control Part.enterFrameBody]

/-- The first marker changes places with the index, and the last one belongs to the call of the one before. -/
theorem exists_segments_of_render_markers :
    Language.python.writer.render .page manyMarkers =
      .ok "frame_locator(\"a\").first.frame_locator(\"internal:control=enter-frame\")".toList ∧
    ∃ cs segments, List.Forall₂ (Call.Uses Chain.innerCalls) cs segments ∧
      segments.flatten = [.ofText Engine.css "a".toList, .ofText Engine.control Part.enterFrameBody,
        .ofText Engine.nth "0".toList, .ofText Engine.control Part.enterFrameBody,
        .ofText Engine.control Part.enterFrameBody] ∧
      cs.length + cs.countP Call.entersFrame = 5 := by
  have hcode : partsCode .python .page manyMarkers =
      .ok "frame_locator(\"a\").first.frame_locator(\"internal:control=enter-frame\")".toList := by
    rw [partsCode, calls_eq]
    exact eq_ok_of_toOption_eq_some (by decide +kernel)
  have hrender : Language.python.writer.render .page manyMarkers =
      .ok "frame_locator(\"a\").first.frame_locator(\"internal:control=enter-frame\")".toList := by
    rw [Language.render_writer, hcode]
    rfl
  obtain ⟨cs, ts, segments, -, -, huses, hflatten, hcount, -⟩ := exists_segments_of_render hrender
  exact ⟨hrender, cs, segments, huses, hflatten.trans (by decide +kernel), hcount⟩

end SelectorCode
