import SelectorCode.Proofs.Selector.Label

/-!
# Chunks of joined selectors

A text that the scan takes as one chunk stays one when it is joined to others by ` >> `, provided that it leaves no
mark open. The converse holds as well and is what makes round trips exact: a chunk with as many `>` as the text it
should come from has been split off at the right place.

## Main Definitions

* `labels`: the labels of a selector.
* `IsChunk`: a text that is a single chunk, and the mark that it leaves open.
* `AreChunks`: texts that are single chunks, of which only the last may leave a mark open.

## Main Statements

* `chunks_eq_scan`: a selector without separators is scanned into a single chunk.
* `areChunks_scan`: the chunks of a scan are chunks on their own.
* `labels_append`: the labels of two selectors put together.
* `labels_intercalate`: the labels of chunks put together.
* `isChunk_of_count_eq`: a first chunk of the right count is the first text.
-/

namespace SelectorCode

theorem separator_append (r : Text) : separator ++ r = ' ' :: '>' :: '>' :: ' ' :: r := by
  simp [separator]

theorem includes_append (part x r : Text) : Text.includes part (x ++ (part ++ r)) = true := by
  induction x with
  | nil =>
    have hstart : Text.startsWith part (part ++ r) = true := by
      rw [Text.startsWith, Text.stripPrefix?_eq_some_iff.2 rfl]
      rfl
    rw [List.nil_append, Text.includes.eq_def]
    split
    next h =>
      rw [(List.append_eq_nil_iff.1 h).1]
      rfl
    next c s h => rw [← h, hstart, Bool.true_or]
  | cons c x ih => rw [List.cons_append, Text.includes, ih, Bool.or_true]

/-- A selector without separators need not be scanned. -/
theorem chunks_eq_scan (t : Text) : chunks t = (scan none [] t).1 := by
  rw [chunks]
  split
  · rfl
  next hnone =>
    cases hscan : scan none [] t with
    | mk cs q =>
      have hjoin := intercalate_scan none [] t
      rw [hscan, List.nil_append] at hjoin
      cases cs with
      | nil =>
        have := scan_ne_nil none [] t
        rw [hscan] at this
        exact absurd rfl this
      | cons c cs =>
        cases cs with
        | nil =>
          rw [List.intercalate_singleton] at hjoin
          rw [← hjoin]
        | cons d cs =>
          -- two chunks or more have a separator between them
          obtain ⟨x, r, rfl, -, -, -⟩ := exists_of_scan_cons_cons hscan
          have h := includes_append ">>".toList x r
          rw [show ">>".toList ++ r = '>' :: '>' :: r by simp] at h
          exact absurd h hnone

/-! ### Plain texts -/

theorem isAllPlain_of_isAllBlank {b : Text} (hb : Text.isAllBlank b = true) :
    isAllPlain b = true :=
  List.all_eq_true.2 fun _ hc => isPlain_of_class (by decide) (Text.isBlank_of_mem hb hc)

theorem isAllPlain_of_isName {name : Text} (h : Label.isName name = true) :
    isAllPlain name = true :=
  List.all_eq_true.2 fun _ hc => Label.isPlain_of_isNameChar (Label.isNameChar_of_mem h hc)

/-- A name and the equals sign behind it are plain. -/
theorem isAllPlain_named {name : Text} (h : Label.isName name = true) :
    isAllPlain (name ++ ['=']) = true :=
  isAllPlain_append (isAllPlain_of_isName h) (by decide)

/-! ### Chunks on their own -/

/-- A text that is a single chunk and leaves the mark `quote` open. -/
def IsChunk (t : Text) (quote : Option Char) : Prop :=
  scan none [] t = ([t], quote)

/-- Texts that are single chunks; the last one leaves the mark `quote` open, the others none. -/
def AreChunks : List Text → Option Char → Prop
  | [], quote => quote = none
  | [t], quote => IsChunk t quote
  | t :: u :: ts, quote => IsChunk t none ∧ AreChunks (u :: ts) quote

/-- A scan with a single chunk has taken the whole text. -/
theorem isChunk_of_scan {t c : Text} {q : Option Char} (h : scan none [] t = ([c], q)) :
    IsChunk t q := by
  have hjoin := intercalate_scan none [] t
  rw [h, List.intercalate_singleton, List.nil_append] at hjoin
  rw [IsChunk, h, hjoin]

/-- The chunks of a scan are chunks on their own. -/
theorem areChunks_scan (t : Text) : AreChunks (scan none [] t).1 (scan none [] t).2 := by
  suffices h : ∀ cs t q, scan none [] t = (cs, q) → AreChunks cs q from h _ t _ rfl
  intro cs
  induction cs with
  | nil =>
    intro t q h
    have hne := scan_ne_nil none [] t
    rw [h] at hne
    exact absurd rfl hne
  | cons c cs ih =>
    intro t q h
    cases cs with
    | nil =>
      have hc := isChunk_of_scan h
      have hjoin := intercalate_scan none [] t
      rw [h, List.intercalate_singleton, List.nil_append] at hjoin
      rw [AreChunks, hjoin]
      exact hc
    | cons d cs =>
      obtain ⟨x, r, -, rfl, hx, hr⟩ := exists_of_scan_cons_cons h
      exact ⟨hx, ih r q hr⟩

/-- Texts are chunks together when each is one on its own and all but the last leave no mark open. -/
theorem exists_areChunks_iff {ts : List Text} :
    (∃ quote, AreChunks ts quote) ↔
      ∀ pre t post, ts = pre ++ t :: post → ∃ quote, IsChunk t quote ∧ (post ≠ [] → quote = none) := by
  induction ts with
  | nil =>
    refine ⟨fun _ pre t post h => ?_, fun _ => ⟨none, rfl⟩⟩
    exact absurd h.symm (List.append_ne_nil_of_right_ne_nil pre (List.cons_ne_nil t post))
  | cons t ts ih =>
    constructor
    -- only the last text may leave a mark open
    · rintro ⟨quote, h⟩ pre u post hts
      cases ts with
      | nil =>
        obtain ⟨rfl, hu⟩ := List.append_eq_singleton_iff.1 hts.symm |>.resolve_right (by simp)
        cases hu
        exact ⟨quote, h, fun hpost => absurd rfl hpost⟩
      | cons v ts =>
        obtain ⟨ht, hrest⟩ := h
        cases pre with
        | nil =>
          cases hts
          exact ⟨none, ht, fun _ => rfl⟩
        | cons w pre => exact ih.1 ⟨quote, hrest⟩ pre u post (List.cons.inj hts).2
    · intro h
      obtain ⟨quote, ht, hlast⟩ := h [] t ts rfl
      cases ts with
      | nil => exact ⟨quote, ht⟩
      | cons v ts =>
        obtain ⟨q, hrest⟩ := ih.2 fun pre u post hts => h (t :: pre) u post (by rw [hts]; rfl)
        rw [hlast (List.cons_ne_nil v ts)] at ht
        exact ⟨q, ht, hrest⟩

/-- Plain characters at the end of a text leave its chunks where they are. -/
theorem isChunk_append_iff {e : Text} (he : isAllPlain e = true) (t : Text)
    (quote : Option Char) : IsChunk (t ++ e) quote ↔ IsChunk t quote := by
  cases e with
  | nil => rw [List.append_nil]
  | cons c e =>
    obtain ⟨cs, l, q, hscan, hm, happend⟩ := exists_scan_append isMark_none [] t
    have htail : isAllPlain e = true :=
      List.all_eq_true.2 fun d hd => isPlain_of_mem he (List.mem_cons_of_mem c hd)
    -- whatever mark is open, the characters behind the first one only make the last chunk longer
    have hrest := scan_plain hm (l ++ [c]) htail []
    rw [List.append_nil, scan_nil] at hrest
    have hlong := happend c e (isPlain_of_mem he List.mem_cons_self)
    rw [hrest] at hlong
    constructor
    · intro h
      rw [IsChunk, hlong] at h
      obtain ⟨hlist, hq⟩ := Prod.mk.inj h
      have hcs : cs = [] := by
        have hlen := congrArg List.length hlist
        simpa using hlen
      rw [hcs] at hscan
      exact isChunk_of_scan (by rw [hscan]; exact Prod.ext rfl hq)
    · intro h
      rw [IsChunk, hscan] at h
      obtain ⟨hlist, hq⟩ := Prod.mk.inj h
      have hcs : cs = [] := by
        have hlen := congrArg List.length hlist
        simpa using hlen
      rw [hcs] at hlong
      exact isChunk_of_scan (by rw [hlong]; exact Prod.ext rfl hq)

/-- What stands around a chunk may be replaced by other plain characters, as long as the look back answers as before
all along. -/
theorem IsChunk.swap {p r e f body : Text} {quote : Option Char}
    (h : IsChunk (p ++ (body ++ e)) quote)
    (hp : isAllPlain p = true) (hr : isAllPlain r = true)
    (he : isAllPlain e = true) (hf : isAllPlain f = true)
    (hbody : ∀ x, x <+: body → isTextBody (p ++ x) = isTextBody (r ++ x)) :
    IsChunk (r ++ (body ++ f)) quote := by
  rw [← List.append_assoc, isChunk_append_iff he, IsChunk, scan_plain isMark_none [] hp,
    List.nil_append] at h
  rw [← List.append_assoc, isChunk_append_iff hf]
  -- both scans come to the body without a mark, and see it alike
  obtain ⟨x, cs, q, hx, hx'⟩ := exists_scan_congr none p r body hbody
  rw [hx] at h
  obtain ⟨hlist, hq⟩ := Prod.mk.inj h
  rw [(List.cons.inj hlist).2] at hx'
  refine isChunk_of_scan (c := r ++ x) ?_
  rw [scan_plain isMark_none [] hr, List.nil_append, hx', hq]

/-! ### Labels -/

/-- The labels of a selector. -/
def labels (selector : Text) : List Label :=
  (chunks selector).map Label.ofChunk

theorem labels_eq_scan (t : Text) : labels t = (scan none [] t).1.map Label.ofChunk := by
  rw [labels, chunks_eq_scan]

theorem labels_of_isChunk {t : Text} {q : Option Char} (h : IsChunk t q) :
    labels t = [Label.ofChunk t] := by
  rw [labels_eq_scan, h]
  rfl

/-- Leading blanks belong to the first chunk and change nothing else. -/
theorem exists_scan_blank_append {b : Text} (hb : Text.isAllBlank b = true) (t : Text) :
    ∃ x cs q, scan none [] (b ++ t) = ((b ++ x) :: cs, q) ∧ scan none [] t = (x :: cs, q) := by
  obtain ⟨x, cs, q, hblank, hnil⟩ := exists_scan_congr none b [] t fun x _ =>
    Label.isTextBody_blank_append hb x
  refine ⟨x, cs, q, ?_, hnil⟩
  rw [scan_plain isMark_none [] (isAllPlain_of_isAllBlank hb), List.nil_append, hblank]

theorem labels_blank_append {b : Text} (hb : Text.isAllBlank b = true) (t : Text) :
    labels (b ++ t) = labels t := by
  obtain ⟨x, cs, q, hblank, ht⟩ := exists_scan_blank_append hb t
  rw [labels_eq_scan, labels_eq_scan, hblank, ht, List.map_cons, List.map_cons,
    Label.ofChunk_append_left hb]

/-- **The labels of two selectors put together.** The scan of the first one has to end outside quotation marks; a
backslash at its end does no harm, since what it escapes then is the blank before the separator. -/
theorem labels_append {a : Text} (h : (scan none [] a).2 = none) (r : Text) :
    labels (a ++ (separator ++ r)) = labels a ++ labels r := by
  obtain ⟨cs, l, q, hscan, -, happend⟩ := exists_scan_append isMark_none [] a
  rw [hscan] at h
  subst h
  have hl := Label.ofChunk_append_right (e := [' ']) (by decide) l
  have hr := labels_blank_append (b := [' ']) (by decide) r
  rw [labels_eq_scan, List.singleton_append] at hr
  rw [labels_eq_scan, labels_eq_scan a, separator_append, happend ' ' _ (by decide),
    scan_separator, hscan]
  simp only [List.map_append, List.map_cons, List.map_nil, hl, hr, List.append_assoc,
    List.cons_append, List.nil_append]

/-- The labels of chunks put together. -/
theorem labels_intercalate {ts : List Text} {q : Option Char} (hne : ts ≠ [])
    (h : AreChunks ts q) : labels (separator.intercalate ts) = ts.map Label.ofChunk := by
  induction ts with
  | nil => exact absurd rfl hne
  | cons t ts ih =>
    cases ts with
    | nil =>
      rw [List.intercalate_singleton]
      exact labels_of_isChunk h
    | cons u ts =>
      obtain ⟨ht, hrest⟩ := h
      have hclosed : (scan none [] t).2 = none := by rw [ht]
      rw [List.intercalate_cons_of_ne_nil (List.cons_ne_nil u ts), List.append_assoc,
        labels_append hclosed, labels_of_isChunk ht, ih (List.cons_ne_nil u ts) hrest]
      rfl

/-! ### Finding the seam again -/

/-- A separator inside a chunk adds to its count of `>`, and so does one that the chunk has run over. A first chunk
with as many of them as the first text therefore is the first text, with the blank before the separator. -/
theorem isChunk_of_count_eq {t r c : Text} {cs : List Text}
    (h : (scan none [] (t ++ (separator ++ r))).1 = c :: cs)
    (hcount : c.count '>' = t.count '>') :
    IsChunk t none ∧ c = t ++ [' '] ∧ cs = (scan none [] (' ' :: r)).1 := by
  obtain ⟨init, l, q, hscan, -, happend⟩ := exists_scan_append isMark_none [] t
  have hjoin := intercalate_scan none [] t
  rw [hscan, List.nil_append] at hjoin
  rw [separator_append, happend ' ' _ (by decide)] at h
  cases init with
  | cons d init =>
    -- the text is split before its end
    have hd : d = c := (List.cons.inj h).1
    rw [List.cons_append, List.intercalate_cons_of_ne_nil (by simp), hd] at hjoin
    have htotal := congrArg (List.count '>') hjoin
    have hsep : List.count '>' ">>".toList = 2 := by decide
    rw [List.count_append, List.count_append, hsep] at htotal
    omega
  | nil =>
    have hlast : l = t := by
      rw [← hjoin, List.nil_append, List.intercalate_singleton]
    subst hlast
    by_cases hq : q = none
    · subst hq
      rw [scan_separator] at h
      obtain ⟨hc, hcs⟩ := List.cons.inj h
      exact ⟨hscan, hc.symm, hcs.symm⟩
    · -- the chunk runs over the separator
      obtain ⟨x, ds, p, hover, -⟩ := exists_scan_congr q (l ++ [' '] ++ ['>', '>'])
        (l ++ [' '] ++ ['>', '>']) (' ' :: r) fun _ _ => rfl
      rw [scan_quotedSeparator hq, hover] at h
      have hc := congrArg (List.count '>') (List.cons.inj h).1
      have hsep : List.count '>' [' '] = 0 := by decide
      have hmarks : List.count '>' ['>', '>'] = 2 := by decide
      rw [List.count_append, List.count_append, List.count_append, hsep, hmarks] at hc
      omega

end SelectorCode
