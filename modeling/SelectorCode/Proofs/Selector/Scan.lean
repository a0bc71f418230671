import SelectorCode.Proofs.Text.Trim
import SelectorCode.Selector.Split

/-!
# Scanning a selector

The scan that splits a selector has three inputs: the mark that is open, the chunk read so far, and the rest of the
text. It looks back at the chunk only to ask whether a quotation mark is ordinary text there. What follows says how
the scan behaves when texts are put together, which is what every statement about joined selectors rests on.

## Main Definitions

* `isPlain`, `isAllPlain`: what the scan passes over in every state.
* `IsMark`: the states of the scan.
* `markAfter`: the mark that is open after a character that stands for itself.

## Main Statements

* `scan_rec`: the induction that follows the steps of the scan.
* `intercalate_scan`: the chunks with the separators between them are the text.
* `exists_scan_append`: how the scan goes on behind a text, after a plain character.
* `exists_scan_congr`: the scan depends on the chunk read so far only through the look back.
* `exists_of_scan_cons_cons`: a chunk that has been split off ends outside quotation marks.
-/

namespace SelectorCode

/-! ### Single steps -/

/-- The characters that neither escape, nor separate, nor quote. -/
def isPlain (c : Char) : Bool :=
  c ≠ '\\' && c ≠ '>' && !isOpeningQuote c

/-- Whether a text consists of plain characters. -/
def isAllPlain (t : Text) : Bool :=
  t.all isPlain

/-- A state of the scan: no mark is open, or one of the quotation marks is. -/
def IsMark (quote : Option Char) : Prop :=
  ∀ m, quote = some m → isOpeningQuote m = true

/-- The mark that is open after a character that stands for itself. -/
def markAfter (quote : Option Char) (chunk : Text) (c : Char) : Option Char :=
  if quote = some c then none
  else if quote = none && isOpeningQuote c && !isTextBody chunk then some c
  else quote

theorem isMark_none : IsMark none := by
  intro m h
  cases h

theorem isMark_markAfter {quote : Option Char} (hq : IsMark quote) (chunk : Text) (c : Char) :
    IsMark (markAfter quote chunk c) := by
  intro m h
  unfold markAfter at h
  split at h
  · cases h
  · split at h
    next hopen =>
      cases h
      simp only [Bool.and_eq_true] at hopen
      exact hopen.1.2
    next => exact hq m h

/-- A character that is no quotation mark leaves the marks alone. -/
theorem markAfter_eq_self {quote : Option Char} (hq : IsMark quote) (chunk : Text) {c : Char}
    (hc : isOpeningQuote c = false) : markAfter quote chunk c = quote := by
  have hne : quote ≠ some c := by
    intro h
    rw [hq c h] at hc
    exact Bool.noConfusion hc
  simp [markAfter, hne, hc]

theorem isPlain_of_mem {t : Text} (ht : isAllPlain t = true) {c : Char} (hc : c ∈ t) :
    isPlain c = true :=
  List.all_eq_true.1 ht c hc

theorem isAllPlain_append {a b : Text} (ha : isAllPlain a = true) (hb : isAllPlain b = true) :
    isAllPlain (a ++ b) = true := by
  unfold isAllPlain at ha hb ⊢
  rw [List.all_append, ha, hb]
  rfl

/-- The characters of a class without a backslash, without `>` and without marks are plain. -/
theorem isPlain_of_class {p : Char → Bool}
    (hp : List.all ['\\', '>', '"', '\x27', '\x60'] (fun d => !p d) = true) {c : Char}
    (hc : p c = true) : isPlain c = true := by
  have hne : ∀ d ∈ ['\\', '>', '"', '\x27', '\x60'], c ≠ d := by
    rintro d hd rfl
    have hd := List.all_eq_true.1 hp c hd
    rw [hc] at hd
    exact Bool.noConfusion hd
  simp [isPlain, isOpeningQuote, hne '\\' (by simp), hne '>' (by simp), hne '"' (by simp),
    hne '\x27' (by simp), hne '\x60' (by simp)]

theorem isOpeningQuote_of_isPlain {c : Char} (hc : isPlain c = true) : isOpeningQuote c = false := by
  simp only [isPlain, Bool.and_eq_true, Bool.not_eq_true'] at hc
  exact hc.2

theorem ne_of_isPlain {c : Char} (hc : isPlain c = true) : c ≠ '\\' ∧ c ≠ '>' := by
  simp only [isPlain, Bool.and_eq_true, decide_eq_true_eq] at hc
  exact hc.1

theorem scan_nil (quote : Option Char) (chunk : Text) : scan quote chunk [] = ([chunk], quote) := by
  rw [scan]

theorem scan_escape (quote : Option Char) (chunk : Text) (c : Char) (r : Text) :
    scan quote chunk ('\\' :: c :: r) = scan quote (chunk ++ ['\\', c]) r := by
  rw [scan]

theorem scan_separator (chunk r : Text) :
    scan none chunk ('>' :: '>' :: r) = (chunk :: (scan none [] r).1, (scan none [] r).2) := by
  rw [scan]
  rfl

theorem scan_quotedSeparator {quote : Option Char} (hq : quote ≠ none) (chunk r : Text) :
    scan quote chunk ('>' :: '>' :: r) = scan quote (chunk ++ ['>', '>']) r := by
  rw [scan, if_neg hq]

/-- A character that begins neither an escape nor a separator stands for itself. -/
theorem scan_char {c : Char} {r : Text} (hescape : c = '\\' → r = [])
    (hseparator : c = '>' → ∀ s, r ≠ '>' :: s) (quote : Option Char) (chunk : Text) :
    scan quote chunk (c :: r) = scan (markAfter quote chunk c) (chunk ++ [c]) r := by
  rw [scan]
  · unfold markAfter
    split
    · rfl
    · split <;> rfl
  · intro d s hc hr
    rw [hescape hc] at hr
    cases hr
  · intro s hc hr
    exact hseparator hc s hr

/-- The steps of the scan as an induction: the end, an escaped character, a separator, a separator inside quotation
marks, and a character that stands for itself. -/
theorem scan_rec {motive : Option Char → Text → Text → Prop}
    (nil : ∀ quote chunk, motive quote chunk [])
    (escape : ∀ quote chunk c r, motive quote (chunk ++ ['\\', c]) r →
      motive quote chunk ('\\' :: c :: r))
    (separator : ∀ chunk r, motive none [] r → motive none chunk ('>' :: '>' :: r))
    (quotedSeparator : ∀ quote chunk r, quote ≠ none → motive quote (chunk ++ ['>', '>']) r →
      motive quote chunk ('>' :: '>' :: r))
    (char : ∀ quote chunk c r, (c = '\\' → r = []) → (c = '>' → ∀ s, r ≠ '>' :: s) →
      motive (markAfter quote chunk c) (chunk ++ [c]) r → motive quote chunk (c :: r))
    (quote : Option Char) (chunk t : Text) : motive quote chunk t := by
  -- the recursion says what a single character is not; the step of a character says so in two facts
  have hchar : ∀ {quote chunk c r}, (∀ d s, c = '\\' → r = d :: s → False) →
      (∀ s, c = '>' → r = '>' :: s → False) →
      motive (markAfter quote chunk c) (chunk ++ [c]) r → motive quote chunk (c :: r) := by
    intro quote chunk c r hescape hseparator
    refine char quote chunk c r (fun hc => ?_) fun hc s hr => hseparator s hc hr
    cases r with
    | nil => rfl
    | cons d s => exact (hescape d s hc rfl).elim
  fun_induction scan quote chunk t with
  | case1 quote chunk => exact nil quote chunk
  | case2 quote chunk c r ih => exact escape quote chunk c r ih
  | case3 chunk r _ _ _ ih => exact separator chunk r ih
  | case4 quote chunk r hq ih => exact quotedSeparator quote chunk r hq ih
  | case5 chunk c r hescape hseparator ih =>
    refine hchar hescape hseparator ?_
    rwa [markAfter, if_pos rfl]
  | case6 quote chunk c r hescape hseparator hne hopen ih =>
    refine hchar hescape hseparator ?_
    rwa [markAfter, if_neg hne, if_pos hopen]
  | case7 quote chunk c r hescape hseparator hne hopen ih =>
    refine hchar hescape hseparator ?_
    rwa [markAfter, if_neg hne, if_neg hopen]

/-- The scan passes over plain characters. -/
theorem scan_plain {quote : Option Char} (hq : IsMark quote) (chunk : Text) {p : Text}
    (hp : isAllPlain p = true) (r : Text) :
    scan quote chunk (p ++ r) = scan quote (chunk ++ p) r := by
  induction p generalizing chunk with
  | nil => rw [List.nil_append, List.append_nil]
  | cons c p ih =>
    have hc := isPlain_of_mem hp List.mem_cons_self
    have htail : isAllPlain p = true :=
      List.all_eq_true.2 fun d hd => isPlain_of_mem hp (List.mem_cons_of_mem c hd)
    obtain ⟨hescape, hseparator⟩ := ne_of_isPlain hc
    rw [List.cons_append, scan_char (fun h => absurd h hescape) (fun h => absurd h hseparator),
      markAfter_eq_self hq chunk (isOpeningQuote_of_isPlain hc),
      ih (chunk ++ [c]) htail, List.append_assoc]
    rfl

/-! ### Nothing is lost -/

theorem scan_ne_nil (quote : Option Char) (chunk t : Text) : (scan quote chunk t).1 ≠ [] := by
  induction quote, chunk, t using scan_rec with
  | nil quote chunk => simp [scan_nil]
  | escape quote chunk c r ih => rwa [scan_escape]
  | separator chunk r ih => simp [scan_separator]
  | quotedSeparator quote chunk r hq ih => rwa [scan_quotedSeparator hq]
  | char quote chunk c r hescape hseparator ih => rwa [scan_char hescape hseparator]

/-- The chunks of a scan with the separators between them are the text. -/
theorem intercalate_scan (quote : Option Char) (chunk t : Text) :
    List.intercalate ">>".toList (scan quote chunk t).1 = chunk ++ t := by
  induction quote, chunk, t using scan_rec with
  | nil quote chunk => rw [scan_nil, List.intercalate_singleton, List.append_nil]
  | escape quote chunk c r ih =>
    rw [scan_escape, ih, List.append_assoc]
    rfl
  | separator chunk r ih =>
    rw [scan_separator, List.intercalate_cons_of_ne_nil (scan_ne_nil none [] r), ih]
    simp
  | quotedSeparator quote chunk r hq ih =>
    rw [scan_quotedSeparator hq, ih, List.append_assoc]
    rfl
  | char quote chunk c r hescape hseparator ih =>
    rw [scan_char hescape hseparator, ih, List.append_assoc]
    rfl

/-! ### Texts put together -/

/-- The scan of a text goes on behind it with what the text has left: after a plain character, which a backslash at
the end of the text may escape, the rest is read with the last chunk and the mark that is open. -/
theorem exists_scan_append {quote : Option Char} (hq : IsMark quote) (chunk t : Text) :
    ∃ cs l q, scan quote chunk t = (cs ++ [l], q) ∧ IsMark q ∧
      ∀ c r, isPlain c = true → scan quote chunk (t ++ c :: r) =
        (cs ++ (scan q (l ++ [c]) r).1, (scan q (l ++ [c]) r).2) := by
  induction quote, chunk, t using scan_rec with
  | nil quote chunk =>
    refine ⟨[], chunk, quote, scan_nil quote chunk, hq, fun c r hc => ?_⟩
    exact scan_plain hq chunk (p := [c]) (by simpa [isAllPlain] using hc) r
  | escape quote chunk c r ih =>
    obtain ⟨cs, l, q, h, hm, happend⟩ := ih hq
    refine ⟨cs, l, q, by rw [scan_escape, h], hm, fun d s hd => ?_⟩
    rw [List.cons_append, List.cons_append, scan_escape, happend d s hd]
  | separator chunk r ih =>
    obtain ⟨cs, l, q, h, hm, happend⟩ := ih isMark_none
    refine ⟨chunk :: cs, l, q, by rw [scan_separator, h]; rfl, hm, fun d s hd => ?_⟩
    rw [List.cons_append, List.cons_append, scan_separator, happend d s hd]
    rfl
  | quotedSeparator quote chunk r hne ih =>
    obtain ⟨cs, l, q, h, hm, happend⟩ := ih hq
    refine ⟨cs, l, q, by rw [scan_quotedSeparator hne, h], hm, fun d s hd => ?_⟩
    rw [List.cons_append, List.cons_append, scan_quotedSeparator hne, happend d s hd]
  | char quote chunk c r hescape hseparator ih =>
    by_cases hc : c = '\\'
    · -- a backslash at the very end stands for itself, but escapes what comes behind the text
      rw [hescape hc, hc]
      have hmark := markAfter_eq_self hq chunk (c := '\\') rfl
      refine ⟨[], chunk ++ ['\\'], quote, ?_, hq, fun d s _ => ?_⟩
      · rw [scan_char (fun _ => rfl) (fun h => absurd h (by decide)), hmark, scan_nil]
        rfl
      · rw [List.cons_append, List.nil_append, scan_escape, List.append_assoc]
        rfl
    · obtain ⟨cs, l, q, h, hm, happend⟩ := ih (isMark_markAfter hq chunk c)
      refine ⟨cs, l, q, by rw [scan_char hescape hseparator, h], hm, fun d s hd => ?_⟩
      rw [List.cons_append, scan_char (fun h => absurd h hc) ?_, happend d s hd]
      intro hgt u hu
      cases r with
      | nil =>
        rw [List.nil_append] at hu
        exact (ne_of_isPlain hd).2 (List.cons.inj hu).1
      | cons e r => exact hseparator hgt r (congrArg (· :: r) (List.cons.inj hu).1)

/-- The scan looks at the chunk read so far only to ask whether quotation marks are ordinary text in it. -/
theorem exists_scan_congr (quote : Option Char) (a b t : Text)
    (h : ∀ x, x <+: t → isTextBody (a ++ x) = isTextBody (b ++ x)) :
    ∃ x cs q, scan quote a t = ((a ++ x) :: cs, q) ∧ scan quote b t = ((b ++ x) :: cs, q) := by
  induction quote, a, t using scan_rec generalizing b with
  | nil quote a => exact ⟨[], [], quote, by simp [scan_nil], by simp [scan_nil]⟩
  | escape quote a c r ih =>
    obtain ⟨x, cs, q, ha, hb⟩ := ih (b ++ ['\\', c]) fun x hx => by
      simpa using h ('\\' :: c :: x) (by simpa using hx)
    refine ⟨'\\' :: c :: x, cs, q, ?_, ?_⟩
    · rw [scan_escape, ha, List.append_assoc]
      rfl
    · rw [scan_escape, hb, List.append_assoc]
      rfl
  | separator a r _ =>
    refine ⟨[], (scan none [] r).1, (scan none [] r).2, ?_, ?_⟩
    · rw [scan_separator, List.append_nil]
    · rw [scan_separator, List.append_nil]
  | quotedSeparator quote a r hne ih =>
    obtain ⟨x, cs, q, ha, hb⟩ := ih (b ++ ['>', '>']) fun x hx => by
      simpa using h ('>' :: '>' :: x) (by simpa using hx)
    refine ⟨'>' :: '>' :: x, cs, q, ?_, ?_⟩
    · rw [scan_quotedSeparator hne, ha, List.append_assoc]
      rfl
    · rw [scan_quotedSeparator hne, hb, List.append_assoc]
      rfl
  | char quote a c r hescape hseparator ih =>
    obtain ⟨x, cs, q, ha, hb⟩ := ih (b ++ [c]) fun x hx => by
      simpa using h (c :: x) (by simpa using hx)
    -- whether a mark opens here is decided by looking back at what both chunks have in common
    have hmark : markAfter quote b c = markAfter quote a c := by
      have hnil := h [] List.nil_prefix
      rw [List.append_nil, List.append_nil] at hnil
      rw [markAfter, markAfter, hnil]
    refine ⟨c :: x, cs, q, ?_, ?_⟩
    · rw [scan_char hescape hseparator, ha, List.append_assoc]
      rfl
    · rw [scan_char hescape hseparator, hmark, hb, List.append_assoc]
      rfl

/-- A chunk that has been split off ends outside quotation marks, and the scan starts anew behind the separator. -/
theorem exists_of_scan_cons_cons {quote q : Option Char} {chunk t c d : Text} {cs : List Text}
    (h : scan quote chunk t = (c :: d :: cs, q)) :
    ∃ x r, t = x ++ '>' :: '>' :: r ∧ c = chunk ++ x ∧
      scan quote chunk x = ([chunk ++ x], none) ∧ scan none [] r = (d :: cs, q) := by
  induction quote, chunk, t using scan_rec with
  | nil quote chunk =>
    rw [scan_nil] at h
    cases h
  | escape quote chunk e r ih =>
    rw [scan_escape] at h
    obtain ⟨x, s, rfl, hc, hx, hs⟩ := ih h
    refine ⟨'\\' :: e :: x, s, rfl, ?_, ?_, hs⟩
    · rw [hc, List.append_assoc]
      rfl
    · rw [scan_escape, hx, List.append_assoc]
      rfl
  | separator chunk r _ =>
    rw [scan_separator] at h
    obtain ⟨hlist, hq⟩ := Prod.mk.inj h
    obtain ⟨hc, hr⟩ := List.cons.inj hlist
    exact ⟨[], r, rfl, by rw [List.append_nil, hc], by rw [scan_nil, List.append_nil],
      Prod.ext hr hq⟩
  | quotedSeparator quote chunk r hne ih =>
    rw [scan_quotedSeparator hne] at h
    obtain ⟨x, s, rfl, hc, hx, hs⟩ := ih h
    refine ⟨'>' :: '>' :: x, s, rfl, ?_, ?_, hs⟩
    · rw [hc, List.append_assoc]
      rfl
    · rw [scan_quotedSeparator hne, hx, List.append_assoc]
      rfl
  | char quote chunk e r hescape hseparator ih =>
    rw [scan_char hescape hseparator] at h
    obtain ⟨x, s, rfl, hc, hx, hs⟩ := ih h
    refine ⟨e :: x, s, rfl, ?_, ?_, hs⟩
    · rw [hc, List.append_assoc]
      rfl
    · -- the character stands for itself before the rest of the chunk as before the rest of the text
      rw [scan_char ?_ ?_, hx, List.append_assoc]
      · rfl
      · intro he
        cases x with
        | nil => rfl
        | cons f x => cases hescape he
      · intro he u hu
        rw [hu] at hseparator
        exact hseparator he _ rfl

end SelectorCode
