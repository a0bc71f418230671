import Mathlib.Data.List.Infix
import Mathlib.Logic.Function.Iterate
import SelectorCode.Proofs.Selector.Chunks

/-!
# The split of a selector

A selector is split at the separators that are neither escaped nor quoted, from left to right: of `>>>` the first two
characters separate. This determines the chunks. They can be found by a loop that holds the place where the chunk at hand
begins and the place that is read next; the chunks that it has handed out, with the separators behind them, are always
the text up to where the chunk at hand begins. A selector in which no separator occurs comes out whole, so that it may as
well be taken without a look at it.

## Main Definitions

* `markBehind`: the quotation mark that is open behind a text.
* `HasBareSeparator`: the texts with a separator that is neither escaped nor quoted.
* `IsSplit`: the lists of chunks that a text is split into.
* `SplitLoop`, `SplitLoop.next`, `SplitLoop.run`: the loop, one round of it, and all of it.
* `SplitLoop.IsAt`: what the loop has handed out, the chunk at hand, and the rest of the text.

## Main Statements

* `isSplit_iff`: the scan finds the split of a text, and there is no other.
* `SplitLoop.next_escape`, `SplitLoop.next_separator`, `SplitLoop.next_char`: the rounds of the loop.
* `SplitLoop.IsAt.next`, `SplitLoop.IsAt.run`: what one round keeps, and what the loop ends with.
* `SplitLoop.isSplit_run`: the loop loses nothing, stops at every separator, and agrees with the shortcut.
-/

namespace SelectorCode

variable {quote q : Option Char} {chunk t x r : Text} {c : Char} {cs : List Text}

/-! ### Separators -/

/-- The quotation mark that is open behind a text, which is read after `chunk` with the mark `quote` open. A text that
breaks off an escape has nothing behind it. -/
def markBehind (quote : Option Char) (chunk : Text) : Text → Option (Option Char)
  | [] => some quote
  | ['\\'] => none
  | '\\' :: c :: r => markBehind quote (chunk ++ ['\\', c]) r
  | c :: r => markBehind (markAfter quote chunk c) (chunk ++ [c]) r

/-- The texts with a separator that is neither escaped nor quoted. -/
def HasBareSeparator (t : Text) : Prop :=
  ∃ x r, t = x ++ '>' :: '>' :: r ∧ markBehind none [] x = some none

/-- The lists of chunks that a text is split into. A chunk in front of others ends outside quotation marks and escapes,
and the separator behind it is the first one. -/
inductive IsSplit : List Text → Text → Prop
  | last {t : Text} (whole : ¬ HasBareSeparator t) : IsSplit [t] t
  | cons {c r : Text} {cs : List Text} (closed : markBehind none [] c = some none)
      (first : ¬ HasBareSeparator (c ++ ['>'])) (rest : IsSplit cs r) :
      IsSplit (c :: cs) (c ++ '>' :: '>' :: r)

theorem markBehind_escape (quote : Option Char) (chunk : Text) (c : Char) (r : Text) :
    markBehind quote chunk ('\\' :: c :: r) = markBehind quote (chunk ++ ['\\', c]) r := by
  rw [markBehind]

theorem markBehind_char (hc : c ≠ '\\') (quote : Option Char) (chunk r : Text) :
    markBehind quote chunk (c :: r) = markBehind (markAfter quote chunk c) (chunk ++ [c]) r := by
  rw [markBehind]
  · exact fun h _ => hc h
  · exact fun _ _ h _ => hc h

/-- A character is no backslash if it neither ends the text as one nor begins an escape. -/
theorem ne_backslash (hlast : c = '\\' → r = [] → False)
    (hpair : ∀ d s, c = '\\' → r = d :: s → False) : c ≠ '\\' := by
  intro hc
  cases r with
  | nil => exact hlast hc rfl
  | cons d s => exact hpair d s hc rfl

/-- A text has nothing behind it only if a backslash ends it. -/
theorem exists_of_markBehind_eq_none (h : markBehind quote chunk t = none) :
    ∃ x q, t = x ++ ['\\'] ∧ markBehind quote chunk x = some q := by
  fun_induction markBehind quote chunk t with
  | case1 => cases h
  | case2 quote chunk => exact ⟨[], quote, rfl, rfl⟩
  | case3 quote chunk c r ih =>
    obtain ⟨x, q, rfl, hx⟩ := ih h
    exact ⟨'\\' :: c :: x, q, rfl, by rw [markBehind_escape, hx]⟩
  | case4 quote chunk c r hlast hpair ih =>
    have hc := ne_backslash hlast hpair
    obtain ⟨x, q, rfl, hx⟩ := ih h
    exact ⟨c :: x, q, rfl, by rw [markBehind_char hc, hx]⟩

/-! ### Scanning up to a separator -/

/-- A `>` inside quotation marks stands for itself. -/
theorem scan_quoted (hq : quote ≠ none) (hm : IsMark quote) (chunk r : Text) :
    scan quote chunk ('>' :: r) = scan quote (chunk ++ ['>']) r := by
  have hmark : ∀ chunk, markAfter quote chunk '>' = quote := fun chunk =>
    markAfter_eq_self hm chunk (by decide)
  induction r generalizing chunk with
  | nil => rw [scan_char (fun h => absurd h (by decide)) (fun _ s hs => by cases hs), hmark]
  | cons c r ih =>
    by_cases hc : c = '>'
    · rw [hc, scan_quotedSeparator hq, ih, List.append_assoc]
      rfl
    · rw [scan_char (fun h => absurd h (by decide)) (fun _ s hs => hc (List.cons.inj hs).1), hmark]

/-- A character stands for itself unless it begins an escape, or a separator outside quotation marks. -/
theorem scan_step (hm : IsMark quote) (hescape : c = '\\' → r = [])
    (hseparator : quote = none → c = '>' → ∀ s, r ≠ '>' :: s) (chunk : Text) :
    scan quote chunk (c :: r) = scan (markAfter quote chunk c) (chunk ++ [c]) r := by
  by_cases hquoted : c = '>' ∧ quote ≠ none
  · obtain ⟨rfl, hq⟩ := hquoted
    rw [scan_quoted hq hm, markAfter_eq_self hm chunk (by decide)]
  · refine scan_char hescape (fun hc s => hseparator ?_ hc s) quote chunk
    by_contra hq
    exact hquoted ⟨hc, hq⟩

/-- The scan passes over a text in which no bare separator begins, if there is something behind the text. -/
theorem scan_append_of_markBehind (hm : IsMark quote) (hx : markBehind quote chunk x = some q)
    (hbare : ∀ y s, x ++ r = y ++ '>' :: '>' :: s → y.length < x.length →
      markBehind quote chunk y ≠ some none) :
    scan quote chunk (x ++ r) = scan q (chunk ++ x) r := by
  fun_induction markBehind quote chunk x with
  | case1 quote chunk =>
    cases hx
    rw [List.nil_append, List.append_nil]
  | case2 => cases hx
  | case3 quote chunk c x ih =>
    have hrest := ih hm hx fun y s hy hlength => by
      have hy := hbare ('\\' :: c :: y) s (congrArg ('\\' :: c :: ·) hy) (by simpa using hlength)
      rwa [markBehind_escape] at hy
    rw [List.cons_append, List.cons_append, scan_escape, hrest, List.append_assoc]
    rfl
  | case4 quote chunk c x hlast hpair ih =>
    have hc := ne_backslash hlast hpair
    have hrest := ih (isMark_markAfter hm chunk c) hx fun y s hy hlength => by
      have hy := hbare (c :: y) s (congrArg (c :: ·) hy) (by simpa using hlength)
      rwa [markBehind_char hc] at hy
    have hseparator : quote = none → c = '>' → ∀ s, x ++ r ≠ '>' :: s := by
      rintro rfl rfl s hs
      exact hbare [] s (congrArg ('>' :: ·) hs) (Nat.succ_pos _) rfl
    rw [List.cons_append, scan_step hm (fun h => absurd h hc) hseparator, hrest, List.append_assoc]
    rfl

/-- A text without bare separators is a single chunk. -/
theorem scan_of_not_hasBareSeparator (h : ¬ HasBareSeparator t) : (scan none [] t).1 = [t] := by
  have hbare : ∀ x r, t = x ++ r → ∀ y s, x ++ r = y ++ '>' :: '>' :: s → y.length < x.length →
      markBehind none [] y ≠ some none := by
    rintro x r rfl y s hy - hnone
    exact h ⟨y, s, hy, hnone⟩
  cases hbehind : markBehind none [] t with
  | some q =>
    have hscan := scan_append_of_markBehind isMark_none hbehind (hbare t [] (List.append_nil t).symm)
    rw [List.append_nil] at hscan
    rw [hscan, scan_nil]
    rfl
  | none =>
    -- the backslash at the end has nothing to escape
    obtain ⟨x, q, rfl, hx⟩ := exists_of_markBehind_eq_none hbehind
    rw [scan_append_of_markBehind isMark_none hx (hbare x ['\\'] rfl),
      scan_char (fun _ => rfl) (fun hc => absurd hc (by decide)), scan_nil]
    rfl

/-! ### The split -/

/-- **The scan finds the split.** -/
theorem scan_of_isSplit (h : IsSplit cs t) : (scan none [] t).1 = cs := by
  induction h with
  | last hwhole => exact scan_of_not_hasBareSeparator hwhole
  | @cons c r cs hclosed hfirst _ ih =>
    -- a separator that begins within the chunk ends at the latest with the first character behind it
    have hbare : ∀ y s, c ++ '>' :: '>' :: r = y ++ '>' :: '>' :: s → y.length < c.length →
        markBehind none [] y ≠ some none := by
      intro y s hy hlength hnone
      have hseparator : y ++ ['>', '>'] <+: c ++ '>' :: '>' :: r := ⟨s, by simp [hy]⟩
      have hchunk : c ++ ['>'] <+: c ++ '>' :: '>' :: r := ⟨'>' :: r, by simp⟩
      obtain ⟨u, hu⟩ := List.prefix_of_prefix_length_le hseparator hchunk
        (by simpa using Nat.succ_le_of_lt hlength)
      exact hfirst ⟨y, u, by simpa using hu.symm, hnone⟩
    rw [scan_append_of_markBehind isMark_none hclosed hbare, scan_separator, ih]
    rfl

/-- A text with bare separators has a first one. -/
theorem exists_first_of_hasBareSeparator (h : HasBareSeparator t) :
    ∃ x r, t = x ++ '>' :: '>' :: r ∧ markBehind none [] x = some none ∧
      ¬ HasBareSeparator (x ++ ['>']) := by
  obtain ⟨x, r, ht, hx⟩ := h
  induction hn : x.length using Nat.strong_induction_on generalizing x r with
  | _ n ih =>
    by_cases hfirst : HasBareSeparator (x ++ ['>'])
    · obtain ⟨y, s, hy, hmark⟩ := hfirst
      have hlengths := congrArg List.length hy
      simp only [List.length_append, List.length_cons, List.length_nil] at hlengths
      have ht' : t = y ++ '>' :: '>' :: (s ++ '>' :: r) := by
        calc t = x ++ ['>'] ++ '>' :: r := by simp [ht]
          _ = y ++ '>' :: '>' :: (s ++ '>' :: r) := by simp [hy]
      exact ih y.length (by omega) y (s ++ '>' :: r) ht' hmark rfl
    · exact ⟨x, r, ht, hx, hfirst⟩

theorem exists_isSplit (t : Text) : ∃ cs, IsSplit cs t := by
  by_cases h : HasBareSeparator t
  · obtain ⟨x, r, ht, hx, hfirst⟩ := exists_first_of_hasBareSeparator h
    have hlength : r.length < t.length := by
      rw [ht, List.length_append, List.length_cons, List.length_cons]
      omega
    obtain ⟨cs, hcs⟩ := exists_isSplit r
    exact ⟨x :: cs, ht ▸ .cons hx hfirst hcs⟩
  · exact ⟨[t], .last h⟩
termination_by t.length

/-- **A text is split in one way**, by the scan. -/
theorem isSplit_iff : IsSplit cs t ↔ cs = (scan none [] t).1 := by
  refine ⟨fun h => (scan_of_isSplit h).symm, ?_⟩
  rintro rfl
  obtain ⟨cs, hcs⟩ := exists_isSplit t
  rwa [scan_of_isSplit hcs]

/-- **No chunk has a bare separator in it.** -/
theorem IsSplit.not_hasBareSeparator (h : IsSplit cs t) {d : Text} (hd : d ∈ cs) :
    ¬ HasBareSeparator d := by
  induction h with
  | last hwhole => rwa [List.mem_singleton.1 hd]
  | cons _ hfirst _ ih =>
    rcases List.mem_cons.1 hd with rfl | hmem
    · rintro ⟨x, r, rfl, hx⟩
      exact hfirst ⟨x, r ++ ['>'], by simp, hx⟩
    · exact ih hmem

/-! ### The loop -/

/-- The loop on its way: where the chunk at hand begins, the place to be read next, the mark that is open, and the chunks
that have been handed out. -/
structure SplitLoop where
  start : Nat
  index : Nat
  quote : Option Char
  handed : List Text

/-- The part of a text between two places. -/
def Text.between (t : Text) (i j : Nat) : Text :=
  (t.take j).drop i

namespace SplitLoop

variable {s : SplitLoop}

/-- The loop before its first round. -/
def initial : SplitLoop :=
  ⟨0, 0, none, []⟩

/-- The chunk at hand, as far as it has been read. -/
def current (t : Text) (s : SplitLoop) : Text :=
  t.between s.start s.index

/-- One round of the loop. At the end of the text there is nothing to be done. -/
def next (t : Text) (s : SplitLoop) : SplitLoop :=
  match t[s.index]? with
  | none => s
  | some c =>
    if c = '\\' ∧ s.index + 1 < t.length then { s with index := s.index + 2 }
    else if s.quote = some c then { s with quote := none, index := s.index + 1 }
    else if s.quote = none && isOpeningQuote c && !isTextBody (s.current t) then
      { s with quote := some c, index := s.index + 1 }
    else if s.quote = none ∧ c = '>' ∧ t[s.index + 1]? = some '>' then
      ⟨s.index + 2, s.index + 2, none, s.handed ++ [s.current t]⟩
    else { s with index := s.index + 1 }

/-- A round reads an escape at once. -/
theorem next_escape (hc : t[s.index]? = some '\\') (hindex : s.index + 1 < t.length) :
    s.next t = { s with index := s.index + 2 } := by
  simp only [next, hc]
  exact if_pos ⟨trivial, hindex⟩

/-- A round reads a separator at once, which ends the chunk at hand. -/
theorem next_separator (hq : s.quote = none) (hc : t[s.index]? = some '>')
    (hd : t[s.index + 1]? = some '>') :
    s.next t = ⟨s.index + 2, s.index + 2, none, s.handed ++ [s.current t]⟩ := by
  have hescape : ¬ ('>' = '\\' ∧ s.index + 1 < t.length) := fun h => absurd h.1 (by decide)
  have hopens : isOpeningQuote '>' = false := by decide
  simp only [next, hc, hd, hq]
  rw [if_neg hescape]
  simp [hopens]

/-- Any other round reads one character, which may open or close quotation marks. -/
theorem next_char (hc : t[s.index]? = some c) (hescape : ¬ (c = '\\' ∧ s.index + 1 < t.length))
    (hseparator : ¬ (s.quote = none ∧ c = '>' ∧ t[s.index + 1]? = some '>')) :
    s.next t = { s with quote := markAfter s.quote (s.current t) c, index := s.index + 1 } := by
  simp only [next, hc]
  rw [if_neg hescape, if_neg hseparator, markAfter]
  split_ifs <;> rfl

theorem index_lt_index_next (h : s.index < t.length) : s.index < (s.next t).index := by
  unfold next
  rw [List.getElem?_eq_getElem h]
  simp only
  split_ifs <;> simp

/-- The chunks that the loop hands out; the last one is the chunk at hand at the end of the text. -/
def run (t : Text) (s : SplitLoop) : List Text :=
  if s.index < t.length then run t (s.next t) else s.handed ++ [s.current t]
termination_by t.length - s.index
decreasing_by
  have hindex := index_lt_index_next (s := s) ‹_›
  omega

/-- The loop has read `chunk` of the chunk at hand, and `rest` is what it has not read. What it has handed out, each with
the separator behind it, is the text up to the chunk at hand; a scan of the rest finds the other chunks. -/
structure IsAt (t chunk rest : Text) (s : SplitLoop) : Prop where
  text_eq : t = s.handed.flatMap (· ++ ">>".toList) ++ (chunk ++ rest)
  start_eq : s.start = (s.handed.flatMap (· ++ ">>".toList)).length
  index_eq : s.index = s.start + chunk.length
  isMark : IsMark s.quote
  scan_eq : (scan none [] t).1 = s.handed ++ (scan s.quote chunk rest).1

theorem isAt_initial (t : Text) : initial.IsAt t [] t :=
  ⟨rfl, rfl, rfl, isMark_none, rfl⟩

theorem IsAt.take_eq {chunk rest : Text} (h : s.IsAt t chunk rest) :
    t.take s.index = s.handed.flatMap (· ++ ">>".toList) ++ chunk := by
  rw [h.index_eq, h.start_eq, ← List.length_append]
  conv_lhs => rw [h.text_eq, ← List.append_assoc]
  exact List.take_left

theorem IsAt.current_eq {chunk rest : Text} (h : s.IsAt t chunk rest) : s.current t = chunk := by
  rw [SplitLoop.current, Text.between, h.take_eq, h.start_eq, List.drop_left]

theorem IsAt.drop_eq {chunk rest : Text} (h : s.IsAt t chunk rest) : t.drop s.index = rest := by
  rw [h.index_eq, h.start_eq, ← List.length_append]
  conv_lhs => rw [h.text_eq, ← List.append_assoc]
  exact List.drop_left

theorem IsAt.getElem?_eq {chunk rest : Text} (h : s.IsAt t chunk rest) (i : Nat) :
    t[s.index + i]? = rest[i]? := by
  rw [← h.drop_eq, List.getElem?_drop]

theorem IsAt.index_lt_iff {chunk rest : Text} (h : s.IsAt t chunk rest) (i : Nat) :
    s.index + i < t.length ↔ i < rest.length := by
  rw [← h.drop_eq, List.length_drop]
  omega

/-- **One round** reads an escape, a separator, or one character. -/
theorem IsAt.next {chunk rest : Text} (h : s.IsAt t chunk rest) (hindex : s.index < t.length) :
    ∃ chunk rest, (s.next t).IsAt t chunk rest := by
  obtain ⟨c, r, rfl⟩ : ∃ c r, rest = c :: r :=
    List.exists_cons_of_length_pos ((h.index_lt_iff 0).1 hindex)
  have hc : t[s.index]? = some c := h.getElem?_eq 0
  have hd : t[s.index + 1]? = r[0]? := h.getElem?_eq 1
  have hlast : s.index + 1 < t.length ↔ 0 < r.length := by simpa using h.index_lt_iff 1
  have htext := h.text_eq
  have hscan := h.scan_eq
  by_cases hescape : c = '\\' ∧ s.index + 1 < t.length
  · obtain ⟨rfl, hr⟩ := hescape
    obtain ⟨d, r, rfl⟩ := List.exists_cons_of_length_pos (hlast.1 hr)
    rw [scan_escape] at hscan
    rw [next_escape hc hr]
    exact ⟨chunk ++ ['\\', d], r, by simpa using htext, h.start_eq,
      by simp [h.index_eq, Nat.add_assoc], h.isMark, hscan⟩
  by_cases hseparator : s.quote = none ∧ c = '>' ∧ t[s.index + 1]? = some '>'
  · obtain ⟨hq, rfl, hr⟩ := hseparator
    rw [next_separator hq hc hr, h.current_eq]
    rw [hd] at hr
    obtain ⟨r, rfl⟩ : ∃ u, r = '>' :: u := by
      cases r with
      | nil => cases hr
      | cons d r =>
        cases hr
        exact ⟨r, rfl⟩
    rw [hq, scan_separator] at hscan
    exact ⟨[], r, by simpa using htext, by simp [h.index_eq, h.start_eq, Nat.add_assoc], rfl,
      isMark_none, by simpa using hscan⟩
  · rw [next_char hc hescape hseparator, h.current_eq]
    rw [scan_step h.isMark (fun hc => ?_) fun hq hc u hu => ?_] at hscan
    · exact ⟨chunk ++ [c], r, by simpa using htext, h.start_eq, by simp [h.index_eq, Nat.add_assoc],
        isMark_markAfter h.isMark chunk c, hscan⟩
    · by_contra hr
      exact hescape ⟨hc, hlast.2 (List.length_pos_iff.2 hr)⟩
    · exact hseparator ⟨hq, hc, by rw [hd, hu]; rfl⟩

/-- At the end of the text a round changes nothing. -/
theorem next_eq_self (h : ¬ s.index < t.length) : s.next t = s := by
  rw [next, List.getElem?_eq_none (Nat.le_of_not_lt h)]

/-- **Any number of rounds** leave the loop somewhere in the text. -/
theorem exists_isAt_iterate (t : Text) (n : Nat) :
    ∃ chunk rest, IsAt t chunk rest ((next t)^[n] initial) := by
  induction n with
  | zero => exact ⟨[], t, isAt_initial t⟩
  | succ n ih =>
    obtain ⟨chunk, rest, hat⟩ := ih
    rw [Function.iterate_succ_apply']
    by_cases hindex : ((next t)^[n] initial).index < t.length
    · exact hat.next hindex
    · rw [next_eq_self hindex]
      exact ⟨chunk, rest, hat⟩

/-- **The whole loop** hands out the chunks of the scan. -/
theorem IsAt.run {chunk rest : Text} (h : s.IsAt t chunk rest) : s.run t = (scan none [] t).1 := by
  fun_induction SplitLoop.run t s generalizing chunk rest with
  | case1 s hindex ih =>
    obtain ⟨chunk, rest, hnext⟩ := h.next hindex
    exact ih hnext
  | case2 s hindex =>
    have hrest : rest = [] := by
      rw [← h.drop_eq, List.drop_of_length_le (Nat.le_of_not_lt hindex)]
    rw [h.scan_eq, hrest, scan_nil, h.current_eq]

/-- Joined chunks are all but the last with a separator behind them, and the last one. -/
theorem intercalate_concat (sep u : Text) (us : List Text) :
    sep.intercalate (us ++ [u]) = us.flatMap (· ++ sep) ++ u := by
  induction us with
  | nil => simp
  | cons v us ih =>
    rw [List.cons_append, List.intercalate_cons_of_ne_nil (by simp), ih]
    simp

/-- **Splitting loses nothing, and its shortcut is exact.** With the shortcut or without it, the chunks are those of the
loop; joined they are the text, and in no chunk there is a separator that is neither escaped nor quoted. A text without
separators comes out whole. At any time the chunks that have been handed out and the chunk at hand, joined, are the text
that has been read, which is never more than the text. The chunks are the only split of the text. -/
theorem isSplit_run (t : Text) :
    chunks t = initial.run t ∧
    List.intercalate ">>".toList (initial.run t) = t ∧
    (∀ c ∈ initial.run t, ¬ HasBareSeparator c) ∧
    (Text.includes ">>".toList t = false → initial.run t = [t]) ∧
    (∀ n, ((next t)^[n] initial).index ≤ t.length ∧
      List.intercalate ">>".toList
          (((next t)^[n] initial).handed ++ [((next t)^[n] initial).current t]) =
        t.take ((next t)^[n] initial).index) ∧
    ∀ cs, IsSplit cs t ↔ cs = initial.run t := by
  have hrun := (isAt_initial t).run
  have hchunks := chunks_eq_scan t
  rw [← hrun] at hchunks
  refine ⟨hchunks, ?_, fun c hc => ?_, fun h => ?_, fun n => ?_, fun cs => ?_⟩
  · rw [hrun, intercalate_scan, List.nil_append]
  · exact (isSplit_iff.2 hrun).not_hasBareSeparator hc
  · rw [← hchunks, chunks, if_neg (Bool.eq_false_iff.1 h)]
  · obtain ⟨chunk, rest, hat⟩ := exists_isAt_iterate t n
    rw [hat.current_eq, intercalate_concat, hat.take_eq]
    refine ⟨?_, rfl⟩
    have hlength := congrArg List.length hat.take_eq
    rw [List.length_take, List.length_append, ← hat.start_eq, ← hat.index_eq] at hlength
    omega
  · rw [hrun]
    exact isSplit_iff

/-- An escaped separator, a quoted one, and one that overlaps with the next character. -/
example : ((next "a\\>> \">>\" >>> b".toList)^[12] initial).handed = ["a\\>> \">>\" ".toList] := by
  decide +kernel

end SplitLoop

end SelectorCode
