import SelectorCode.Proofs.Selector.PrintedChunks
import SelectorCode.Proofs.Selector.Reading

/-!
# Printing a chain and reading it back

A printed chain reads back when its labels do, and the labels are found again exactly when every printed label is a
chunk of its own that says what it was printed from. Of these two conditions the second is about single bodies. The
first can only fail for a chunk that was taken for text because it is wholly quoted: behind the engine that is then
written out, all quotation marks but the first pair are ordinary text.

## Main Statements

* `map_normal_labels_iff`: when the labels of a printed list of labels are this list.
* `Chain.ofText_text_iff`: the exact condition under which a printed chain reads back.
* `Chain.ofText_defaultText_iff`: the same for a chain printed without the engines it implies.
* `Chain.ofText_explicitText_iff`: the same for a chain printed with every engine.
* `Chain.ofText_text_true_of_line`: a condition on the wholly quoted chunks that is easy to check.
-/

namespace SelectorCode

variable {selector : Text} {c : Chain}

/-! ### Lists of labels -/

/-- The first printed label, when it is found again, is a chunk of its own, and what follows it is found again too. -/
theorem isChunk_of_labels_cons {explicit : Bool} {l : Label} {ls : List Label} {r : Text}
    (hl : l.Printable)
    (h : (labels (l.text explicit ++ (separator ++ r))).map Label.normal = l :: ls) :
    IsChunk (l.text explicit) none ∧ (Label.ofChunk (l.text explicit)).normal = l ∧
      (labels r).map Label.normal = ls := by
  rw [labels_eq_scan] at h
  obtain ⟨d, ds, hscan⟩ := List.exists_cons_of_ne_nil
    (scan_ne_nil none [] (l.text explicit ++ (separator ++ r)))
  rw [hscan, List.map_cons, List.map_cons] at h
  obtain ⟨hfirst, hrest⟩ := List.cons.inj h
  -- the first chunk has as many separators as the first label, so it ends where this ends
  have hcount : d.count '>' = (l.text explicit).count '>' := by
    rw [← Label.count_normal_ofChunk, hfirst, Label.count_text hl]
  obtain ⟨hchunk, rfl, rfl⟩ := isChunk_of_count_eq hscan hcount
  rw [Label.ofChunk_append_right (by decide)] at hfirst
  rw [← labels_eq_scan, ← List.singleton_append, labels_blank_append (by decide)] at hrest
  exact ⟨hchunk, hfirst, hrest⟩

/-- The only printed label, when it is found again, is a single chunk. -/
theorem isChunk_of_labels_singleton {explicit : Bool} {l : Label}
    (h : (labels (l.text explicit)).map Label.normal = [l]) :
    (∃ quote, IsChunk (l.text explicit) quote) ∧
      (Label.ofChunk (l.text explicit)).normal = l := by
  rw [labels_eq_scan, List.map_map] at h
  obtain ⟨d, hd, hnormal⟩ := List.map_eq_singleton_iff.1 h
  have hchunk := isChunk_of_scan (Prod.ext hd rfl : scan none [] (l.text explicit) = ([d], _))
  have htext : d = l.text explicit := by
    rw [hchunk] at hd
    exact (List.cons.inj hd).1.symm
  rw [htext] at hnormal
  exact ⟨⟨_, hchunk⟩, hnormal⟩

/-- **Printed labels are found again** exactly if they are chunks together and each one on its own is read back. -/
theorem map_normal_labels_iff (explicit : Bool) {ls : List Label} (hne : ls ≠ [])
    (hls : ∀ l ∈ ls, l.Printable) :
    (labels (separator.intercalate (ls.map (Label.text explicit)))).map Label.normal = ls ↔
      (∃ quote, AreChunks (ls.map (Label.text explicit)) quote) ∧
        ∀ l ∈ ls, (Label.ofChunk (l.text explicit)).normal = l := by
  constructor
  · intro h
    induction ls with
    | nil => exact absurd rfl hne
    | cons l ls ih =>
      cases ls with
      | nil =>
        rw [List.map_singleton, List.intercalate_singleton] at h
        obtain ⟨hchunk, hread⟩ := isChunk_of_labels_singleton h
        refine ⟨hchunk, fun m hm => ?_⟩
        rw [List.mem_singleton.1 hm]
        exact hread
      | cons m ls =>
        rw [List.map_cons, List.intercalate_cons_of_ne_nil (by simp), List.append_assoc] at h
        obtain ⟨hchunk, hfirst, hrest⟩ := isChunk_of_labels_cons (hls l List.mem_cons_self) h
        obtain ⟨⟨quote, hchunks⟩, hread⟩ :=
          ih (List.cons_ne_nil m ls) (fun k hk => hls k (List.mem_cons_of_mem l hk)) hrest
        refine ⟨⟨quote, hchunk, hchunks⟩, fun k hk => ?_⟩
        rcases List.mem_cons.1 hk with rfl | hk
        · exact hfirst
        · exact hread k hk
  · rintro ⟨⟨quote, hchunks⟩, hread⟩
    rw [labels_intercalate (by simpa using hne) hchunks, List.map_map, List.map_map]
    refine (List.map_congr_left fun l hl => ?_).trans (List.map_id ls)
    exact hread l hl

/-! ### Chains -/

namespace Chain

/-- The labels of a chain that has been read, chunk by chunk. -/
theorem labels_of_ofText (h : Chain.ofText selector = .ok c) :
    c.labels = (chunks selector).map fun t => (Label.ofChunk t).normal := by
  rw [Chain.ofText_eq] at h
  rw [labels_of_readChain h, SelectorCode.labels, List.map_map]
  rfl

/-- **A printed chain reads back** exactly if every style-sheet selector that is printed without its engine shows it,
and every wholly quoted chunk is still a chunk, with no mark open at its end unless it is the last, behind the engine
that is written out for it. -/
theorem ofText_text_iff (h : Chain.ofText selector = .ok c) (explicit : Bool) :
    Chain.ofText (c.text explicit) = .ok c ↔
      (explicit = false → ∀ l ∈ c.labels, l.name = Engine.css → l.captured = false →
        Label.Shows Engine.css l.body) ∧
      (∀ pre t post, chunks selector = pre ++ t :: post → Label.IsQuoted t →
        ∃ quote, IsChunk (Engine.text ++ '=' :: Text.trim t) quote ∧
          (post ≠ [] → quote = none)) := by
  have hlabels := labels_of_ofText h
  have hprintable : ∀ l ∈ c.labels, l.Printable := by
    intro l hl
    rw [hlabels] at hl
    obtain ⟨t, -, rfl⟩ := List.mem_map.1 hl
    exact Label.printable_normal_ofChunk t
  have hne : c.labels ≠ [] := by
    rw [hlabels, chunks_eq_scan]
    simpa using scan_ne_nil none [] selector
  rw [Chain.ofText_eq_ok_iff_labels h, Chain.text_eq_intercalate,
    map_normal_labels_iff explicit hne hprintable]
  -- whether a label is read back depends on its body alone
  have hread : (∀ l ∈ c.labels, (Label.ofChunk (l.text explicit)).normal = l) ↔
      (explicit = false → ∀ l ∈ c.labels, l.name = Engine.css → l.captured = false →
        Label.Shows Engine.css l.body) := by
    constructor
    · intro hall hexplicit l hl
      exact (Label.normal_ofChunk_text_iff (hprintable l hl) explicit).1 (hall l hl) hexplicit
    · intro hshows l hl
      exact (Label.normal_ofChunk_text_iff (hprintable l hl) explicit).2 fun hexplicit =>
        hshows hexplicit l hl
  rw [hread, and_comm]
  refine and_congr_right fun hshows => ?_
  -- the printed chunks are those of the selector, one for one, and only the wholly quoted ones are in doubt
  rw [exists_areChunks_iff, hlabels, List.map_map]
  constructor
  · intro hchunks pre t post hsplit hquoted
    obtain ⟨quote, hchunk, hlast⟩ := hchunks _ _ _
      (by rw [hsplit, List.map_append, List.map_cons])
    refine ⟨quote, ?_, fun hpost => hlast (by simpa using hpost)⟩
    rw [← Label.text_normal_of_isQuoted hquoted explicit]
    exact hchunk
  · intro hquotes pre' u post' hsplit
    obtain ⟨pre, rest, hchunks, rfl, hrest⟩ := List.map_eq_append_iff.1 hsplit
    obtain ⟨t, post, rfl, rfl, rfl⟩ := List.map_eq_cons_iff.1 hrest
    by_cases hquoted : Label.IsQuoted t
    · obtain ⟨quote, hchunk, hlast⟩ := hquotes pre t post hchunks hquoted
      refine ⟨quote, ?_, fun hpost => hlast (by simpa using hpost)⟩
      rw [Function.comp_apply, Label.text_normal_of_isQuoted hquoted explicit]
      exact hchunk
    · have hscan := areChunks_scan selector
      rw [← chunks_eq_scan] at hscan
      obtain ⟨quote, hchunk, hlast⟩ := exists_areChunks_iff.1 ⟨_, hscan⟩ pre t post hchunks
      refine ⟨quote, ?_, fun hpost => hlast (by simpa using hpost)⟩
      refine isChunk_text hchunk hquoted rfl fun hexplicit => hshows hexplicit _ ?_
      rw [hlabels, hchunks]
      exact List.mem_map_of_mem (by simp)

/-! ### Without the implied engines -/

/-- **A chain that is printed without the engines it implies** reads back exactly if every style-sheet selector that is
not captured shows its engine, and every wholly quoted chunk is still one chunk behind the engine `text`, with no mark
open at its end unless it is the last. -/
theorem ofText_defaultText_iff (h : Chain.ofText selector = .ok c) :
    Chain.ofText (c.text false) = .ok c ↔
      (∀ i p, c.parts[i]? = some p → p.name = Engine.css → c.capture ≠ some i →
        Label.Shows Engine.css p.source) ∧
      (∀ pre t post, chunks selector = pre ++ t :: post → Label.IsQuoted t →
        ∃ quote, IsChunk (Engine.text ++ '=' :: Text.trim t) quote ∧
          (post ≠ [] → quote = none)) := by
  rw [ofText_text_iff h false]
  refine and_congr_left fun _ => ?_
  constructor
  · intro hshows i p hp hcss hcapture
    refine hshows rfl ⟨p.name, p.source, c.capture = some i⟩ ?_ hcss (decide_eq_false hcapture)
    refine List.mem_of_getElem? (i := i) ?_
    rw [Chain.labels, List.getElem?_mapIdx, hp]
    rfl
  · intro hshows _ l hl hcss hcaptured
    obtain ⟨i, hi⟩ := List.mem_iff_getElem?.1 hl
    rw [Chain.labels, List.getElem?_mapIdx] at hi
    obtain ⟨p, hp, rfl⟩ := Option.map_eq_some_iff.1 hi
    exact hshows i p hp hcss (of_decide_eq_false hcaptured)

/-- A style-sheet selector and a quoted text read back. -/
theorem ofText_defaultText_quoted :
    Chain.ofText "div >> \"a\"".toList =
        .ok ⟨[.ofText Engine.css "div".toList, .ofText Engine.text "\"a\"".toList], none⟩ ∧
      Chain.ofText "div >> text=\"a\"".toList =
        .ok ⟨[.ofText Engine.css "div".toList, .ofText Engine.text "\"a\"".toList], none⟩ := by
  have hread : Chain.ofText "div >> \"a\"".toList =
      .ok ⟨[.ofText Engine.css "div".toList, .ofText Engine.text "\"a\"".toList], none⟩ := by
    rw [Chain.ofText_eq]
    rfl
  refine ⟨hread, (ofText_defaultText_iff hread).2 ⟨?_, ?_⟩⟩
  · intro i p hp hcss _
    match i, hp with
    | 0, hp =>
      cases hp
      decide
    | 1, hp =>
      cases hp
      exact absurd hcss (by decide)
  · intro pre t post hsplit hquoted
    have hchunks : chunks "div >> \"a\"".toList = ["div ".toList, " \"a\"".toList] := by decide
    rw [hchunks] at hsplit
    match pre, hsplit with
    | [], hsplit =>
      cases hsplit
      exact absurd hquoted (by decide)
    | [_], hsplit =>
      cases hsplit
      exact ⟨none, rfl, fun hpost => absurd rfl hpost⟩
    | _ :: _ :: pre, hsplit => cases pre <;> cases hsplit

/-- Not every chain reads back: a style-sheet selector that looks like a named chunk is printed without its engine and
changes to the engine that it seems to name. -/
theorem not_ofText_defaultText :
    ¬ ∀ selector c, Chain.ofText selector = .ok c → Chain.ofText (c.text false) = .ok c := by
  intro h
  have hread : Chain.ofText "css=a=b".toList = .ok ⟨[.ofText Engine.css "a=b".toList], none⟩ := by
    rw [Chain.ofText_eq]
    rfl
  have hprinted : Chain.ofText "a=b".toList = .ok ⟨[.ofText "a".toList "b".toList], none⟩ := by
    rw [Chain.ofText_eq]
    rfl
  have hback := h _ _ hread
  rw [show Chain.text false ⟨[.ofText Engine.css "a=b".toList], none⟩ = "a=b".toList from rfl,
    hprinted] at hback
  have hname := congrArg (fun c : Chain => c.parts.map Part.name) (Except.ok.inj hback)
  exact absurd hname (by decide)

/-! ### With every engine -/

/-- **A chain that is printed with every engine** reads back exactly if every wholly quoted chunk is still one chunk
behind the engine `text`, with no mark open at its end unless it is the last. -/
theorem ofText_explicitText_iff (h : Chain.ofText selector = .ok c) :
    Chain.ofText (c.text true) = .ok c ↔
      ∀ pre t post, chunks selector = pre ++ t :: post → Label.IsQuoted t →
        ∃ quote, IsChunk (Engine.text ++ '=' :: Text.trim t) quote ∧ (post ≠ [] → quote = none) := by
  rw [ofText_text_iff h true]
  exact and_iff_right fun htrue => Bool.noConfusion htrue

/-- A captured path before an implied one reads back. -/
theorem ofText_explicitText_path :
    Chain.ofText "*xpath=a >> //b".toList =
        .ok ⟨[.ofText Engine.xpath "a".toList, .ofText Engine.xpath "//b".toList], some 0⟩ ∧
      Chain.ofText "*xpath=a >> xpath=//b".toList =
        .ok ⟨[.ofText Engine.xpath "a".toList, .ofText Engine.xpath "//b".toList], some 0⟩ := by
  have hread : Chain.ofText "*xpath=a >> //b".toList =
      .ok ⟨[.ofText Engine.xpath "a".toList, .ofText Engine.xpath "//b".toList], some 0⟩ := by
    rw [Chain.ofText_eq]
    rfl
  refine ⟨hread, (ofText_explicitText_iff hread).2 fun pre t post hsplit hquoted => ?_⟩
  have hchunks : chunks "*xpath=a >> //b".toList = ["*xpath=a ".toList, " //b".toList] := by decide
  have hnone : ∀ t ∈ chunks "*xpath=a >> //b".toList, ¬ Label.IsQuoted t := by
    rw [hchunks]
    decide
  exact absurd hquoted (hnone t (by rw [hsplit]; simp))

/-- Not every chain without separators in its quoted chunks reads back: behind the engine `text` a mark after the first
pair opens nothing until the line ends, so the last of three lone marks stays open. -/
theorem not_ofText_explicitText :
    ¬ ∀ selector c, Chain.ofText selector = .ok c →
      (∀ t ∈ chunks selector, Label.IsQuoted t → Text.includes ">>".toList t = false) →
      Chain.ofText (c.text true) = .ok c := by
  intro h
  have hread : Chain.ofText "\"a\" '\n' \"b\" >> c".toList =
      .ok ⟨[.ofText Engine.text "\"a\" '\n' \"b\"".toList, .ofText Engine.css "c".toList],
        none⟩ := by
    rw [Chain.ofText_eq]
    rfl
  have hprinted : Chain.ofText "text=\"a\" '\n' \"b\" >> css=c".toList =
      .ok ⟨[.ofText Engine.text "\"a\" '\n' \"b\" >> css=c".toList], none⟩ := by
    rw [Chain.ofText_eq]
    rfl
  have hback := h _ _ hread (by decide)
  rw [show Chain.text true ⟨[.ofText Engine.text "\"a\" '\n' \"b\"".toList,
      .ofText Engine.css "c".toList], none⟩ = "text=\"a\" '\n' \"b\" >> css=c".toList from rfl,
    hprinted] at hback
  have hlength := congrArg (fun c : Chain => c.parts.length) (Except.ok.inj hback)
  exact absurd hlength (by decide)

/-- Wholly quoted chunks on single lines and without separators do no harm. -/
theorem ofText_text_true_of_line (h : Chain.ofText selector = .ok c)
    (hquoted : ∀ t ∈ chunks selector, Label.IsQuoted t →
      Text.includes ">>".toList (Text.trim t) = false ∧ '\n' ∉ Text.trim t) :
    Chain.ofText (c.text true) = .ok c := by
  refine (ofText_text_iff h true).2 ⟨fun htrue => Bool.noConfusion htrue, ?_⟩
  intro pre t post hsplit ht
  have hscan := areChunks_scan selector
  rw [← chunks_eq_scan] at hscan
  obtain ⟨quote, hchunk, hlast⟩ := exists_areChunks_iff.1 ⟨_, hscan⟩ pre t post hsplit
  obtain ⟨hsep, hline⟩ := hquoted t (by rw [hsplit]; simp) ht
  obtain ⟨quote', htext, hclosed⟩ := isChunk_quoted_of_line hchunk ht hsep hline
  exact ⟨quote', htext, fun hpost => hclosed (hlast hpost)⟩

end Chain

end SelectorCode
