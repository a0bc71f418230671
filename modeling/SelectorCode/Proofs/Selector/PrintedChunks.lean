import SelectorCode.Proofs.Selector.Chunks
import SelectorCode.Proofs.Selector.Printing

/-!
# Printed chunks

A chunk is printed again from its label. Whether the result is a chunk again depends on the quotation marks in it: they
are ordinary text behind the engine `text` and nowhere else, so nothing changes as long as a chunk had this engine
written out already or does not get it. The one chunk that gets it is the wholly quoted one, and it is safe on a single
line, where the first pair of marks is the only one that counts.

## Main Definitions

* `Label.IsQuoted`: the chunks that are text only because they are wholly quoted.

## Main Statements

* `isChunk_text`: a printed chunk is a chunk again, unless it is wholly quoted.
* `Label.text_normal_of_isQuoted`: how a wholly quoted chunk is printed.
* `isChunk_quoted_of_line`: a wholly quoted chunk on a single line is a chunk again.
-/

namespace SelectorCode

/-! ### Single chunks -/

/-- The chunks that are text only because they are wholly quoted. -/
def Label.IsQuoted (t : Text) : Prop :=
  Label.named? (Text.trim t) = none ∧ Label.impliedEngine (Text.trim t) = Engine.text

instance (t : Text) : Decidable (Label.IsQuoted t) :=
  inferInstanceAs (Decidable (_ ∧ _))

/-- A chunk that names its engine stays one with its engine written out, with another engine than `text` for another
engine than `text`, and with plain characters around its body. -/
theorem IsChunk.named {b n e body full u v : Text} {quote : Option Char}
    (h : IsChunk (b ++ ((n ++ '=' :: body) ++ e)) quote)
    (hb : Text.isAllBlank b = true) (he : Text.isAllBlank e = true) (hn : '=' ∉ n)
    (hname : Label.isName (Text.trim n) = true) (hfull : Label.isName full = true)
    (hu : isAllPlain u = true) (hv : isAllPlain v = true)
    (hagree : (full = Text.trim n ∧ u = []) ∨
      (full ≠ Engine.text ∧ Text.trim n ≠ Engine.text)) :
    IsChunk (full ++ '=' :: (u ++ body ++ v)) quote := by
  obtain ⟨x, y, hx, hy, hxy⟩ := Text.exists_eq_append_trim n
  have hbn : '=' ∉ b ++ n := by
    rw [List.mem_append]
    rintro (h | h)
    · exact Text.not_mem_of_isAllBlank hb (by decide) h
    · exact hn h
  have htrim := Text.trim_append_left hb n
  have hequals := Label.not_mem_of_isName hfull
  have hold : isAllPlain (b ++ n ++ ['=']) = true := by
    refine isAllPlain_append (isAllPlain_append (isAllPlain_of_isAllBlank hb) ?_) (by decide)
    rw [hxy]
    exact isAllPlain_append (isAllPlain_of_isAllBlank hx)
      (isAllPlain_append (isAllPlain_of_isName hname) (isAllPlain_of_isAllBlank hy))
  have hnew : isAllPlain (full ++ ['='] ++ u) = true :=
    isAllPlain_append (isAllPlain_named hfull) hu
  have hchunk : IsChunk ((b ++ n ++ ['=']) ++ (body ++ e)) quote := by simpa using h
  have hswap := hchunk.swap (r := full ++ ['='] ++ u) (f := v) hold hnew
    (isAllPlain_of_isAllBlank he) hv fun z _ => ?_
  · simpa using hswap
  · have hleft : b ++ n ++ ['='] ++ z = (b ++ n) ++ '=' :: z := by simp
    have hright : full ++ ['='] ++ u ++ z = full ++ '=' :: (u ++ z) := by simp
    rw [hleft, hright]
    rcases hagree with ⟨rfl, rfl⟩ | ⟨hne, hne'⟩
    · rw [Label.isTextBody_append hbn, List.nil_append, Label.isTextBody_append hequals, htrim,
        Text.trim_trim]
    · rw [Label.isTextBody_of_ne hbn (by rwa [htrim]),
        Label.isTextBody_of_ne hequals (by rwa [Label.trim_of_isName hfull])]

/-- A chunk that shows its engine stays one with another engine than `text` written out. -/
theorem IsChunk.shown {t full : Text} {quote : Option Char} (h : IsChunk t quote)
    (hnone : Label.named? (Text.trim t) = none) (hfull : Label.isName full = true)
    (hne : full ≠ Engine.text) : IsChunk (full ++ '=' :: Text.trim t) quote := by
  obtain ⟨b, e, hb, he, ht⟩ := Text.exists_eq_append_trim t
  rw [ht] at h
  have hswap := h.swap (r := full ++ ['=']) (f := []) (isAllPlain_of_isAllBlank hb)
    (isAllPlain_named hfull) (isAllPlain_of_isAllBlank he) rfl fun x hx => ?_
  · simpa using hswap
  · rw [Label.isTextBody_blank_append hb, List.append_assoc, List.singleton_append,
      Label.isTextBody_of_ne (Label.not_mem_of_isName hfull) (by rwa [Label.trim_of_isName hfull])]
    refine Label.isTextBody_of_prefix ?_ hx
    rwa [Text.trim_trim]

/-- A body that shows its engine stays a chunk without it. -/
theorem IsChunk.bare {full body : Text} {quote : Option Char}
    (h : IsChunk (full ++ '=' :: body) quote) (hfull : Label.isName full = true)
    (hne : full ≠ Engine.text) (hshows : Label.Shows full body) : IsChunk body quote := by
  have hchunk : IsChunk ((full ++ ['=']) ++ (body ++ [])) quote := by simpa using h
  have hswap := hchunk.swap (r := []) (f := []) (isAllPlain_named hfull) rfl rfl rfl
    fun x hx => ?_
  · simpa using hswap
  · obtain ⟨htrim, hnone, -⟩ := hshows
    rw [List.nil_append, List.append_assoc, List.singleton_append,
      Label.isTextBody_of_ne (Label.not_mem_of_isName hfull) (by rwa [Label.trim_of_isName hfull])]
    refine (Label.isTextBody_of_prefix ?_ hx).symm
    rwa [htrim]

/-! ### Printed chunks -/

namespace Label

theorem fullName_ofName (name body : Text) : (ofName name body).fullName = name := by
  rcases ofName_cases name body with ⟨rest, rfl, h⟩ | ⟨-, h⟩
  · rw [h]
    rfl
  · rw [h]
    rfl

/-- A chunk that names no engine has the engine of its look and its whole text as body. -/
theorem normal_ofChunk_of_named?_eq_none {t : Text} (hnone : named? (Text.trim t) = none) :
    (ofChunk t).normal = ⟨impliedEngine (Text.trim t), Text.trim t, false⟩ := by
  rcases ofChunk_cases t with ⟨n, name, body, ht, hn, hname, hisName, -⟩ | ⟨-, h⟩
  · rw [ht, named?_append hn, hname, if_pos hisName] at hnone
    cases hnone
  · rcases normal_cases (ofChunk t) with ⟨hlight, -⟩ | ⟨-, hnormal⟩
    · rw [h] at hlight
      exact absurd hlight (impliedEngine_ne _).2
    · rw [hnormal, h]

/-- A wholly quoted chunk is always printed with its engine. -/
theorem text_normal_of_isQuoted {t : Text} (h : IsQuoted t) (explicit : Bool) :
    (ofChunk t).normal.text explicit = Engine.text ++ '=' :: Text.trim t := by
  obtain ⟨hnone, hengine⟩ := h
  have hcss : Engine.text ≠ Engine.css := by decide
  have hxpath : Engine.text ≠ Engine.xpath := by decide
  rw [normal_ofChunk_of_named?_eq_none hnone, hengine, text_eq, if_pos]
  · rfl
  · simp [isBare, Part.impliesEngine, Part.ofText, hcss, hxpath]

end Label

/-- A chunk stays one with its engine written out, unless it is wholly quoted. -/
theorem isChunk_fullName {t : Text} {quote : Option Char} (h : IsChunk t quote)
    (hquoted : ¬ Label.IsQuoted t) :
    IsChunk ((Label.ofChunk t).normal.fullName ++ '=' :: (Label.ofChunk t).normal.body) quote := by
  have hfull := Label.isName_fullName (Label.printable_normal_ofChunk t)
  rcases Label.ofChunk_cases t with ⟨n, name, body, ht, hn, rfl, hname, hchunk⟩ | ⟨hnone, -⟩
  · obtain ⟨b, e, hb, he, heq⟩ := Text.exists_eq_append_trim t
    rw [heq, ht] at h
    rw [hchunk] at hfull ⊢
    rcases Label.normal_cases (Label.ofName (Text.trim n) body) with
      ⟨hlight, hnormal⟩ | ⟨-, hnormal⟩
    · -- the body of `css:light` gets plain characters around it
      rw [hnormal] at hfull ⊢
      rw [Label.body_ofName]
      refine IsChunk.named h hb he hn hname hfull (by decide) (by decide) (Or.inr ⟨?_, ?_⟩)
      · intro hengine
        have hcases : ∀ captured : Bool,
            Label.fullName ⟨Engine.css, [], captured⟩ ≠ Engine.text := by decide
        exact hcases _ hengine
      · intro hengine
        rw [hengine] at hlight
        exact absurd hlight (by decide : Engine.text ≠ Engine.cssLight)
    · rw [hnormal] at hfull ⊢
      rw [Label.fullName_ofName] at hfull ⊢
      rw [Label.body_ofName]
      have hnamed := IsChunk.named (u := []) (v := []) h hb he hn hname hfull rfl rfl
        (Or.inl ⟨rfl, rfl⟩)
      simpa using hnamed
  · rw [Label.normal_ofChunk_of_named?_eq_none hnone] at hfull ⊢
    exact h.shown hnone hfull fun hengine => hquoted ⟨hnone, hengine⟩

/-- **A printed chunk is a chunk again** and leaves the same mark open, unless it is wholly quoted. -/
theorem isChunk_text {t : Text} {quote : Option Char} (h : IsChunk t quote)
    (hquoted : ¬ Label.IsQuoted t) {explicit : Bool} {l : Label}
    (hl : (Label.ofChunk t).normal = l)
    (hshows : explicit = false → l.name = Engine.css → l.captured = false →
      Label.Shows Engine.css l.body) : IsChunk (l.text explicit) quote := by
  have hprintable := Label.printable_normal_ofChunk t
  have hfull := isChunk_fullName h hquoted
  rw [hl] at hprintable hfull
  have hname := Label.isName_fullName hprintable
  rw [Label.text_eq]
  split
  · exact hfull
  next hbare =>
    simp only [Bool.or_eq_true, Bool.not_eq_true', not_or, Bool.not_eq_true,
      Bool.not_eq_false] at hbare
    obtain ⟨hcaptured, hcases⟩ := Label.isBare_cases hprintable hbare.2
    have hengine : l.fullName = l.name := by simp [Label.fullName, hcaptured]
    rw [hengine] at hfull hname
    rcases hcases with hcss | ⟨hxpath, hxpathShows⟩
    · rw [hcss] at hfull hname
      exact hfull.bare hname (by decide) (hshows hbare.1 hcss hcaptured)
    · rw [hxpath] at hfull hname
      exact hfull.bare hname (by decide) hxpathShows

/-! ### Wholly quoted chunks -/

/-- Behind the beginning of a text body no mark opens, so long as there is no separator. -/
theorem mark_scan_of_isTextBody {quote : Option Char} {chunk t : Text}
    (hquote : quote = none) (hsep : ∀ u v, t ≠ u ++ '>' :: '>' :: v)
    (hbody : ∀ x, x <+: t → isTextBody (chunk ++ x) = true) : (scan quote chunk t).2 = none := by
  induction quote, chunk, t using scan_rec with
  | nil quote chunk => rw [scan_nil, hquote]
  | escape quote chunk c r ih =>
    rw [scan_escape]
    refine ih hquote (fun u v hr => hsep ('\\' :: c :: u) v (by rw [hr]; rfl)) fun x hx => ?_
    rw [List.append_assoc]
    exact hbody _ (by simpa using hx)
  | separator chunk r _ => exact absurd rfl (hsep [] r)
  | quotedSeparator quote chunk r _ _ => exact absurd rfl (hsep [] r)
  | char quote chunk c r hescape hseparator ih =>
    have hmark : markAfter quote chunk c = none := by
      have hnil := hbody [] List.nil_prefix
      rw [List.append_nil] at hnil
      rw [markAfter, hquote, hnil]
      simp
    rw [scan_char hescape hseparator]
    refine ih hmark (fun u v hr => hsep (c :: u) v (by rw [hr]; rfl)) fun x hx => ?_
    rw [List.append_assoc]
    exact hbody _ (by simpa using hx)

/-- A mark that is closed behind one chunk is closed behind another, and none opens again in a text body. -/
theorem mark_scan_of_mark_scan {quote : Option Char} {a b t : Text} (hquote : quote ≠ none)
    (h : (scan quote a t).2 = none) (hsep : ∀ u v, t ≠ u ++ '>' :: '>' :: v)
    (hbody : ∀ x, x <+: t → isTextBody (b ++ x) = true) : (scan quote b t).2 = none := by
  induction quote, a, t using scan_rec generalizing b with
  | nil quote a =>
    rw [scan_nil] at h
    exact absurd h hquote
  | escape quote a c r ih =>
    rw [scan_escape] at h ⊢
    refine ih hquote h (fun u v hr => hsep ('\\' :: c :: u) v (by rw [hr]; rfl)) fun x hx => ?_
    rw [List.append_assoc]
    exact hbody _ (by simpa using hx)
  | separator a r _ => exact absurd rfl (hsep [] r)
  | quotedSeparator quote a r _ _ => exact absurd rfl (hsep [] r)
  | char quote a c r hescape hseparator ih =>
    have hsep' : ∀ u v, r ≠ u ++ '>' :: '>' :: v := fun u v hr =>
      hsep (c :: u) v (by rw [hr]; rfl)
    have hbody' : ∀ x, x <+: r → isTextBody (b ++ [c] ++ x) = true := fun x hx => by
      rw [List.append_assoc]
      exact hbody _ (by simpa using hx)
    rw [scan_char hescape hseparator] at h ⊢
    by_cases hclose : quote = some c
    · -- the mark closes on both sides
      have hmark : markAfter quote b c = none := by rw [markAfter, if_pos hclose]
      rw [hmark]
      exact mark_scan_of_isTextBody rfl hsep' hbody'
    · have hmark : ∀ chunk, markAfter quote chunk c = quote := fun chunk => by
        rw [markAfter, if_neg hclose]
        simp [hquote]
      rw [hmark] at h ih ⊢
      exact ih hquote h hsep' hbody'

/-- A text without separators is a single chunk. -/
theorem isChunk_of_not_includes {t : Text} (h : Text.includes ">>".toList t = false) :
    IsChunk t (scan none [] t).2 := by
  have hchunks := chunks_eq_scan t
  rw [chunks, if_neg (by rw [h]; exact Bool.false_ne_true)] at hchunks
  exact isChunk_of_scan (Prod.ext hchunks.symm rfl)

/-- The first character of a wholly quoted chunk is a mark. -/
theorem exists_cons_of_isQuoted {t : Text} (h : Label.IsQuoted t) :
    ∃ m r, Text.trim t = m :: r ∧ isOpeningQuote m = true := by
  obtain ⟨-, hengine⟩ := h
  unfold Label.impliedEngine at hengine
  split at hengine
  next hmark =>
    simp only [Label.isEnclosed, Bool.or_eq_true, Bool.and_eq_true, decide_eq_true_eq,
      List.head?_eq_some_iff] at hmark
    rcases hmark with ⟨⟨-, r, hr⟩, -⟩ | ⟨⟨-, r, hr⟩, -⟩
    · exact ⟨'"', r, hr, rfl⟩
    · exact ⟨'\x27', r, hr, rfl⟩
  next =>
    split at hengine
    · exact absurd hengine (by decide)
    · exact absurd hengine (by decide)

/-- **A wholly quoted chunk on a single line** is a chunk behind the engine `text` as well, if it holds no separator. -/
theorem isChunk_quoted_of_line {t : Text} {quote : Option Char} (h : IsChunk t quote)
    (hquoted : Label.IsQuoted t) (hsep : Text.includes ">>".toList (Text.trim t) = false)
    (hline : '\n' ∉ Text.trim t) :
    ∃ quote', IsChunk (Engine.text ++ '=' :: Text.trim t) quote' ∧
      (quote = none → quote' = none) := by
  have hincludes : Text.includes ">>".toList (Engine.text ++ '=' :: Text.trim t) = false := by
    simpa [Engine.text, Text.includes, Text.startsWith, Text.stripPrefix?] using hsep
  refine ⟨_, isChunk_of_not_includes hincludes, fun hclosed => ?_⟩
  subst hclosed
  obtain ⟨m, r, hm, hmark⟩ := exists_cons_of_isQuoted hquoted
  have hseparators : ∀ u v, r ≠ u ++ '>' :: '>' :: v := by
    rintro u v rfl
    have hmem := includes_append ">>".toList (m :: u) v
    rw [show (m :: u) ++ (">>".toList ++ v) = Text.trim t by rw [hm]; simp, hsep] at hmem
    exact Bool.noConfusion hmem
  have hchar : ∀ chunk, isTextBody chunk = false →
      scan none chunk (m :: r) = scan (some m) (chunk ++ [m]) r := by
    intro chunk hchunk
    have hescape : m = '\\' → r = [] := by
      rintro rfl
      exact absurd hmark (by decide)
    have hseparator : m = '>' → ∀ s, r ≠ '>' :: s := by
      rintro rfl
      exact absurd hmark (by decide)
    rw [scan_char hescape hseparator, markAfter, if_neg (by simp), if_pos (by simp [hmark, hchunk])]
  have hopen : (scan (some m) [m] r).2 = none := by
    obtain ⟨b, e, hb, he, ht⟩ := Text.exists_eq_append_trim t
    rw [ht] at h
    have htrim := h.swap (r := []) (f := []) (isAllPlain_of_isAllBlank hb) rfl
      (isAllPlain_of_isAllBlank he) rfl fun x _ => Label.isTextBody_blank_append hb x
    rw [List.nil_append, List.append_nil, hm, IsChunk, hchar [] rfl] at htrim
    exact congrArg Prod.snd htrim
  have hequals : isAllPlain (Engine.text ++ ['=']) = true := by decide
  have hstart : scan none [] (Engine.text ++ '=' :: Text.trim t) =
      scan (some m) (Engine.text ++ ['='] ++ [m]) r := by
    have hplain := scan_plain isMark_none [] hequals (m :: r)
    rw [List.nil_append, hchar _ (by decide)] at hplain
    rw [← hplain, hm, List.append_assoc]
    rfl
  rw [hstart]
  refine mark_scan_of_mark_scan (by simp) hopen hseparators fun x hx => ?_
  have hshape : Engine.text ++ ['='] ++ [m] ++ x = Engine.text ++ '=' :: (m :: x) := by simp
  rw [hshape, Label.isTextBody_append (by decide), decide_eq_true_iff]
  refine ⟨by decide, List.cons_ne_nil m x, fun hmem => hline ?_⟩
  rw [hm]
  exact (List.cons_prefix_cons.2 ⟨rfl, hx⟩).subset hmem

end SelectorCode
