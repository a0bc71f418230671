import SelectorCode.Proofs.Json.Literal
import SelectorCode.Proofs.Selector.Reading

/-!
# Quoted texts under the scan

A text in quotation marks may hold separators, marks and backslashes of its own, provided that it is written in a way
that the scan passes over. The mark that closes the text is then the first one that the scan sees, whatever the text is.
There are several such ways, since the readers of bodies escape differently, and one argument serves for all of them.

## Main Definitions

* `IsGuarded`: the ways of writing a character that the scan passes over inside double quotation marks.
* `Text.quotedBy`: a text in double quotation marks, with its characters written in such a way.
* `CaseMark`: what may stand behind the text to say whether case counts.

## Main Statements

* `isGuarded_escapeChar`: the escapes of literals are passed over.
* `scan_quotedBy`: the scan passes over a quoted text.
* `labels_quotedBy`: a named chunk with a quoted text in its body is a single chunk with this label.
* `Chain.ofText_of_labels`: a single label is read as a single part.
-/

namespace SelectorCode

/-! ### Characters -/

/-- Inside quotation marks, a character that is neither a backslash nor the mark is passed over. Two `>` are taken at
once, which comes to the same. -/
theorem scan_quoted_char {m c : Char} (hback : c ≠ '\\') (hmark : c ≠ m) (chunk r : Text) :
    scan (some m) chunk (c :: r) = scan (some m) (chunk ++ [c]) r := by
  have hself : ∀ chunk, markAfter (some m) chunk c = some m := by
    intro chunk
    rw [markAfter, if_neg (by simpa using hmark.symm)]
    simp
  by_cases hgt : c = '>'
  · subst hgt
    induction r generalizing chunk with
    | nil => rw [scan_char (fun _ => rfl) (fun _ s hs => by cases hs), hself]
    | cons d s ih =>
      by_cases hd : d = '>'
      · rw [hd, scan_quotedSeparator (by simp), ← hd, hd, ih (chunk ++ ['>']), List.append_assoc]
        rfl
      · rw [scan_char (fun h => absurd h hback) (fun _ u hu => hd (List.cons.inj hu).1), hself]
  · rw [scan_char (fun h => absurd h hback) (fun h => absurd h hgt), hself]

/-- The ways of writing a character that the scan passes over inside double quotation marks. -/
def IsGuarded (write : Char → Text) : Prop :=
  ∀ chunk c r, scan (some '"') chunk (write c ++ r) = scan (some '"') (chunk ++ write c) r

/-- The escapes of literals are passed over. -/
theorem isGuarded_escapeChar : IsGuarded (Text.escapeChar .double) := by
  intro chunk c r
  rcases escapeChar_double_cases c with ⟨e, he, -, -⟩ | ⟨hcontrol, he⟩ | ⟨he, hquote, hback, -⟩
  · rw [he]
    exact scan_escape _ _ _ _
  · -- the backslash protects the letter, and the digits are plain
    have hall : ∀ n < 0x20,
        isAllPlain ['0', '0', Text.hexDigit (n / 16), Text.hexDigit (n % 16)] = true := by decide
    have hmark : IsMark (some '"') := by
      rintro m hm
      cases hm
      rfl
    have hdigits := scan_plain hmark (chunk ++ ['\\', 'u']) (hall _ hcontrol) r
    rw [List.append_assoc] at hdigits
    rw [he, Text.escapeCode]
    exact (scan_escape _ _ _ _).trans hdigits
  · rw [he]
    exact scan_quoted_char hback hquote chunk r

/-! ### Texts -/

/-- A text in double quotation marks, with its characters written in the given way. -/
def Text.quotedBy (write : Char → Text) (t : Text) : Text :=
  '"' :: (t.flatMap write ++ ['"'])

theorem Text.literal_double (t : Text) : literal .double t = quotedBy (escapeChar .double) t :=
  rfl

variable {write : Char → Text} {name pre post : Text}

/-- The scan passes over a quoted text that begins where a mark may open. -/
theorem scan_quotedBy (hwrite : IsGuarded write) {chunk : Text} (hchunk : isTextBody chunk = false)
    (t r : Text) :
    scan none chunk (Text.quotedBy write t ++ r) = scan none (chunk ++ Text.quotedBy write t) r := by
  have hbody : ∀ chunk, scan (some '"') chunk (t.flatMap write ++ '"' :: r) =
      scan none (chunk ++ (t.flatMap write ++ ['"'])) r := by
    induction t with
    | nil =>
      intro chunk
      rw [List.flatMap_nil, List.nil_append, List.nil_append,
        scan_char (fun h => absurd h (by decide)) (fun h => absurd h (by decide)), markAfter,
        if_pos rfl]
    | cons c t ih =>
      intro chunk
      rw [List.flatMap_cons, List.append_assoc, hwrite, ih, List.append_assoc, List.append_assoc]
  have hopen : markAfter none chunk '"' = some '"' := by simp [markAfter, hchunk, isOpeningQuote]
  have hquoted : Text.quotedBy write t ++ r = '"' :: (t.flatMap write ++ '"' :: r) := by
    simp [Text.quotedBy]
  rw [hquoted, scan_char (fun h => absurd h (by decide)) (fun h => absurd h (by decide)), hopen,
    hbody, List.append_assoc]
  rfl

/-! ### Marks of case -/

/-- What stands behind a quoted text: nothing, or a letter that says whether case counts. -/
inductive CaseMark where
  | none
  | sensitive
  | insensitive
deriving DecidableEq, Repr

namespace CaseMark

/-- The written form of a mark. -/
def text : CaseMark → Text
  | none => []
  | sensitive => ['s']
  | insensitive => ['i']

/-- Whether case counts; without a letter it does. -/
def isExact : CaseMark → Bool
  | insensitive => false
  | _ => true

theorem isAllPlain_text (m : CaseMark) : isAllPlain m.text = true := by
  cases m <;> decide

theorem isBlank_of_mem_text {m : CaseMark} {c : Char} (hc : c ∈ m.text) :
    Text.isBlank c = false := by
  cases m with
  | none => cases hc
  | sensitive =>
    obtain rfl := List.mem_singleton.1 hc
    decide
  | insensitive =>
    obtain rfl := List.mem_singleton.1 hc
    decide

end CaseMark

/-! ### Labels -/

/-- A named chunk with a quoted text in its body, and only plain characters around it, is a single chunk. -/
theorem isChunk_quotedBy (hwrite : IsGuarded write) (hname : Label.isName name = true)
    (htext : name ≠ Engine.text) (hpre : isAllPlain pre = true) (hpost : isAllPlain post = true)
    (t : Text) : IsChunk (name ++ '=' :: (pre ++ (Text.quotedBy write t ++ post))) none := by
  have hplain : isAllPlain (name ++ ['='] ++ pre) = true :=
    isAllPlain_append (isAllPlain_named hname) hpre
  have hchunk : isTextBody (name ++ ['='] ++ pre) = false := by
    rw [List.append_assoc]
    exact Label.isTextBody_of_ne (Label.not_mem_of_isName hname)
      (by rwa [Label.trim_of_isName hname]) pre
  have hscan := scan_plain isMark_none [] hplain (Text.quotedBy write t ++ post)
  rw [List.nil_append, scan_quotedBy hwrite hchunk, ← List.append_nil post,
    scan_plain isMark_none _ hpost, scan_nil] at hscan
  simpa [IsChunk] using hscan

/-- **A quoted text stays in its chunk**, and the label of the chunk has the whole body. -/
theorem labels_quotedBy (hwrite : IsGuarded write) (hname : Label.isName name = true)
    (hstar : name.head? ≠ some '*') (htext : name ≠ Engine.text) (hpre : isAllPlain pre = true)
    (hpost : isAllPlain post = true) (hend : ∀ r c, post = r ++ [c] → Text.isBlank c = false)
    (t : Text) :
    labels (name ++ '=' :: (pre ++ (Text.quotedBy write t ++ post))) =
      [⟨name, pre ++ (Text.quotedBy write t ++ post), false⟩] := by
  have hlast : ∀ r c, pre ++ (Text.quotedBy write t ++ post) = r ++ [c] →
      Text.isBlank c = false := by
    intro r c h
    rcases List.eq_nil_or_concat post with rfl | ⟨s, d, rfl⟩
    · rw [List.append_nil, Text.quotedBy, ← List.cons_append, ← List.append_assoc] at h
      rw [← (List.cons.inj (List.append_inj' h rfl).2).1]
      decide
    · rw [List.concat_eq_append] at h hend
      rw [← List.append_assoc, ← List.append_assoc] at h
      rw [← (List.cons.inj (List.append_inj' h rfl).2).1]
      exact hend s d rfl
  rw [labels_of_isChunk (isChunk_quotedBy hwrite hname htext hpre hpost t),
    Label.ofChunk_named hname hlast]
  rcases Label.ofName_cases name (pre ++ (Text.quotedBy write t ++ post)) with
    ⟨rest, hrest, -⟩ | ⟨-, h⟩
  · rw [hrest] at hstar
    exact absurd rfl hstar
  · rw [h]

/-- A single label of an engine that takes its body as it is, is read as a single part. -/
theorem Chain.ofText_of_labels {selector body : Text}
    (hlabels : SelectorCode.labels selector = [⟨name, body, false⟩])
    (hcss : name ≠ Engine.css) (hlight : name ≠ Engine.cssLight)
    (hnested : isNestedEngine name = false) :
    Chain.ofText selector = .ok ⟨[.ofText name body], none⟩ := by
  have hnone : Label.css? ⟨name, body, false⟩ = none := Label.css?_of_ne hcss hlight
  have hpart : readPart Chain.ofText selector [] ⟨name, body, false⟩ = .ok (.ofText name body) := by
    simp [readPart, hnone, hnested]
  rw [Chain.ofText_eq]
  refine readChain_eq_ok_iff.2 ⟨by rw [hlabels]; rfl, ?_, ?_⟩
  · rw [hlabels, readParts, hpart]
    rfl
  · simp [checkFirst, Part.ofText, hnested]

end SelectorCode
