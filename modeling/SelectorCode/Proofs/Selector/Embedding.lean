import SelectorCode.Proofs.Selector.Quoted

/-!
# Embedding a selector in another

The body of a nested engine is a selector as a JSON string, and the string stands in a selector that is scanned for
quotation marks and separators of its own. Both readers escape alike: what the literal escapes is skipped by the scan,
and the mark that closes the literal is the first one that the scan sees.

## Main Statements

* `labels_nested`: a nested engine with a literal is a single chunk with this label.
* `NestedBody.ofText?_literal`: the body that a literal holds.
* `Chain.ofText_embed`: a selector survives being embedded.
-/

namespace SelectorCode

/-! ### Nested engines -/

/-- What the scan and the labels need to know about the names of nested engines. -/
theorem nested_names : ∀ name ∈ Engine.nested,
    Label.isName name = true ∧ name.head? ≠ some '*' ∧
      name ≠ Engine.text ∧ name ≠ Engine.css ∧ name ≠ Engine.cssLight := by
  decide

variable {outer inner name : Text} {a x : Chain}

/-- A nested engine with a literal is a single chunk, with this engine and the literal as its body. -/
theorem labels_nested (hname : name ∈ Engine.nested) (t : Text) :
    labels (name ++ '=' :: Text.literal .double t) = [⟨name, Text.literal .double t, false⟩] := by
  obtain ⟨hisName, hstar, htext, -, -⟩ := nested_names name hname
  have hend : ∀ r c, [] = r ++ [c] → Text.isBlank c = false := fun r c h => by simp at h
  have hlabels : labels (name ++ '=' :: ([] ++ (Text.quotedBy (Text.escapeChar .double) t ++ []))) =
      [⟨name, [] ++ (Text.quotedBy (Text.escapeChar .double) t ++ []), false⟩] :=
    labels_quotedBy isGuarded_escapeChar hisName hstar htext rfl rfl hend t
  rwa [List.append_nil, List.nil_append, ← Text.literal_double] at hlabels

/-- A literal holds its text and no distance. -/
theorem NestedBody.ofText?_literal (t : Text) :
    NestedBody.ofText? (Text.literal .double t) = some ⟨t, none⟩ := by
  have hliteral : Text.literal .double t =
      '"' :: (t.flatMap (Text.escapeChar .double) ++ '"' :: []) := rfl
  have hspaces : Json.skipSpaces (Text.literal .double t) =
      '"' :: (t.flatMap (Text.escapeChar .double) ++ '"' :: []) := by
    rw [hliteral, Json.skipSpaces, List.dropWhile_cons_of_neg (by decide)]
  simp only [NestedBody.ofText?, hspaces, Json.quoted?_literal]
  rfl

/-- The part of a nested engine with a literal. -/
theorem readPart_literal {selector : Text} (hx : Chain.ofText inner = .ok x)
    (hname : name ∈ Engine.nested) (preceding : List Part) :
    readPart Chain.ofText selector preceding ⟨name, Text.literal .double inner, false⟩ =
      .ok ⟨name, .nested (withoutSharedFrames preceding x) none, Text.literal .double inner⟩ := by
  obtain ⟨-, -, -, hcss, hlight⟩ := nested_names name hname
  have hnone : Label.css? ⟨name, Text.literal .double inner, false⟩ = none :=
    Label.css?_of_ne hcss hlight
  have hnested : isNestedEngine name = true := List.contains_iff_mem.2 hname
  have hbody : NestedBody.ofBody? name (Text.literal .double inner) = some ⟨inner, none⟩ := by
    rw [NestedBody.ofBody?, NestedBody.ofText?_literal]
    rfl
  have hread : readNested Chain.ofText name (Text.literal .double inner) preceding =
      .ok ⟨name, .nested (withoutSharedFrames preceding x) none, Text.literal .double inner⟩ := by
    simp only [readNested, hbody, hx]
    rfl
  simp only [readPart, hnone, hnested, if_true]
  exact hread

/-- The part of a nested engine with a literal that enters no frames. -/
theorem readPart_nested {selector : Text} (hx : Chain.ofText inner = .ok x)
    (hframe : ∀ p ∈ x.parts, p.isEnterFrame = false) (hname : name ∈ Engine.nested)
    (preceding : List Part) :
    readPart Chain.ofText selector preceding ⟨name, Text.literal .double inner, false⟩ =
      .ok ⟨name, .nested x none, Text.literal .double inner⟩ := by
  rw [readPart_literal hx hname, withoutSharedFrames_of_no_frame preceding hframe]

/-! ### The chain -/

/-- **A selector survives being embedded.** Written as the literal of a nested engine behind any selector whose
quotation marks are closed, it is read as one more part, which holds its chain. -/
theorem Chain.ofText_embed (houter : Chain.ofText outer = .ok a)
    (hclosed : (scan none [] outer).2 = none) (hinner : Chain.ofText inner = .ok x)
    (hframe : ∀ p ∈ x.parts, p.isEnterFrame = false) (hname : name ∈ Engine.nested) :
    Chain.ofText (outer ++ separator ++ name ++ '=' :: Text.literal .double inner) =
      .ok ⟨a.parts ++ [⟨name, .nested x none, Text.literal .double inner⟩], a.capture⟩ := by
  have hlabels : SelectorCode.labels (outer ++ separator ++ name ++ '=' ::
      Text.literal .double inner) = SelectorCode.labels outer ++ [⟨name, Text.literal .double inner, false⟩] := by
    rw [List.append_assoc, List.append_assoc, labels_append hclosed, labels_nested hname]
  rw [Chain.ofText_eq] at houter ⊢
  obtain ⟨hcapture, hparts, hfirst⟩ := readChain_eq_ok_iff.1 houter
  refine readChain_eq_ok_iff.2 ⟨?_, ?_, ?_⟩
  · rw [hlabels, captureOf, capturedIndices_append]
    simpa [capturedIndices, captureOf] using hcapture
  · rw [hlabels, readParts_append (readParts_selector hparts), readParts,
      readPart_nested hinner hframe hname]
    rfl
  · obtain ⟨ps, hps, hkeys⟩ := exists_of_readParts hparts
    rw [List.nil_append] at hps
    cases hcons : a.parts with
    | nil =>
      -- a selector has at least one label, and so its chain at least one part
      rw [← hps, hcons, labels_eq_scan] at hkeys
      exact absurd (List.map_eq_nil_iff.1 (List.map_eq_nil_iff.1 hkeys.symm))
        (scan_ne_nil none [] outer)
    | cons p ps =>
      rw [hcons, checkFirst] at hfirst
      rw [List.cons_append, checkFirst]
      split at hfirst
      · cases hfirst
      next hnested => rw [if_neg hnested]

/-- A selector with quotation marks and a separator between them survives. -/
theorem Chain.ofText_embed_quoted :
    Chain.ofText ("div".toList ++ separator ++ Engine.has ++ '=' ::
        Text.literal .double "[id=\"a >> b\"] >> nth=0".toList) =
      .ok ⟨[.ofText Engine.css "div".toList,
        ⟨Engine.has, .nested ⟨[.ofText Engine.css "[id=\"a >> b\"]".toList,
          .ofText Engine.nth "0".toList], none⟩ none,
          "\"[id=\\\"a >> b\\\"] >> nth=0\"".toList⟩], none⟩ := by
  have houter : Chain.ofText "div".toList = .ok ⟨[.ofText Engine.css "div".toList], none⟩ := by
    rw [Chain.ofText_eq]
    rfl
  have hinner : Chain.ofText "[id=\"a >> b\"] >> nth=0".toList =
      .ok ⟨[.ofText Engine.css "[id=\"a >> b\"]".toList, .ofText Engine.nth "0".toList], none⟩ := by
    rw [Chain.ofText_eq]
    rfl
  have hframe : ∀ p ∈ [Part.ofText Engine.css "[id=\"a >> b\"]".toList,
      .ofText Engine.nth "0".toList], p.isEnterFrame = false := by decide
  exact Chain.ofText_embed houter (by decide) hinner hframe (by decide)

end SelectorCode
