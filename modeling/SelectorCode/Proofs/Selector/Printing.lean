import SelectorCode.Proofs.Selector.Label

/-!
# Printed labels

A part is printed from its engine, the source of its body and its star, which is to say from its label in the form
that the part gives it. Printing with the engine is always undone by labelling; printing without it is undone when
the body shows the engine again.

## Main Definitions

* `Label.normal`: a label with the engine and the body of its part.
* `Label.Printable`: what the normal labels of chunks have in common.
* `Label.fullName`: the engine with the star.
* `Label.text`: the printed form of a label.
* `Label.isBare`: the labels that are printed without their engine unless every engine is wanted.
* `Label.Shows`: the bodies that show their engine.

## Main Statements

* `printable_normal_ofChunk`: the normal labels of chunks are printable.
* `normal_ofChunk_text_iff`: when a printed label is read back.
* `count_normal_ofChunk`, `count_text`: labelling and printing keep the separators.
-/

namespace SelectorCode

namespace Label

/-- A label with the engine and the body of its part: `css:light` stands for `css` with a body that says so. -/
def normal (l : Label) : Label :=
  match l.css? with
  | some body => ⟨Engine.css, body, l.captured⟩
  | none => l

/-- The body that `css:light` stands for. -/
def lightBody (body : Text) : Text :=
  ":light(".toList ++ body ++ [')']

/-- Only the engine `css:light` is replaced. -/
theorem normal_cases (l : Label) :
    (l.name = Engine.cssLight ∧ l.normal = ⟨Engine.css, lightBody l.body, l.captured⟩) ∨
    (l.name ≠ Engine.cssLight ∧ l.normal = l) := by
  by_cases hlight : l.name = Engine.cssLight
  · refine Or.inl ⟨hlight, ?_⟩
    have hcss : l.css? = some (lightBody l.body) := by
      rw [css?, if_neg, if_pos hlight]
      · rfl
      · rw [hlight]
        decide
    rw [normal, hcss]
  · refine Or.inr ⟨hlight, ?_⟩
    by_cases hcss : l.name = Engine.css
    · obtain ⟨name, body, captured⟩ := l
      cases hcss
      rfl
    · rw [normal, css?, if_neg hcss, if_neg hlight]

@[simp]
theorem captured_normal (l : Label) : l.normal.captured = l.captured := by
  rcases normal_cases l with ⟨-, h⟩ | ⟨-, h⟩ <;> rw [h]

/-! ### Printable labels -/

/-- What the normal labels of chunks have in common. -/
structure Printable (l : Label) : Prop where
  /-- The engine is written in the characters of a name. -/
  isNameChar_of_mem : ∀ c ∈ l.name, isNameChar c = true
  /-- Without a star in front, the engine is a name of its own. -/
  ne_of_not_captured : l.captured = false → l.name ≠ [] ∧ ∀ r, l.name ≠ '*' :: r
  /-- The body does not end with a blank. -/
  isBlank_of_concat : ∀ r c, l.body = r ++ [c] → Text.isBlank c = false
  /-- The engine is not one that stands for another. -/
  ne_cssLight : l.name ≠ Engine.cssLight

theorem isNameChar_of_mem_impliedEngine {body : Text} :
    ∀ c ∈ impliedEngine body, isNameChar c = true := by
  refine List.all_eq_true.1 ?_
  unfold impliedEngine
  split
  · decide
  · split <;> decide

theorem impliedEngine_ne (body : Text) :
    (impliedEngine body ≠ [] ∧ ∀ r, impliedEngine body ≠ '*' :: r) ∧
      impliedEngine body ≠ Engine.cssLight := by
  have hfirst : ∀ name : Text, name.head? ≠ some '*' → ∀ r, name ≠ '*' :: r := by
    rintro _ h r rfl
    exact h rfl
  unfold impliedEngine
  split
  · exact ⟨⟨by decide, hfirst _ (by decide)⟩, by decide⟩
  · split
    · exact ⟨⟨by decide, hfirst _ (by decide)⟩, by decide⟩
    · exact ⟨⟨by decide, hfirst _ (by decide)⟩, by decide⟩

/-- The label of a named chunk before `css:light` is replaced. -/
theorem printable_ofName {name body : Text} (hname : isName name = true)
    (hbody : ∀ r c, body = r ++ [c] → Text.isBlank c = false)
    (hlight : (ofName name body).name ≠ Engine.cssLight) : (ofName name body).Printable := by
  have hchar := fun c => isNameChar_of_mem hname (c := c)
  rcases ofName_cases name body with ⟨rest, rfl, h⟩ | ⟨hstar, h⟩
  · rw [h] at hlight ⊢
    exact ⟨fun c hc => hchar c (List.mem_cons_of_mem _ hc), fun hc => Bool.noConfusion hc, hbody,
      hlight⟩
  · rw [h] at hlight ⊢
    exact ⟨hchar, fun _ => ⟨ne_nil_of_isName hname, hstar⟩, hbody, hlight⟩

/-- The normal labels of chunks are printable. -/
theorem printable_normal_ofChunk (t : Text) : (ofChunk t).normal.Printable := by
  rcases ofChunk_cases t with ⟨n, name, body, ht, -, -, hname, h⟩ | ⟨-, h⟩
  · -- the body ends where the trimmed chunk does
    have hbody : ∀ r c, body = r ++ [c] → Text.isBlank c = false := by
      rintro r c rfl
      refine Text.isBlank_last_trim (t := t) (r := n ++ '=' :: r) ?_
      rw [ht, List.append_assoc, List.cons_append]
    rw [h]
    rcases normal_cases (ofName name body) with ⟨-, hn⟩ | ⟨hlight, hn⟩
    · rw [hn]
      have hcss : ∀ c ∈ Engine.css, isNameChar c = true := List.all_eq_true.1 (by decide)
      refine ⟨hcss, fun _ => ⟨?_, ?_⟩, ?_, (by decide : Engine.css ≠ Engine.cssLight)⟩
      · exact List.cons_ne_nil _ _
      · intro r hr
        exact absurd (List.cons.inj hr).1 (by decide)
      · intro r c hc
        rw [← (List.cons.inj (List.append_inj' hc rfl).2).1]
        decide
    · rw [hn]
      exact printable_ofName hname hbody hlight
  · obtain ⟨hne, hlight⟩ := impliedEngine_ne (Text.trim t)
    rcases normal_cases (ofChunk t) with ⟨hl, -⟩ | ⟨-, hn⟩
    · rw [h] at hl
      exact absurd hl hlight
    · rw [hn, h]
      exact ⟨isNameChar_of_mem_impliedEngine, fun _ => hne, fun _ _ => Text.isBlank_last_trim,
        hlight⟩

/-! ### Printing with the engine -/

/-- The engine with the star of a captured part. -/
def fullName (l : Label) : Text :=
  if l.captured then '*' :: l.name else l.name

/-- The printed form of a label, with the engine when it is wanted or not implied. -/
def text (explicit : Bool) (l : Label) : Text :=
  if l.captured then (Part.ofText l.name l.body).capturedText
  else (Part.ofText l.name l.body).text explicit

/-- The labels that are printed without their engine unless every engine is wanted. -/
def isBare (l : Label) : Bool :=
  !l.captured && (Part.ofText l.name l.body).impliesEngine

theorem text_eq (explicit : Bool) (l : Label) :
    l.text explicit =
      if explicit || !l.isBare then l.fullName ++ '=' :: l.body else l.body := by
  obtain ⟨name, body, captured⟩ := l
  cases captured <;> cases explicit <;> rfl

theorem isNameChar_of_mem_fullName {l : Label} (h : l.Printable) {c : Char}
    (hc : c ∈ l.fullName) : isNameChar c = true := by
  unfold fullName at hc
  split at hc
  · rcases List.mem_cons.1 hc with rfl | hc
    · decide
    · exact h.isNameChar_of_mem c hc
  · exact h.isNameChar_of_mem c hc

theorem isName_fullName {l : Label} (h : l.Printable) : isName l.fullName = true := by
  have hall : l.fullName.all isNameChar = true :=
    List.all_eq_true.2 fun c hc => isNameChar_of_mem_fullName h hc
  have hne : l.fullName ≠ [] := by
    unfold fullName
    split
    · exact List.cons_ne_nil _ _
    next hc => exact (h.ne_of_not_captured (by simpa using hc)).1
  simp [isName, hall, hne]

theorem ofName_fullName {l : Label} (h : l.Printable) : ofName l.fullName l.body = l := by
  obtain ⟨name, body, captured⟩ := l
  cases captured with
  | true => rfl
  | false =>
    rcases ofName_cases name body with ⟨rest, hname, -⟩ | ⟨-, hn⟩
    · exact absurd hname ((h.ne_of_not_captured rfl).2 rest)
    · exact hn

theorem normal_of_printable {l : Label} (h : l.Printable) : l.normal = l := by
  rcases normal_cases l with ⟨hl, -⟩ | ⟨-, hn⟩
  · exact absurd hl h.ne_cssLight
  · exact hn

/-- **A printed engine is read back**, with its body and its star. -/
theorem normal_ofChunk_named {l : Label} (h : l.Printable) :
    (ofChunk (l.fullName ++ '=' :: l.body)).normal = l := by
  rw [ofChunk_named (isName_fullName h) h.isBlank_of_concat, ofName_fullName h,
    normal_of_printable h]

/-! ### Printing without the engine -/

/-- The bodies that are read as bodies of `engine` on their own: they begin with no blank, name no engine, and have the
look of this one. -/
def Shows (engine body : Text) : Prop :=
  Text.trim body = body ∧ named? body = none ∧ impliedEngine body = engine

instance (engine body : Text) : Decidable (Shows engine body) :=
  inferInstanceAs (Decidable (_ ∧ _ ∧ _))

/-- A body that shows its engine is read back without it. -/
theorem ofChunk_of_shows {engine body : Text} (h : Shows engine body) :
    ofChunk body = ⟨engine, body, false⟩ := by
  obtain ⟨htrim, hnone, hengine⟩ := h
  rcases ofChunk_cases body with ⟨n, name, x, ht, hn, hname, hisName, -⟩ | ⟨-, hchunk⟩
  · rw [← htrim, ht, named?_append hn, hname, if_pos hisName] at hnone
    cases hnone
  · rw [hchunk, htrim, hengine]

/-- A text that begins with a character of no name names no engine. -/
theorem named?_cons {c : Char} (hname : isNameChar c = false) (hblank : Text.isBlank c = false)
    (hequals : c ≠ '=') (r : Text) : named? (c :: r) = none := by
  rcases exists_first_equals (c :: r) with h | ⟨n, body, h, hn⟩
  · exact named?_of_not_mem h
  · rw [h, named?_append hn, if_neg]
    intro hisName
    cases n with
    | nil => exact hequals (List.cons.inj h).1
    | cons d n =>
      refine not_mem_of_isName_trim hisName hname hblank ?_
      rw [(List.cons.inj h).1]
      exact List.mem_cons_self

theorem length_ofName_le (name body : Text) : (ofName name body).name.length ≤ name.length := by
  rcases ofName_cases name body with ⟨rest, rfl, h⟩ | ⟨-, h⟩
  · rw [h]
    exact Nat.le_succ _
  · exact Nat.le_of_eq (congrArg (fun l : Label => l.name.length) h)

theorem length_lightBody (body : Text) : (lightBody body).length = body.length + 8 := by
  have hopen : List.length ":light(".toList = 7 := by decide
  unfold lightBody
  rw [List.length_append, List.length_append, hopen, List.length_singleton]
  omega

/-- A name is no longer than what it was trimmed from, and `css:light` is longer than what it is replaced by. -/
theorem normal_ofName_ne {n name x body : Text} (hn : Text.trim n = name)
    (ht : Text.trim body = n ++ '=' :: x) (captured : Bool) :
    (ofName name x).normal ≠ ⟨Engine.css, body, captured⟩ := by
  intro h
  have hlen := Text.length_trim_le body
  have hname := Text.length_trim_le n
  rw [ht, List.length_append, List.length_cons] at hlen
  rcases normal_cases (ofName name x) with ⟨hlight, hnormal⟩ | ⟨-, hnormal⟩
  · -- the engine has nine characters, and the body has gained only eight
    rw [hnormal, body_ofName] at h
    have hbody := congrArg List.length (Label.mk.inj h).2.1
    have hlight : Engine.cssLight.length ≤ name.length := by
      rw [← hlight]
      exact length_ofName_le name x
    have hlightLen : Engine.cssLight.length = 9 := by decide
    rw [length_lightBody] at hbody
    rw [hn] at hname
    omega
  · -- the body is part of the chunk, which has an equals sign besides
    rw [hnormal] at h
    have hx : x = body := by
      rw [← body_ofName name x, h]
    rw [hx] at hlen
    omega

/-- **A style-sheet selector without its engine is read back** exactly if it shows its engine. -/
theorem normal_ofChunk_css_iff {body : Text} :
    (ofChunk body).normal = ⟨Engine.css, body, false⟩ ↔ Shows Engine.css body := by
  constructor
  · intro h
    rcases ofChunk_cases body with ⟨n, name, x, ht, -, hn, -, hchunk⟩ | ⟨hnone, hchunk⟩
    · rw [hchunk] at h
      exact absurd h (normal_ofName_ne hn ht false)
    · rw [hchunk] at h
      rcases normal_cases ⟨impliedEngine (Text.trim body), Text.trim body, false⟩ with
        ⟨hlight, -⟩ | ⟨-, hnormal⟩
      · exact absurd hlight (impliedEngine_ne _).2
      · rw [hnormal] at h
        obtain ⟨hengine, htrim, -⟩ := Label.mk.inj h
        rw [htrim] at hengine hnone
        exact ⟨htrim, hnone, hengine⟩
  · intro h
    rw [ofChunk_of_shows h]
    rfl

/-- A path that begins like one shows its engine. -/
theorem shows_of_path {body r : Text} (hlast : ∀ r c, body = r ++ [c] → Text.isBlank c = false)
    (h : body = '/' :: '/' :: r ∨ body = '.' :: '.' :: r) : Shows Engine.xpath body := by
  have htrim : Text.trim body = body := by
    refine Text.trim_eq_self (fun c s hc => ?_) hlast
    rcases h with hb | hb <;> rw [hb] at hc <;> rw [← (List.cons.inj hc).1] <;> decide
  refine ⟨htrim, ?_⟩
  rcases h with rfl | rfl
  · refine ⟨named?_cons (by decide) (by decide) (by decide) _, ?_⟩
    simp [impliedEngine, isEnclosed, looksLikePath, Text.startsWith, Text.stripPrefix?]
  · refine ⟨named?_cons (by decide) (by decide) (by decide) _, ?_⟩
    simp [impliedEngine, isEnclosed, looksLikePath, Text.startsWith, Text.stripPrefix?]

/-- What is printed without its engine is a style-sheet selector, or a path that shows its engine. -/
theorem isBare_cases {l : Label} (hl : l.Printable) (h : l.isBare = true) :
    l.captured = false ∧
      (l.name = Engine.css ∨ (l.name = Engine.xpath ∧ Shows Engine.xpath l.body)) := by
  obtain ⟨name, body, captured⟩ := l
  simp only [isBare, Part.impliesEngine, Part.ofText, Bool.and_eq_true, Bool.not_eq_true',
    Bool.or_eq_true, Text.startsWith, Option.isSome_iff_exists] at h ⊢
  refine ⟨h.1, ?_⟩
  rcases h.2 with hcss | ⟨hxpath, ⟨r, hr⟩ | ⟨r, hr⟩⟩
  · exact Or.inl (of_decide_eq_true hcss)
  · exact Or.inr ⟨of_decide_eq_true hxpath, shows_of_path hl.isBlank_of_concat
      (Or.inl (Text.stripPrefix?_eq_some_iff.1 hr))⟩
  · exact Or.inr ⟨of_decide_eq_true hxpath, shows_of_path hl.isBlank_of_concat
      (Or.inr (Text.stripPrefix?_eq_some_iff.1 hr))⟩

/-- **A printed label is read back** with or without its engine, unless it is a style-sheet selector that is printed
without its engine and does not show it. -/
theorem normal_ofChunk_text_iff {l : Label} (hl : l.Printable) (explicit : Bool) :
    (ofChunk (l.text explicit)).normal = l ↔
      (explicit = false → l.name = Engine.css → l.captured = false → Shows Engine.css l.body) := by
  rw [text_eq]
  split
  next hnamed =>
    refine ⟨fun _ hexplicit hcss hcaptured => ?_, fun _ => normal_ofChunk_named hl⟩
    simp [hexplicit, isBare, Part.impliesEngine, Part.ofText, hcss, hcaptured] at hnamed
  next hbare =>
    simp only [Bool.or_eq_true, Bool.not_eq_true', not_or, Bool.not_eq_true,
      Bool.not_eq_false] at hbare
    obtain ⟨name, body, captured⟩ := l
    obtain ⟨rfl, hcss | ⟨rfl, hshows⟩⟩ := isBare_cases hl hbare.2
    · simp only at hcss ⊢
      subst hcss
      rw [normal_ofChunk_css_iff]
      exact ⟨fun h _ _ _ => h, fun h => h hbare.1 rfl trivial⟩
    · refine ⟨fun _ _ hcss => absurd hcss (by decide : Engine.xpath ≠ Engine.css), fun _ => ?_⟩
      rw [ofChunk_of_shows hshows]
      rfl

/-! ### Counting separators -/

theorem count_lightBody (body : Text) : (lightBody body).count '>' = body.count '>' := by
  have hopen : List.count '>' ":light(".toList = 0 := by decide
  have hclose : List.count '>' [')'] = 0 := by decide
  unfold lightBody
  rw [List.count_append, List.count_append, hopen, hclose]
  omega

/-- Labelling a chunk keeps the marks that may separate: they all go into the body. -/
theorem count_normal_ofChunk (t : Text) : (ofChunk t).normal.body.count '>' = t.count '>' := by
  rw [← Text.count_trim (c := '>') (by decide) t]
  have hbody : (ofChunk t).body.count '>' = (Text.trim t).count '>' := by
    rcases ofChunk_cases t with ⟨n, name, body, ht, -, hn, hname, h⟩ | ⟨-, h⟩
    · have hcount : n.count '>' = 0 :=
        List.count_eq_zero.2 (not_mem_of_isName_trim (hn ▸ hname) (by decide) (by decide))
      rw [h, body_ofName, ht, List.count_append, hcount, List.count_cons]
      simp
    · rw [h]
  rcases normal_cases (ofChunk t) with ⟨-, hn⟩ | ⟨-, hn⟩
  · rw [hn, count_lightBody, hbody]
  · rw [hn, hbody]

/-- Printing adds no mark that may separate. -/
theorem count_text {l : Label} (h : l.Printable) (explicit : Bool) :
    (l.text explicit).count '>' = l.body.count '>' := by
  have hcount : l.fullName.count '>' = 0 := by
    refine List.count_eq_zero.2 fun hmem => ?_
    exact absurd (isNameChar_of_mem_fullName h hmem) (by decide)
  rw [text_eq]
  split
  · rw [List.count_append, hcount, List.count_cons]
    simp
  · rfl

end Label

end SelectorCode
