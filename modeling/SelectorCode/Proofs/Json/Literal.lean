import SelectorCode.Json.Quoted

/-!
# Literals as JSON

A literal between double quotation marks is a JSON string. Each character is written in one of three ways, and each
of these is undone on its own, so the text is recovered character by character whatever follows it.

## Main Statements

* `escapeChar_double_cases`: the three ways to write a character.
* `quoted?_literal`: the body of a literal is read as its text.
-/

namespace SelectorCode

/-! ### Characters -/

/-- A character is written with a backslash and a letter, as the code of a control character, or as itself. -/
theorem escapeChar_double_cases (c : Char) :
    (∃ e, Text.escapeChar .double c = ['\\', e] ∧ e ≠ 'u' ∧ Json.escaped? e = some c) ∨
    (c.toNat < 0x20 ∧ Text.escapeChar .double c = Text.escapeCode c.toNat) ∨
    (Text.escapeChar .double c = [c] ∧ c ≠ '"' ∧ c ≠ '\\' ∧ 0x20 ≤ c.toNat) := by
  rcases Text.escapeChar_cases .double c with ⟨e, hmem, he, hread⟩ | hcontrol | hself
  · have hletters : ['"', '\\', 'n', 'r', 't', 'b', 'f'].all (fun e =>
        e ≠ 'u' ∧ Json.escaped? e = some (Text.unescapeChar e)) = true := by decide
    obtain ⟨hu, hjson⟩ := of_decide_eq_true (List.all_eq_true.1 hletters e hmem)
    exact Or.inl ⟨e, he, hu, hread ▸ hjson⟩
  · exact Or.inr (Or.inl hcontrol)
  · exact Or.inr (Or.inr hself)

namespace Json

/-- The two digits of a control character are its value. -/
theorem hexQuad?_escapeCode {n : Nat} (h : n < 0x20) :
    Text.hexQuad? '0' '0' (Text.hexDigit (n / 16)) (Text.hexDigit (n % 16)) = some n := by
  have hall : ∀ n < 0x20, Text.hexQuad? '0' '0' (Text.hexDigit (n / 16))
      (Text.hexDigit (n % 16)) = some n := by decide
  exact hall n h

/-- The value of a control character is not half of a pair, so it stands for itself before any piece. -/
theorem join_control {c : Char} (h : c.toNat < 0x20) (ps : List Piece) :
    join (.code c.toNat :: ps) = c :: join ps := by
  have hhigh : isHighHalf c.toNat = false := by
    rw [isHighHalf, Bool.and_eq_false_iff, decide_eq_false_iff_not]
    exact Or.inl (by omega)
  have hlow : isLowHalf c.toNat = false := by
    rw [isLowHalf, Bool.and_eq_false_iff, decide_eq_false_iff_not]
    exact Or.inl (by omega)
  have hcode : ofCode c.toNat = c := by
    rw [ofCode, hhigh, hlow]
    exact Char.ofNat_toNat c
  cases ps with
  | nil => simp [join, hcode]
  | cons p ps =>
    cases p with
    | char d => simp [join, hcode]
    | code m => rw [join, hhigh, hcode, Bool.false_and, if_neg Bool.false_ne_true]

/-- A written character is read as a piece that stands for it. -/
theorem exists_pieces?_escapeChar (c : Char) (r : Text) :
    ∃ p : Piece, pieces? (Text.escapeChar .double c ++ r) =
        (pieces? r).map (fun q => (p :: q.1, q.2)) ∧
      ∀ ps, join (p :: ps) = c :: join ps := by
  rcases escapeChar_double_cases c with ⟨e, he, hu, hread⟩ | ⟨hcontrol, he⟩ | ⟨he, hquote, hback, h⟩
  · -- the escape is one of a single letter, as this is not `u`
    refine ⟨.char c, ?_, fun ps => by rw [join]⟩
    rw [he, List.cons_append, List.singleton_append, pieces?]
    · rw [hread]
    · rintro _ _ _ _ _ rfl
      exact absurd rfl hu
  · refine ⟨.code c.toNat, ?_, join_control hcontrol⟩
    rw [he, Text.escapeCode]
    simp only [List.cons_append, List.nil_append]
    rw [pieces?, hexQuad?_escapeCode hcontrol]
  · -- the character ends nothing and begins nothing, so it is taken as it stands
    refine ⟨.char c, ?_, fun ps => by rw [join]⟩
    rw [he, List.singleton_append, pieces?]
    · rw [if_neg (Nat.not_lt.2 h)]
    · exact fun hc => hquote hc
    · intro _ _ _ _ _ hc
      exact absurd hc hback
    · intro _ _ hc
      exact absurd hc hback

/-! ### Texts -/

/-- **The body of a literal is read as its text**, up to the closing quotation mark. -/
theorem quoted?_literal (t r : Text) :
    quoted? (t.flatMap (Text.escapeChar .double) ++ '"' :: r) = some (t, r) := by
  have hpieces : ∃ ps, pieces? (t.flatMap (Text.escapeChar .double) ++ '"' :: r) = some (ps, r) ∧
      join ps = t := by
    induction t with
    | nil => exact ⟨[], by rw [List.flatMap_nil, List.nil_append, pieces?], by rw [join]⟩
    | cons c t ih =>
      obtain ⟨ps, hps, hjoin⟩ := ih
      obtain ⟨p, hp, hcons⟩ :=
        exists_pieces?_escapeChar c (t.flatMap (Text.escapeChar .double) ++ '"' :: r)
      refine ⟨p :: ps, ?_, by rw [hcons, hjoin]⟩
      rw [List.flatMap_cons, List.append_assoc, hp, hps]
      rfl
  obtain ⟨ps, hps, rfl⟩ := hpieces
  rw [quoted?, hps]
  rfl

end Json

end SelectorCode
