import SelectorCode.Proofs.Attribute.Reading
import SelectorCode.Proofs.Pattern.Refusal
import SelectorCode.TextMatch

/-!
# Why attribute selectors and text matches are refused

A condition goes wrong in its path, its operator, its value or its bracket, and all but the value are mistakes. A value
may be a pattern that exceeds a limit; and a number, which only the strict mode reads, has to be shown when it stands
behind an operator that compares texts, which an integer may be too long for.

## Main Definitions

* `Attribute.HoldsNumber`: numbers that are written in an attribute selector.
* `Attribute.Exceeds`: what an attribute selector holds when it is refused for something else than a mistake.
* `Attribute.Founded`: the causes that are mistakes or are borne out by the text.

## Main Statements

* `founded_of_readOperand`, `founded_of_readComparing`: a value and a comparison are refused with a reason in the text.
* `AttributeSelector.exceeds_of_ofText`: an attribute selector is refused for a mistake or because it exceeds a limit.
* `TextMatch.sourceExceeds_of_ofBody`: so is a text match.
-/

namespace SelectorCode

namespace Attribute

/-- A number written in a text, which only the strict mode reads as one. -/
def HoldsNumber (permissive : Bool) (t : Text) (n : Number) : Prop :=
  permissive = false ∧ ∃ word, word <:+: t ∧ numeral? word = some n

/-- What an attribute selector holds when it is refused for something else than a mistake: a pattern that exceeds a
limit or, in the strict mode, an integer that is too long to be shown. -/
inductive Exceeds (permissive : Bool) (t : Text) : ErrorKind → Prop
  | pattern {u source rest : Text} {k : ErrorKind} (slash : '/' :: u <:+ t)
      (read : readPatternSource false u = some (source, rest))
      (exceeds : Pattern.SourceExceeds source k) : Exceeds permissive t k
  | number {n : Int} (holds : HoldsNumber permissive t (.int n))
      (long : Number.isTooLong n = true) : Exceeds permissive t .invalidArgument

/-- The class of the errors that a cause gives rise to. -/
def Cause.kind (c : Cause) : ErrorKind :=
  (Error.mk [] c).kind

theorem Error.kind_eq (e : Error) : e.kind = e.cause.kind := rfl

/-- A cause that is a mistake, or for which the text holds the reason. -/
def Founded (permissive : Bool) (t : Text) (c : Cause) : Prop :=
  c.kind = .invalidSelector ∨ Exceeds permissive t c.kind

variable {permissive : Bool} {t u rest : Text} {c : Cause}

theorem HoldsNumber.mono {n : Number} (h : HoldsNumber permissive u n) (hu : u <:+: t) :
    HoldsNumber permissive t n := by
  obtain ⟨hstrict, word, hword, hn⟩ := h
  exact ⟨hstrict, word, hword.trans hu, hn⟩

theorem Exceeds.mono {k : ErrorKind} (h : Exceeds permissive u k) (hu : u <:+ t) :
    Exceeds permissive t k := by
  cases h with
  | pattern slash read exceeds => exact .pattern (slash.trans hu) read exceeds
  | number holds long => exact .number (holds.mono hu.isInfix) long

theorem Founded.mono (h : Founded permissive u c) (hu : u <:+ t) : Founded permissive t c :=
  h.imp_right (·.mono hu)

/-! ### Paths, operators and brackets -/

theorem kind_of_readWord (h : readWord t = .error c) : c.kind = .invalidSelector := by
  unfold readWord at h
  split at h
  · cases h
  · split at h
    · split at h
      · cases h
      · cases h
        rfl
    · cases h

theorem kind_of_readToken (h : readToken t = .error c) : c.kind = .invalidSelector := by
  unfold readToken at h
  split at h
  next e hword =>
    cases h
    exact kind_of_readWord hword
  · split at h
    · cases h
      rfl
    · cases h

theorem kind_of_readPath (h : readPath t = .error c) : c.kind = .invalidSelector := by
  fun_induction readPath t with
  | case1 t e htoken =>
    cases h
    exact kind_of_readToken htoken
  | case2 t token left htoken r hpoint e hpath ih =>
    cases h
    exact ih hpath
  | case3 => cases h
  | case4 => cases h

theorem kind_of_readComparison (h : readComparison t = .error c) : c.kind = .invalidSelector := by
  unfold readComparison at h
  split at h
  · cases h
    rfl
  · cases h
  · cases h
    rfl
  · split at h
    · cases h
    · cases h
      rfl

theorem kind_of_readClose (h : readClose t = .error c) : c.kind = .invalidSelector := by
  unfold readClose at h
  split at h
  · cases h
  · cases h
    rfl

/-! ### Values -/

theorem founded_of_readPattern (h : readPattern u = .error c) (hu : '/' :: u <:+ t) :
    Founded permissive t c := by
  unfold readPattern at h
  split at h
  · cases h
    exact Or.inl rfl
  next source rest hsource =>
    split at h
    next e he =>
      cases h
      rcases Pattern.sourceExceeds_of_ofSource he with hmistake | hexceeds
      · exact Or.inl hmistake
      · exact Or.inr (.pattern hu hsource hexceeds)
    · cases h

section

variable {word : Text} {n : Number} {o : Operand} {op : Comparison}

theorem kind_of_wordValue (h : wordValue permissive word rest = .error c) :
    c.kind = .invalidSelector := by
  unfold wordValue at h
  split_ifs at h
  split at h
  · cases h
  · cases h
    rfl

theorem kind_of_readUnquoted (h : readUnquoted permissive t = .error c) :
    c.kind = .invalidSelector := by
  unfold readUnquoted at h
  simp only at h
  split at h
  next e hvalue =>
    cases h
    exact kind_of_wordValue hvalue
  · cases h

theorem founded_of_readOperand (h : readOperand permissive op t = .error c) :
    Founded permissive t c := by
  have ht := trimStart_suffix t
  unfold readOperand at h
  split at h
  · exact Or.inl (kind_of_readUnquoted h)
  next d r hr =>
    have hsuffix : d :: r <:+ t := hr ▸ ht
    split at h
    next hslash =>
      split at h
      · cases h
        exact Or.inl rfl
      · split at h
        next e hpattern =>
          cases h
          exact founded_of_readPattern hpattern (hslash ▸ hsuffix)
        · cases h
    · split at h
      · split at h
        · cases h
          exact Or.inl rfl
        · cases h
      · exact Or.inl (kind_of_readUnquoted h)

/-- A number has been read in the strict mode from a word. -/
theorem holdsNumber_of_readUnquoted (h : readUnquoted permissive t = .ok (o, rest))
    (hnumber : o.value = .number n) : HoldsNumber permissive t n := by
  obtain ⟨-, hvalue, -⟩ := readUnquoted_eq_ok_iff.1 h
  rw [hnumber] at hvalue
  rcases wordValue_cases hvalue with ⟨b, hb⟩ | ⟨-, htext⟩ | ⟨m, hstrict, hnumeral, hm⟩
  · cases hb
  · cases htext
  · cases hm
    exact ⟨hstrict, _, (List.takeWhile_prefix _).isInfix, hnumeral⟩

theorem holdsNumber_of_readOperand (h : readOperand permissive op t = .ok (o, rest))
    (hnumber : o.value = .number n) : HoldsNumber permissive t n := by
  rcases readOperand_cases h with ⟨r, p, -, -, rfl⟩ | ⟨token, s, rfl⟩ | ⟨u, hsuffix, hu⟩
  · cases hnumber
  · cases hnumber
  · exact (holdsNumber_of_readUnquoted hu hnumber).mono hsuffix.isInfix

/-- A value is at fault behind its operator as a mistake, or as an integer that is too long to be shown. -/
theorem kind_valueOperator (op : Comparison) (v : Value) :
    (Cause.valueOperator op v).kind = .invalidSelector ∨
      (Cause.valueOperator op v).kind = .invalidArgument ∧
        ∃ n, v = .number (.int n) ∧ Number.isTooLong n = true := by
  by_cases hlong : v.isTooLong = true
  · refine Or.inr ⟨if_pos hlong, ?_⟩
    unfold Value.isTooLong at hlong
    split at hlong
    next n => exact ⟨n, rfl, hlong⟩
    · cases hlong
  · exact Or.inl (if_neg hlong)

end

/-! ### Conditions -/

theorem founded_of_readComparing (h : readComparing permissive t = .error c) :
    Founded permissive t c := by
  unfold readComparing at h
  split at h
  next hop =>
    cases h
    exact Or.inl (kind_of_readComparison hop)
  next op u hop =>
    have hu := readComparison_suffix hop
    split at h
    next hoperand =>
      cases h
      exact (founded_of_readOperand hoperand).mono hu
    next operand v hoperand =>
      split at h
      next hclose =>
        cases h
        exact Or.inl (kind_of_readClose hclose)
      · split at h
        · cases h
          refine (kind_valueOperator op operand.value).imp_right ?_
          rintro ⟨hkind, n, hvalue, hlong⟩
          have holds := (holdsNumber_of_readOperand hoperand hvalue).mono hu.isInfix
          exact hkind ▸ .number holds hlong
        · cases h

theorem founded_of_readTest (h : readTest permissive t = .error c) : Founded permissive t c := by
  unfold readTest at h
  split at h
  · cases h
  · exact founded_of_readComparing h

theorem founded_of_readCondition (h : readCondition permissive t = .error c) :
    Founded permissive t c := by
  unfold readCondition at h
  split at h
  next hpath =>
    cases h
    exact Or.inl (kind_of_readPath hpath)
  next path u hpath =>
    split at h
    next htest =>
      cases h
      exact (founded_of_readTest htest).mono (readPath_suffix hpath)
    · cases h

theorem founded_of_readConditions (h : readConditions permissive t = .error c) :
    Founded permissive t c := by
  fun_induction readConditions permissive t with
  | case1 t r hopen e hcondition =>
    cases h
    have hr : r <:+ t := (List.suffix_cons _ _).trans (hopen ▸ trimStart_suffix t)
    exact (founded_of_readCondition hcondition).mono hr
  | case2 t r hopen d left hcondition e hconditions ih =>
    cases h
    have hr : r <:+ t := (List.suffix_cons _ _).trans (hopen ▸ trimStart_suffix t)
    exact (ih hconditions).mono ((readCondition_suffix hcondition).trans hr)
  | case3 => cases h
  | case4 => cases h

end Attribute

open Attribute

/-- **An attribute selector is refused** for a mistake, or because it exceeds a limit. -/
theorem AttributeSelector.exceeds_of_ofText {permissive : Bool} {t : Text} {e : Attribute.Error}
    (h : AttributeSelector.ofText permissive t = .error e) :
    e.kind = .invalidSelector ∨ Attribute.Exceeds permissive t e.kind := by
  obtain ⟨c, hc, rfl⟩ := exists_of_mapError_eq_error h
  rw [Attribute.Error.kind_eq]
  unfold readSelector at hc
  split at hc
  next hconditions =>
    cases hc
    exact (founded_of_readConditions hconditions).mono (readIdentifier_suffix t)
  · split at hc
    · cases hc
      exact Or.inl rfl
    · split at hc
      · cases hc
        exact Or.inl rfl
      · cases hc

namespace TextMatch

/-- **A text match is refused** for a mistake, or because its pattern exceeds a limit. -/
theorem sourceExceeds_of_ofBody {body : Text} {e : Error} (h : ofBody body = .error e) :
    e.kind = .invalidSelector ∨
      ∃ source flags, slashed? body = some (source, flags) ∧ Pattern.SourceExceeds source e.kind := by
  unfold ofBody at h
  split at h
  next source flags hslashed =>
    split at h
    · cases h
    next pe he =>
      cases h
      rcases Pattern.sourceExceeds_of_ofSource he with hmistake | hexceeds
      · exact Or.inl hmistake
      · exact Or.inr ⟨source, flags, hslashed, hexceeds⟩
  · split at h
    · unfold ofQuoted at h
      have hunquote := eq_error_of_map_eq_error h
      unfold unquote at hunquote
      split at hunquote
      · cases hunquote
      · cases hunquote
        exact Or.inl rfl
    · cases h

end TextMatch

end SelectorCode
