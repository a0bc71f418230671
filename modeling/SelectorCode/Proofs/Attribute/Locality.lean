import Mathlib.Data.List.TakeWhile
import SelectorCode.Proofs.Attribute.LocalReader

/-!
# Locality of the readers of attributes

No reader of attribute selectors looks behind the first character that it leaves; a recursion is local because it is on
shorter texts. An unexpected symbol is the first character that is left, so an error that blames one is the same for all
texts that agree up to it.

## Main Definitions

* `readMore`, `readSecond`, `readPatternOperand`, `readQuotedOperand`, `readClosing`: the parts of readers behind a first
  character.
* `Error.symbol?`: the symbol that an error blames, with its position and the stage.

## Main Statements

* `exists_append_of_readQuoted`, `isLocalAt_readPattern`: quoted texts and patterns.
* `isLocalAt_readPath`, `isLocalAt_readOperand`, `isLocalAt_readConditions`: the readers are local.
* `AttributeSelector.unexpectedSymbol_local`: an error that blames a symbol depends on the text up to that symbol.
-/

namespace SelectorCode

namespace Attribute

variable {t w r : Text} {c : Char}

/-! ### Quoted texts and patterns -/

/-- A quoted text is read whatever follows its closing quotation mark. -/
theorem exists_append_of_readQuoted {quote : Char} {token rest : Text} (hquote : quote ≠ '\\')
    (h : readQuoted quote t = some (token, rest)) :
    ∃ u, t = u ++ rest ∧ ∀ s, readQuoted quote (u ++ s) = some (token, s) := by
  fun_induction readQuoted quote t generalizing token rest with
  | case1 => cases h
  | case2 c r ih =>
    obtain ⟨p, hp, heq⟩ := Option.map_eq_some_iff.1 h
    cases heq
    obtain ⟨u, rfl, hu⟩ := ih hp
    refine ⟨'\\' :: c :: u, rfl, fun s => ?_⟩
    rw [List.cons_append, List.cons_append, readQuoted, hu]
    rfl
  | case3 r _ =>
    cases h
    refine ⟨[quote], rfl, fun s => ?_⟩
    rw [List.singleton_append, readQuoted, if_pos rfl]
    exact fun _ _ hback => absurd hback hquote
  | case4 c r hpair hne ih =>
    obtain ⟨p, hp, heq⟩ := Option.map_eq_some_iff.1 h
    cases heq
    -- a backslash would be the last character, and nothing is read behind it
    have hback : c ≠ '\\' := by
      rintro rfl
      cases r with
      | nil => cases hp
      | cons d r => exact hpair d r rfl rfl
    obtain ⟨u, rfl, hu⟩ := ih hp
    refine ⟨c :: u, rfl, fun s => ?_⟩
    rw [List.cons_append, readQuoted, if_neg hne, hu]
    · rfl
    · exact fun _ _ hc => absurd hc hback

/-- The source of a pattern is read whatever follows its closing slash. -/
theorem exists_append_of_readPatternSource {inClass : Bool} {source rest : Text}
    (h : readPatternSource inClass t = some (source, rest)) :
    ∃ u, t = u ++ rest ∧ ∀ s, readPatternSource inClass (u ++ s) = some (source, s) := by
  fun_induction readPatternSource inClass t generalizing source rest with
  | case1 => cases h
  | case2 inClass c r ih =>
    obtain ⟨p, hp, heq⟩ := Option.map_eq_some_iff.1 h
    cases heq
    obtain ⟨u, rfl, hu⟩ := ih hp
    refine ⟨'\\' :: c :: u, rfl, fun s => ?_⟩
    rw [List.cons_append, List.cons_append, readPatternSource, hu]
    rfl
  | case3 inClass c r hpair hslash =>
    cases h
    refine ⟨[c], rfl, fun s => ?_⟩
    rw [List.singleton_append, readPatternSource, if_pos hslash]
    rintro _ _ rfl
    exact absurd hslash.1 (by decide)
  | case4 inClass c r hpair hslash ih =>
    obtain ⟨p, hp, heq⟩ := Option.map_eq_some_iff.1 h
    cases heq
    have hback : c ≠ '\\' := by
      rintro rfl
      cases r with
      | nil => cases hp
      | cons d r => exact hpair d r rfl rfl
    obtain ⟨u, rfl, hu⟩ := ih hp
    refine ⟨c :: u, rfl, fun s => ?_⟩
    rw [List.cons_append, readPatternSource, if_neg hslash, hu]
    · rfl
    · exact fun _ _ hc => absurd hc hback

/-- A pattern ends before the first character that is no flag. -/
theorem isLocalAt_readPattern (t : Text) : IsLocalAt readPattern t := by
  have heq : readPattern = Attribute.andThen
      (readClosed (readPatternSource false) .regularExpression) fun source =>
        Attribute.andThen (readWhile isPatternFlag) fun flags rest =>
          ((Pattern.ofSource source flags).mapError .pattern).map (·, rest) := by
    funext t
    unfold readPattern Attribute.andThen readClosed
    cases readPatternSource false t with
    | none => rfl
    | some p =>
      simp only [readWhile]
      cases Pattern.ofSource p.1 (p.2.takeWhile isPatternFlag) <;> rfl
  rw [heq]
  refine (isLocalAt_readClosed _ fun _ _ => exists_append_of_readPatternSource).andThen
    fun source rest _ => (isLocalAt_readWhile _ _).andThen fun flags rest' _ => ?_
  cases Pattern.ofSource source flags with
  | error e => exact isLocalAt_of_left? (.inl rfl)
  | ok p => exact isLocalAt_ok p rest'

/-! ### Property paths -/

theorem isLocalAt_readIdentifier (t : Text) : IsLocalAt (fun t => .ok (readIdentifier t)) t :=
  (isLocalAt_readWhile Text.isBlank t).andThen fun _ rest _ => isLocalAt_readWhile isNameChar rest

theorem isLocalAt_readWord (t : Text) : IsLocalAt readWord t := by
  refine .of_trimmed (fun s => by rw [readWord, readWord, trimStart_trimStart])
    (isLocalAt_of_left? (.inr rfl)) fun c r hc _ => ?_
  have hread : ∀ s, readWord (c :: s) =
      if c = '"' ∨ c = '\x27' then readClosed (readQuoted c) .quotedString s
      else .ok (readIdentifier (c :: s)) := by
    intro s
    rw [readWord, Text.trimStart_cons hc]
    simp only [readClosed]
    split
    · cases readQuoted c s <;> rfl
    · rfl
  by_cases hquote : c = '"' ∨ c = '\x27'
  · have hback : c ≠ '\\' := by rcases hquote with rfl | rfl <;> decide
    exact (isLocalAt_readClosed .quotedString fun _ _ => exists_append_of_readQuoted hback).cons
      fun s => by rw [hread, if_pos hquote]
  · exact (isLocalAt_readIdentifier (c :: r)).congr fun s => by rw [hread, if_neg hquote]

theorem isLocalAt_readToken (t : Text) : IsLocalAt readToken t := by
  have heq : readToken = Attribute.andThen readWord fun token rest =>
      if token.isEmpty then .error (.unexpected rest (some .propertyPath))
      else .ok (token, rest) := by
    funext t
    unfold readToken Attribute.andThen
    cases readWord t <;> rfl
  rw [heq]
  refine (isLocalAt_readWord t).andThen fun token rest _ => ?_
  split
  · exact isLocalAt_unexpected (some .propertyPath) rest
  · exact isLocalAt_ok token rest

/-- The tokens of a path behind the first one. -/
def readMore (token t : Text) : Result (List Text) :=
  match Text.trimStart t with
  | '.' :: r => Attribute.andThen readPath (fun tokens rest => .ok (token :: tokens, rest)) r
  | r => .ok ([token], r)

theorem readPath_eq : readPath = Attribute.andThen readToken readMore := by
  funext t
  rw [readPath, Attribute.andThen]
  split
  next e he => rw [he]
  next token rest htoken =>
    rw [htoken]
    simp only [readMore]
    split
    next r hr =>
      rw [hr]
      simp only [Attribute.andThen]
      cases readPath r <;> rfl
    next hnone =>
      split
      next r hr => exact absurd hr (hnone r)
      next => rfl

/-- What follows a token is read locally if every shorter path is. -/
theorem isLocalAt_readMore {token : Text} (h : ∀ s, s.length < t.length → IsLocalAt readPath s) :
    IsLocalAt (readMore token) t := by
  refine .of_trimmed (fun s => by rw [readMore, readMore, trimStart_trimStart])
    (isLocalAt_of_left? (.inr rfl)) fun c r hc hr => ?_
  by_cases hpoint : c = '.'
  · cases hpoint
    refine IsLocalAt.cons ((h r hr).andThen fun tokens rest _ =>
      isLocalAt_ok (token :: tokens) rest) fun s => ?_
    rw [readMore, Text.trimStart_cons hc]
    rfl
  · refine IsLocalAt.congr (isLocalAt_ok [token] (c :: r)) fun s => ?_
    rw [readMore, Text.trimStart_cons hc]
    split
    next heq => exact absurd (List.cons.inj heq).1 hpoint
    next => rfl

theorem isLocalAt_readPath (t : Text) : IsLocalAt readPath t := by
  induction hn : t.length using Nat.strongRecOn generalizing t with
  | ind n ih =>
    rw [readPath_eq]
    refine (isLocalAt_readToken t).andThen fun token rest htoken =>
      isLocalAt_readMore fun s hs => ih s.length ?_ s rfl
    rw [← hn]
    exact Nat.lt_of_lt_of_le hs (readToken_suffix htoken).length_le

/-! ### Operators and operands -/

/-- The second character of an operator that does not begin with an equals sign. -/
def readSecond (c : Char) : Text → Result Comparison
  | [] => .error (.unexpected [] (some .operator))
  | d :: r =>
    match comparison? c d with
    | some op => .ok (op, r)
    | none => .error (.unexpected r (some .operator))

theorem isLocalAt_readSecond (c : Char) (t : Text) : IsLocalAt (readSecond c) t := by
  cases t with
  | nil => exact isLocalAt_of_left? (.inr rfl)
  | cons d r =>
    cases hop : comparison? c d with
    | none =>
      refine IsLocalAt.cons (isLocalAt_unexpected (some .operator) r) fun s => ?_
      rw [readSecond, hop]
    | some op =>
      refine IsLocalAt.cons (isLocalAt_ok op r) fun s => ?_
      rw [readSecond, hop]

theorem isLocalAt_readComparison (t : Text) : IsLocalAt readComparison t := by
  refine .of_trimmed (fun s => by rw [readComparison, readComparison, trimStart_trimStart])
    (isLocalAt_of_left? (.inr rfl)) fun c r hc _ => ?_
  by_cases hequals : c = '='
  · cases hequals
    refine IsLocalAt.cons (isLocalAt_ok .equals r) fun s => ?_
    rw [readComparison, Text.trimStart_cons hc]
    rfl
  · refine IsLocalAt.cons (isLocalAt_readSecond c r) fun s => ?_
    rw [readComparison, Text.trimStart_cons hc]
    cases s with
    | nil =>
      split
      next heq => cases heq
      next heq => exact absurd (List.cons.inj heq).1 hequals
      next => rfl
      next heq => cases heq
    | cons d s =>
      split
      next heq => cases heq
      next heq => exact absurd (List.cons.inj heq).1 hequals
      next heq => cases heq
      next heq =>
        cases heq
        rfl

/-- A word has the same value whatever follows it, or what follows it is blamed. -/
theorem wordValue_eq (permissive : Bool) (word : Text) :
    (∃ v, ∀ rest, wordValue permissive word rest = .ok v) ∨
      ∀ rest, wordValue permissive word rest = .error (.unexpected rest (some .value)) := by
  unfold wordValue
  split
  · exact Or.inl ⟨.bool true, fun _ => rfl⟩
  split
  · exact Or.inl ⟨.bool false, fun _ => rfl⟩
  split
  · exact Or.inl ⟨.text word, fun _ => rfl⟩
  cases numeral? word with
  | none => exact Or.inr fun _ => rfl
  | some n => exact Or.inl ⟨.number n, fun _ => rfl⟩

theorem isLocalAt_readUnquoted (permissive : Bool) (t : Text) :
    IsLocalAt (readUnquoted permissive) t := by
  have heq : readUnquoted permissive = andThen (readWhile (isWordChar permissive)) fun word rest =>
      (wordValue permissive word rest).map fun v => (⟨v, true⟩, rest) := by
    funext t
    simp only [readUnquoted, andThen, readWhile]
    cases wordValue permissive (t.takeWhile (isWordChar permissive))
      (t.dropWhile (isWordChar permissive)) <;> rfl
  rw [heq]
  refine (isLocalAt_readWhile _ t).andThen fun word rest _ => ?_
  rcases wordValue_eq permissive word with ⟨v, hv⟩ | herror
  · simp only [hv]
    exact isLocalAt_ok _ rest
  · simp only [herror]
    exact isLocalAt_unexpected (some .value) rest

theorem isLocalAt_readCase (t : Text) : IsLocalAt (fun t => .ok (readCase t)) t := by
  refine .of_trimmed (fun s => by rw [readCase, readCase, trimStart_trimStart])
    (isLocalAt_of_left? (.inr rfl)) fun c r hc _ => ?_
  have hread : ∀ s, readCase (c :: s) =
      if c = 'i' ∨ c = 'I' then (false, s)
      else if c = 's' ∨ c = 'S' then (true, s) else (true, c :: s) := by
    intro s
    rw [readCase, Text.trimStart_cons hc]
  by_cases hi : c = 'i' ∨ c = 'I'
  · exact (isLocalAt_ok false r).cons fun s => by rw [hread, if_pos hi]
  by_cases hs : c = 's' ∨ c = 'S'
  · exact (isLocalAt_ok true r).cons fun s => by rw [hread, if_neg hi, if_pos hs]
  · exact (isLocalAt_ok true (c :: r)).congr fun s => by rw [hread, if_neg hi, if_neg hs]

/-- A quoted text behind its opening mark, and the letter for the case. -/
def readQuotedOperand (quote : Char) : Text → Result Operand :=
  andThen (readClosed (readQuoted quote) .quotedString) fun token rest =>
    .ok (⟨.text token, (readCase rest).1⟩, (readCase rest).2)

theorem isLocalAt_readQuotedOperand {quote : Char} (hquote : quote ≠ '\\') (t : Text) :
    IsLocalAt (readQuotedOperand quote) t :=
  (isLocalAt_readClosed .quotedString fun _ _ => exists_append_of_readQuoted hquote).andThen
    fun token rest _ => (isLocalAt_readCase rest).andThen
      (g := fun s rest => .ok ((⟨.text token, s⟩ : Operand), rest)) fun _ rest _ => isLocalAt_ok _ rest

/-- A pattern behind its opening slash, which needs an equals sign in front. -/
def readPatternOperand (op : Comparison) (t : Text) : Result Operand :=
  if op ≠ .equals then .error (.patternOperator op)
  else andThen readPattern (fun p rest => .ok (⟨.pattern p, true⟩, rest)) t

theorem isLocalAt_readPatternOperand (op : Comparison) (t : Text) :
    IsLocalAt (readPatternOperand op) t := by
  unfold readPatternOperand
  by_cases hop : op ≠ .equals
  · simp only [if_pos hop]
    exact isLocalAt_of_left? (.inl rfl)
  · simp only [if_neg hop]
    exact (isLocalAt_readPattern t).andThen fun p rest _ => isLocalAt_ok _ rest

theorem readOperand_trimStart (permissive : Bool) (op : Comparison) (t : Text) :
    readOperand permissive op t = readOperand permissive op (Text.trimStart t) := by
  rw [readOperand, readOperand, trimStart_trimStart]

theorem readOperand_cons {permissive : Bool} {op : Comparison} (hc : Text.isBlank c = false) :
    readOperand permissive op (c :: r) =
      if c = '/' then readPatternOperand op r
      else if c = '"' ∨ c = '\x27' then readQuotedOperand c r
      else readUnquoted permissive (c :: r) := by
  rw [readOperand, Text.trimStart_cons hc]
  simp only [readPatternOperand, readQuotedOperand, andThen, readClosed]
  split
  · split
    · rfl
    · cases readPattern r <;> rfl
  split
  · cases readQuoted c r <;> rfl
  · rfl

theorem isLocalAt_readOperand (permissive : Bool) (op : Comparison) (t : Text) :
    IsLocalAt (readOperand permissive op) t := by
  refine .of_trimmed (readOperand_trimStart permissive op)
    ((isLocalAt_readUnquoted permissive []).congr_nil rfl) fun c r hc _ => ?_
  by_cases hslash : c = '/'
  · exact (isLocalAt_readPatternOperand op r).cons fun s => by rw [readOperand_cons hc, if_pos hslash]
  by_cases hquote : c = '"' ∨ c = '\x27'
  · have hback : c ≠ '\\' := by rcases hquote with rfl | rfl <;> decide
    exact (isLocalAt_readQuotedOperand hback r).cons fun s => by
      rw [readOperand_cons hc, if_neg hslash, if_pos hquote]
  · exact (isLocalAt_readUnquoted permissive (c :: r)).congr fun s => by
      rw [readOperand_cons hc, if_neg hslash, if_neg hquote]

/-! ### Conditions -/

/-- The closing bracket after a value. -/
def readClosing (t : Text) : Result Unit :=
  (readClose t).map ((), ·)

theorem isLocalAt_readClosing (t : Text) : IsLocalAt readClosing t := by
  refine .of_trimmed (fun s => by rw [readClosing, readClosing, readClose, readClose, trimStart_trimStart])
    (isLocalAt_of_left? (.inr rfl)) fun c r hc _ => ?_
  by_cases hclose : c = ']'
  · cases hclose
    refine IsLocalAt.cons (isLocalAt_ok () r) fun s => ?_
    rw [readClosing, readClose, Text.trimStart_cons hc]
    rfl
  · refine IsLocalAt.congr (isLocalAt_unexpected (some .value) (c :: r)) fun s => ?_
    rw [readClosing, readClose, Text.trimStart_cons hc]
    split
    next heq => exact absurd (List.cons.inj heq).1 hclose
    next => rfl

theorem isLocalAt_readComparing (permissive : Bool) (t : Text) :
    IsLocalAt (readComparing permissive) t := by
  have heq : readComparing permissive = andThen readComparison fun op =>
      andThen (readOperand permissive op) fun operand => andThen readClosing fun _ rest =>
        if op ≠ .equals ∧ !operand.value.isText then .error (.valueOperator op operand.value)
        else .ok (.compare op operand.value operand.caseSensitive, rest) := by
    funext t
    simp only [readComparing, andThen, readClosing]
    cases readComparison t with
    | error e => rfl
    | ok p =>
      simp only
      cases readOperand permissive p.1 p.2 with
      | error e => rfl
      | ok q =>
        simp only
        cases readClose q.2 <;> rfl
  rw [heq]
  refine (isLocalAt_readComparison t).andThen fun op rest _ =>
    (isLocalAt_readOperand permissive op rest).andThen fun operand rest _ =>
      (isLocalAt_readClosing rest).andThen fun _ rest _ => ?_
  by_cases hop : op ≠ .equals ∧ (!operand.value.isText) = true
  · simp only [if_pos hop]
    exact isLocalAt_of_left? (.inl rfl)
  · simp only [if_neg hop]
    exact isLocalAt_ok _ rest

theorem isLocalAt_readTest (permissive : Bool) (t : Text) : IsLocalAt (readTest permissive) t := by
  cases t with
  | nil => exact (isLocalAt_readComparing permissive []).congr_nil rfl
  | cons c r =>
    by_cases hclose : c = ']'
    · cases hclose
      exact (isLocalAt_ok .truthy r).cons fun s => rfl
    · refine (isLocalAt_readComparing permissive (c :: r)).congr fun s => ?_
      unfold readTest
      split
      next heq => exact absurd (List.cons.inj heq).1 hclose
      next => rfl

theorem isLocalAt_readCondition (permissive : Bool) (t : Text) :
    IsLocalAt (readCondition permissive) t := by
  have heq : readCondition permissive = andThen readPath fun path =>
      andThen (readTest permissive) fun test rest => .ok ((⟨path, test⟩ : Condition), rest) := by
    funext t
    simp only [readCondition, andThen]
    cases readPath t with
    | error e => rfl
    | ok p =>
      simp only
      cases readTest permissive p.2 <;> rfl
  rw [heq]
  exact (isLocalAt_readPath t).andThen fun path rest _ =>
    (isLocalAt_readTest permissive rest).andThen fun test rest _ => isLocalAt_ok _ rest

theorem readConditions_eq (permissive : Bool) (t : Text) :
    readConditions permissive t =
      match Text.trimStart t with
      | '[' :: r => andThen (readCondition permissive) (fun c =>
          andThen (readConditions permissive) fun cs rest => .ok (c :: cs, rest)) r
      | r => .ok ([], r) := by
  rw [readConditions]
  split
  next r hr =>
    rw [hr]
    simp only [andThen]
    split
    next he => rw [he]
    next c rest hc =>
      rw [hc]
      simp only
      cases readConditions permissive rest <;> rfl
  next hnone =>
    split
    next r hr => exact absurd hr (hnone r)
    next => rfl

theorem isLocalAt_readConditions (permissive : Bool) (t : Text) :
    IsLocalAt (readConditions permissive) t := by
  induction hn : t.length using Nat.strongRecOn generalizing t with
  | ind n ih =>
    refine .of_trimmed (fun s => by rw [readConditions_eq, readConditions_eq, trimStart_trimStart])
      (isLocalAt_of_left? (.inr ?_)) fun c r hc hr => ?_
    · rw [readConditions_nil]
      rfl
    · by_cases hopen : c = '['
      · cases hopen
        refine IsLocalAt.cons ((isLocalAt_readCondition permissive r).andThen fun c rest hcondition =>
          (ih rest.length ?_ rest rfl).andThen fun cs rest _ => isLocalAt_ok (c :: cs) rest) fun s => ?_
        · have hrest := (readCondition_suffix hcondition).length_le
          omega
        · rw [readConditions_eq, Text.trimStart_cons hc]
          rfl
      · refine IsLocalAt.congr (isLocalAt_ok [] (c :: r)) fun s => ?_
        rw [readConditions_eq, Text.trimStart_cons hc]
        split
        next heq => exact absurd (List.cons.inj heq).1 hopen
        next => rfl

/-! ### Selectors -/

/-- A reader of whole texts leaves nothing if it succeeds. -/
theorem isLocalAt_readSelector (permissive : Bool) (t : Text) :
    IsLocalAt (fun t => (readSelector permissive t).map (·, [])) t := by
  have heq : (fun t => (readSelector permissive t).map (·, [])) =
      andThen (fun t => .ok (readIdentifier t)) fun name =>
        andThen (readConditions permissive) fun conditions rest =>
          if !rest.isEmpty then .error (.unexpected rest none)
          else if name.isEmpty && conditions.isEmpty then .error .empty
          else .ok ((⟨name, conditions⟩ : AttributeSelector), []) := by
    funext t
    simp only [readSelector, andThen]
    cases readConditions permissive (readIdentifier t).2 with
    | error e => rfl
    | ok p =>
      simp only
      split
      · rfl
      split
      · rfl
      · rfl
  rw [heq]
  refine (isLocalAt_readIdentifier t).andThen fun name rest _ =>
    (isLocalAt_readConditions permissive rest).andThen fun conditions rest _ => ?_
  cases rest with
  | nil =>
    by_cases hempty : (name.isEmpty && conditions.isEmpty) = true
    · exact isLocalAt_of_left? (.inl (by simp [hempty, Result.left?]))
    · exact isLocalAt_of_left? (.inr (by simp [hempty, Result.left?]))
  | cons c r =>
    exact (isLocalAt_unexpected none (c :: r)).congr fun s => rfl

/-- A text that fails at a symbol fails there too when something else follows the symbol. -/
theorem exists_append_of_readSelector {permissive : Bool} {stage : Option Stage}
    (h : readSelector permissive t = .error (.unexpected (c :: r) stage)) :
    ∃ u, t = u ++ c :: r ∧
      ∀ s, readSelector permissive (u ++ c :: s) = .error (.unexpected (c :: s) stage) := by
  obtain ⟨u, ht, hu⟩ := isLocalAt_readSelector permissive t c r (by simp only [h]; rfl)
  refine ⟨u, ht, fun s => ?_⟩
  have hs := hu s
  simp only [h] at hs
  cases hread : readSelector permissive (u ++ c :: s) with
  | error e =>
    rw [hread] at hs
    cases hs
    rfl
  | ok a =>
    rw [hread] at hs
    cases hs

/-! ### Unexpected symbols -/

/-- The symbol that an error blames, with its position and what was being read. -/
def Error.symbol? (e : Error) : Option (Char × Nat × Option Stage) :=
  match e.cause with
  | .unexpected (c :: r) stage => some (c, e.position (c :: r), stage)
  | _ => none

/-- The wording of an unexpected symbol at a position of a selector. -/
def symbolMessage (selector : Text) (c : Char) (position : Nat) (stage : Option Stage) : Text :=
  "Error while parsing selector \x60".toList ++ selector ++
    "\x60 - unexpected symbol \"".toList ++ c :: "\" at position ".toList ++ Text.ofNat position ++
    match stage with
    | none => []
    | some s => " during ".toList ++ s.message

theorem Error.position_of_selector_eq {e : Error} (h : e.selector = w ++ r) :
    e.position r = w.length := by
  rw [Error.position, h, List.length_append, Nat.add_sub_cancel]

theorem Error.symbol?_eq_some_iff {e : Error} {p : Nat} {stage : Option Stage} :
    e.symbol? = some (c, p, stage) ↔
      ∃ r, e.cause = .unexpected (c :: r) stage ∧ p = e.position (c :: r) := by
  constructor
  · intro h
    unfold Error.symbol? at h
    split at h
    next r stage hcause =>
      cases h
      exact ⟨r, hcause, rfl⟩
    · cases h
  · rintro ⟨r, hcause, rfl⟩
    rw [Error.symbol?, hcause]

theorem Error.message_of_symbol? {e : Error} {p : Nat} {stage : Option Stage}
    (h : e.symbol? = some (c, p, stage)) : e.message = symbolMessage e.selector c p stage := by
  obtain ⟨r, hcause, rfl⟩ := Error.symbol?_eq_some_iff.1 h
  rw [Error.message, hcause]
  rfl

end Attribute

open Attribute

namespace AttributeSelector

variable {permissive : Bool} {s : Text} {e : Attribute.Error} {c : Char} {p : Nat}
  {stage : Option Stage}

theorem ofText_eq_error_iff :
    ofText permissive s = .error e ↔ readSelector permissive s = .error e.cause ∧ e.selector = s := by
  unfold ofText
  cases readSelector permissive s with
  | ok a =>
    constructor
    · intro h
      cases h
    · rintro ⟨h, -⟩
      cases h
  | error cause =>
    constructor
    · intro h
      cases h
      exact ⟨rfl, rfl⟩
    · rintro ⟨hcause, rfl⟩
      cases hcause
      rfl

/-- **Errors that blame a symbol are local.** The symbol stands at the position that is told, and all texts that agree up
to and including it have the same error; only the selector that is quoted differs. -/
theorem unexpectedSymbol_local (h : ofText permissive s = .error e)
    (hsymbol : e.symbol? = some (c, p, stage)) :
    (p < s.length ∧ s[p]? = some c ∧ e.message = symbolMessage s c p stage) ∧
      ∀ t, t.take (p + 1) = s.take (p + 1) →
        ∃ e', ofText permissive t = .error e' ∧ e'.symbol? = some (c, p, stage) ∧
          e'.message = symbolMessage t c p stage := by
  obtain ⟨hread, rfl⟩ := ofText_eq_error_iff.1 h
  obtain ⟨r, hcause, hposition⟩ := Error.symbol?_eq_some_iff.1 hsymbol
  rw [hcause] at hread
  obtain ⟨u, hs, hu⟩ := exists_append_of_readSelector hread
  have hp : p = u.length := hposition.trans (Error.position_of_selector_eq hs)
  refine ⟨⟨?_, ?_, Error.message_of_symbol? hsymbol⟩, fun t ht => ?_⟩
  · simp [hs, hp]
  · simp [hs, hp]
  -- what the two texts have in common is everything up to the symbol
  have htake : e.selector.take (p + 1) = u ++ [c] := by
    rw [hs, List.append_cons, List.take_left' (by simp [hp])]
  obtain ⟨v, htext⟩ : ∃ v, t = u ++ c :: v := by
    refine ⟨t.drop (p + 1), ?_⟩
    calc t = t.take (p + 1) ++ t.drop (p + 1) := (List.take_append_drop (p + 1) t).symm
      _ = u ++ c :: t.drop (p + 1) := by rw [ht, htake, List.append_assoc, List.singleton_append]
  have hread' : readSelector permissive t = .error (.unexpected (c :: v) stage) := by
    rw [htext, hu]
  have hsymbol' : Error.symbol? ⟨t, .unexpected (c :: v) stage⟩ = some (c, p, stage) :=
    Error.symbol?_eq_some_iff.2 ⟨v, rfl, hp.trans (Error.position_of_selector_eq htext).symm⟩
  exact ⟨_, ofText_eq_error_iff.2 ⟨hread', rfl⟩, hsymbol', Error.message_of_symbol? hsymbol'⟩

/-- A blank behind a word that is no numeral, before a bracket and before a quotation mark that is never closed. -/
theorem unexpectedSymbol_local_word :
    (ofText false "[a=x y]".toList =
        .error ⟨"[a=x y]".toList, .unexpected " y]".toList (some .value)⟩ ∧
      Error.symbol? ⟨"[a=x y]".toList, .unexpected " y]".toList (some .value)⟩ =
        some (' ', 4, some .value) ∧
      "[a=x '".toList.take 5 = "[a=x y]".toList.take 5) ∧
    ∃ e, ofText false "[a=x '".toList = .error e ∧ e.symbol? = some (' ', 4, some .value) ∧
      e.message = ("Error while parsing selector \x60[a=x '\x60 - unexpected symbol \" \"" ++
        " at position 4 during parsing attribute value").toList := by
  have hread : ofText false "[a=x y]".toList =
      .error ⟨"[a=x y]".toList, .unexpected " y]".toList (some .value)⟩ := by decide +kernel
  have hsymbol : Error.symbol? ⟨"[a=x y]".toList, .unexpected " y]".toList (some .value)⟩ =
      some (' ', 4, some .value) := by decide +kernel
  have hagree : "[a=x '".toList.take 5 = "[a=x y]".toList.take 5 := by decide
  obtain ⟨e, he, hsymbol', hmessage⟩ := (unexpectedSymbol_local hread hsymbol).2 _ hagree
  refine ⟨⟨hread, hsymbol, hagree⟩, e, he, hsymbol', hmessage.trans ?_⟩
  decide +kernel

end AttributeSelector

end SelectorCode
