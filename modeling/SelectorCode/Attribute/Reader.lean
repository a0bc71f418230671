import SelectorCode.Attribute.Error
import SelectorCode.Number.Numeral

/-!
# Reading attribute selectors

Each reader takes the text that is left and answers what it has read together with what is left after it. What is
left is always a suffix of the text, which is why reading ends and why the position of an error can be told from
the text left there.

## Main Definitions

* `readIdentifier`, `readQuoted`, `readPatternSource`: the words of the grammar.
* `readPath`: the property path of a condition.
* `readComparison`, `readValue`: an operator and what it compares with.
* `readCondition`, `readConditions`: conditions in brackets.
* `AttributeSelector.ofText`: a whole attribute selector.

## Design Notes

There are two modes. In the permissive one a value without quotation marks is a text that reaches up to the closing
bracket; in the strict one it ends at a blank and has to be a numeral. In both, `true` and `false` are truth values.
-/

namespace SelectorCode.Attribute

/-- What a reader answers: something read and the text left, or a cause. -/
abbrev Result (α : Type) := Except Cause (α × Text)

/-! ### Words -/

/-- The characters of a name: ASCII letters and digits, underscores, hyphens, and everything above ASCII. -/
def isNameChar (c : Char) : Bool :=
  0x80 ≤ c.toNat || c.isAlphanum || c = '_' || c = '-'

/-- The name that a text begins with after blanks; it may be empty. -/
def readIdentifier (t : Text) : Text × Text :=
  ((Text.trimStart t).takeWhile isNameChar, (Text.trimStart t).dropWhile isNameChar)

/-- The text up to a closing quotation mark; a backslash makes the character after it part of the text. -/
def readQuoted (quote : Char) : Text → Option (Text × Text)
  | [] => none
  | '\\' :: c :: r => (readQuoted quote r).map fun p => (c :: p.1, p.2)
  | c :: r => if c = quote then some ([], r) else (readQuoted quote r).map fun p => (c :: p.1, p.2)

/-- The source of a pattern up to the slash that closes it, inside or outside a character class. -/
def readPatternSource (inClass : Bool) : Text → Option (Text × Text)
  | [] => none
  | '\\' :: c :: r => (readPatternSource inClass r).map fun p => ('\\' :: c :: p.1, p.2)
  | c :: r =>
    if c = '/' ∧ !inClass then some ([], r)
    else
      (readPatternSource (if inClass then c ≠ ']' else c = '[') r).map fun p => (c :: p.1, p.2)

/-- The letters that may follow a pattern as its flags. -/
def isPatternFlag (c : Char) : Bool :=
  "dgimsuy".toList.contains c

/-- A pattern after its opening slash. -/
def readPattern (t : Text) : Result Pattern :=
  match readPatternSource false t with
  | none => .error (.unexpected [] (some .regularExpression))
  | some (source, rest) =>
    match Pattern.ofSource source (rest.takeWhile isPatternFlag) with
    | .error e => .error (.pattern e)
    | .ok p => .ok (p, rest.dropWhile isPatternFlag)

/-! ### Property paths -/

/-- A token of a path as written, which may still be empty. -/
def readWord (t : Text) : Result Text :=
  match Text.trimStart t with
  | [] => .ok (readIdentifier [])
  | c :: r =>
    if c = '"' ∨ c = '\x27' then
      match readQuoted c r with
      | some p => .ok p
      | none => .error (.unexpected [] (some .quotedString))
    else .ok (readIdentifier (c :: r))

/-- A token of a path: a quoted text or a name. -/
def readToken (t : Text) : Result Text :=
  match readWord t with
  | .error e => .error e
  | .ok (token, rest) =>
    if token.isEmpty then .error (.unexpected rest (some .propertyPath)) else .ok (token, rest)

/-! ### What is left is a suffix -/

theorem trimStart_suffix (t : Text) : Text.trimStart t <:+ t :=
  List.dropWhile_suffix _

theorem readIdentifier_suffix (t : Text) : (readIdentifier t).2 <:+ t :=
  (List.dropWhile_suffix _).trans (trimStart_suffix t)

theorem readQuoted_suffix {quote : Char} {t token rest : Text}
    (h : readQuoted quote t = some (token, rest)) : rest <:+ t := by
  fun_induction readQuoted quote t generalizing token rest with
  | case1 => cases h
  | case2 c r ih =>
    obtain ⟨⟨u, v⟩, hu, heq⟩ := Option.map_eq_some_iff.1 h
    cases heq
    exact (ih hu).trans ⟨['\\', c], rfl⟩
  | case3 r _ =>
    cases h
    exact List.suffix_cons _ _
  | case4 c r _ _ ih =>
    obtain ⟨⟨u, v⟩, hu, heq⟩ := Option.map_eq_some_iff.1 h
    cases heq
    exact (ih hu).trans (List.suffix_cons _ _)

theorem readPatternSource_suffix {inClass : Bool} {t source rest : Text}
    (h : readPatternSource inClass t = some (source, rest)) : rest <:+ t := by
  fun_induction readPatternSource inClass t generalizing source rest with
  | case1 => cases h
  | case2 inClass c r ih =>
    obtain ⟨⟨u, v⟩, hu, heq⟩ := Option.map_eq_some_iff.1 h
    cases heq
    exact (ih hu).trans ⟨['\\', c], rfl⟩
  | case3 inClass c r _ _ =>
    cases h
    exact List.suffix_cons _ _
  | case4 inClass c r _ _ ih =>
    obtain ⟨⟨u, v⟩, hu, heq⟩ := Option.map_eq_some_iff.1 h
    cases heq
    exact (ih hu).trans (List.suffix_cons _ _)

theorem readPattern_suffix {t rest : Text} {p : Pattern} (h : readPattern t = .ok (p, rest)) :
    rest <:+ t := by
  unfold readPattern at h
  split at h
  · cases h
  next source left hs =>
    split at h
    · cases h
    · cases h
      exact (List.dropWhile_suffix _).trans (readPatternSource_suffix hs)

theorem readWord_suffix {t token rest : Text} (h : readWord t = .ok (token, rest)) :
    rest <:+ t := by
  unfold readWord at h
  split at h
  next ht =>
    cases h
    exact List.nil_suffix
  next c r ht =>
    have hr : c :: r <:+ t := ht ▸ trimStart_suffix t
    split at h
    · split at h
      next p hq =>
        cases h
        exact ((readQuoted_suffix hq).trans (List.suffix_cons _ _)).trans hr
      · cases h
    · have hi := readIdentifier_suffix (c :: r)
      cases h
      exact hi.trans hr

theorem readToken_suffix {t token rest : Text} (h : readToken t = .ok (token, rest)) :
    rest <:+ t := by
  unfold readToken at h
  split at h
  · cases h
  next hw =>
    split at h
    · cases h
    · cases h
      exact readWord_suffix hw

/-- The tokens of a path, with points between them. -/
def readPath (t : Text) : Result (List Text) :=
  match _h : readToken t with
  | .error e => .error e
  | .ok (token, rest) =>
    match _hr : Text.trimStart rest with
    | '.' :: r =>
      match readPath r with
      | .error e => .error e
      | .ok (tokens, rest) => .ok (token :: tokens, rest)
    | r => .ok ([token], r)
termination_by t.length
decreasing_by
  have h1 := (readToken_suffix _h).length_le
  have h2 := (trimStart_suffix rest).length_le
  rw [_hr, List.length_cons] at h2
  omega

theorem readPath_suffix {t rest : Text} {tokens : List Text}
    (h : readPath t = .ok (tokens, rest)) : rest <:+ t := by
  fun_induction readPath t generalizing tokens rest with
  | case1 => cases h
  | case2 => cases h
  | case3 t token left ht r hl tokens' rest' hr ih =>
    cases h
    have h1 : r <:+ left := (List.suffix_cons _ _).trans (hl ▸ trimStart_suffix left)
    exact ((ih hr).trans h1).trans (readToken_suffix ht)
  | case4 t token left ht _ =>
    cases h
    exact (trimStart_suffix left).trans (readToken_suffix ht)

/-! ### Operators and values -/

/-- The comparison of an operator of two characters. -/
def comparison? (c d : Char) : Option Comparison :=
  if d ≠ '=' then none
  else match c with
    | '*' => some .contains
    | '^' => some .startsWith
    | '$' => some .endsWith
    | '|' => some .dashMatches
    | '~' => some .hasWord
    | _ => none

/-- An operator after blanks: an equals sign, alone or after one other sign. -/
def readComparison (t : Text) : Result Comparison :=
  match Text.trimStart t with
  | [] => .error (.unexpected [] (some .operator))
  | '=' :: r => .ok (.equals, r)
  | [_] => .error (.unexpected [] (some .operator))
  | c :: d :: r =>
    match comparison? c d with
    | some op => .ok (op, r)
    | none => .error (.unexpected r (some .operator))

/-- What a condition compares with, and whether case counts. -/
structure Operand where
  value : Value
  caseSensitive : Bool
deriving DecidableEq, Repr

/-- The letter after a quoted value that says whether case counts; without one it does. -/
def readCase (t : Text) : Bool × Text :=
  match Text.trimStart t with
  | [] => (true, [])
  | c :: r =>
    if c = 'i' ∨ c = 'I' then (false, r)
    else if c = 's' ∨ c = 'S' then (true, r)
    else (true, c :: r)

/-- The value of a word without quotation marks, when `rest` follows it. -/
def wordValue (permissive : Bool) (word rest : Text) : Except Cause Value :=
  if word = "true".toList then .ok (.bool true)
  else if word = "false".toList then .ok (.bool false)
  else if permissive then .ok (.text word)
  else match numeral? word with
    | some n => .ok (.number n)
    | none => .error (.unexpected rest (some .value))

/-- Whether a character belongs to a word without quotation marks. -/
def isWordChar (permissive : Bool) (c : Char) : Bool :=
  (permissive || !Text.isBlank c) && c ≠ ']'

/-- A value without quotation marks. -/
def readUnquoted (permissive : Bool) (t : Text) : Result Operand :=
  let rest := t.dropWhile (isWordChar permissive)
  match wordValue permissive (t.takeWhile (isWordChar permissive)) rest with
  | .error e => .error e
  | .ok v => .ok (⟨v, true⟩, rest)

/-- A value that may be used with the given operator only if it is an equals sign or compares texts. -/
def readOperand (permissive : Bool) (op : Comparison) (t : Text) : Result Operand :=
  match Text.trimStart t with
  | [] => readUnquoted permissive []
  | c :: r =>
    if c = '/' then
      if op ≠ .equals then .error (.patternOperator op)
      else match readPattern r with
        | .error e => .error e
        | .ok (p, rest) => .ok (⟨.pattern p, true⟩, rest)
    else if c = '"' ∨ c = '\x27' then
      match readQuoted c r with
      | none => .error (.unexpected [] (some .quotedString))
      | some (token, rest) => .ok (⟨.text token, (readCase rest).1⟩, (readCase rest).2)
    else readUnquoted permissive (c :: r)

/-- The closing bracket after a value. -/
def readClose (t : Text) : Except Cause Text :=
  match Text.trimStart t with
  | ']' :: r => .ok r
  | r => .error (.unexpected r (some .value))

/-- An operator, its operand and the closing bracket. -/
def readComparing (permissive : Bool) (t : Text) : Result Test :=
  match readComparison t with
  | .error e => .error e
  | .ok (op, t) =>
    match readOperand permissive op t with
    | .error e => .error e
    | .ok (operand, t) =>
      match readClose t with
      | .error e => .error e
      | .ok rest =>
        if op ≠ .equals ∧ !operand.value.isText then .error (.valueOperator op operand.value)
        else .ok (.compare op operand.value operand.caseSensitive, rest)

/-- The test after a path, up to and including the closing bracket. -/
def readTest (permissive : Bool) (t : Text) : Result Test :=
  match t with
  | ']' :: r => .ok (.truthy, r)
  | t => readComparing permissive t

/-- A condition after its opening bracket. -/
def readCondition (permissive : Bool) (t : Text) : Result Condition :=
  match readPath t with
  | .error e => .error e
  | .ok (path, t) =>
    match readTest permissive t with
    | .error e => .error e
    | .ok (test, rest) => .ok (⟨path, test⟩, rest)

theorem readComparison_suffix {t rest : Text} {op : Comparison}
    (h : readComparison t = .ok (op, rest)) : rest <:+ t := by
  unfold readComparison at h
  have ht := trimStart_suffix t
  split at h
  · cases h
  next r hr =>
    cases h
    exact (List.suffix_cons _ _).trans (hr ▸ ht)
  · cases h
  next c d left _ hr =>
    have hs : c :: d :: left <:+ t := hr ▸ ht
    split at h
    · cases h
      exact (List.suffix_append [c, d] rest).trans hs
    · cases h

theorem readCase_suffix (t : Text) : (readCase t).2 <:+ t := by
  unfold readCase
  have ht := trimStart_suffix t
  split
  · exact List.nil_suffix
  next c r hr =>
    have hs : c :: r <:+ t := hr ▸ ht
    split
    · exact (List.suffix_cons _ _).trans hs
    · split
      · exact (List.suffix_cons _ _).trans hs
      · exact hs

theorem readUnquoted_suffix {permissive : Bool} {t rest : Text} {o : Operand}
    (h : readUnquoted permissive t = .ok (o, rest)) : rest <:+ t := by
  unfold readUnquoted at h
  simp only at h
  split at h
  · cases h
  · cases h
    exact List.dropWhile_suffix _

theorem readOperand_suffix {permissive : Bool} {op : Comparison} {t rest : Text} {o : Operand}
    (h : readOperand permissive op t = .ok (o, rest)) : rest <:+ t := by
  unfold readOperand at h
  have ht := trimStart_suffix t
  split at h
  · exact (readUnquoted_suffix h).trans List.nil_suffix
  next c r hr =>
    have hs : c :: r <:+ t := hr ▸ ht
    have hc : r <:+ t := (List.suffix_cons _ _).trans hs
    split at h
    · split at h
      · cases h
      · split at h
        · cases h
        next hp =>
          cases h
          exact (readPattern_suffix hp).trans hc
    · split at h
      · split at h
        · cases h
        next hq =>
          cases h
          exact ((readCase_suffix _).trans (readQuoted_suffix hq)).trans hc
      · exact (readUnquoted_suffix h).trans hs

theorem readClose_suffix {t rest : Text} (h : readClose t = .ok rest) : rest <:+ t := by
  unfold readClose at h
  have ht := trimStart_suffix t
  split at h
  next r hr =>
    cases h
    exact (List.suffix_cons _ _).trans (hr ▸ ht)
  · cases h

theorem readComparing_suffix {permissive : Bool} {t rest : Text} {test : Test}
    (h : readComparing permissive t = .ok (test, rest)) : rest <:+ t := by
  unfold readComparing at h
  split at h
  · cases h
  next hc =>
    split at h
    · cases h
    next ho =>
      split at h
      · cases h
      next hr =>
        split at h
        · cases h
        · cases h
          exact ((readClose_suffix hr).trans (readOperand_suffix ho)).trans
            (readComparison_suffix hc)

theorem readTest_suffix {permissive : Bool} {t rest : Text} {test : Test}
    (h : readTest permissive t = .ok (test, rest)) : rest <:+ t := by
  unfold readTest at h
  split at h
  · cases h
    exact List.suffix_cons _ _
  · exact readComparing_suffix h

theorem readCondition_suffix {permissive : Bool} {t rest : Text} {c : Condition}
    (h : readCondition permissive t = .ok (c, rest)) : rest <:+ t := by
  unfold readCondition at h
  split at h
  · cases h
  next hp =>
    split at h
    · cases h
    next ht =>
      cases h
      exact (readTest_suffix ht).trans (readPath_suffix hp)

/-! ### Whole selectors -/

/-- Conditions in brackets, as many as there are. -/
def readConditions (permissive : Bool) (t : Text) : Result (List Condition) :=
  match _h : Text.trimStart t with
  | '[' :: r =>
    match _hr : readCondition permissive r with
    | .error e => .error e
    | .ok (c, rest) =>
      match readConditions permissive rest with
      | .error e => .error e
      | .ok (cs, rest) => .ok (c :: cs, rest)
  | r => .ok ([], r)
termination_by t.length
decreasing_by
  have h1 := (readCondition_suffix _hr).length_le
  have h2 := (trimStart_suffix t).length_le
  rw [_h, List.length_cons] at h2
  omega

/-- Reads the whole text, or says what is wrong with it. -/
def readSelector (permissive : Bool) (t : Text) : Except Cause AttributeSelector :=
  match readConditions permissive (readIdentifier t).2 with
  | .error e => .error e
  | .ok (conditions, rest) =>
    if !rest.isEmpty then .error (.unexpected rest none)
    else if (readIdentifier t).1.isEmpty && conditions.isEmpty then .error .empty
    else .ok ⟨(readIdentifier t).1, conditions⟩

end Attribute

/-- The attribute selector that a text describes. -/
def AttributeSelector.ofText (permissive : Bool) (t : Text) :
    Except Attribute.Error AttributeSelector :=
  (Attribute.readSelector permissive t).mapError (⟨t, ·⟩)

end SelectorCode
