import SelectorCode.Text.Blank

/-!
# Splitting a selector into chunks

Chunks are separated by `>>` outside quotation marks. A backslash protects the character after it.

## Main Definitions

* `isOpeningQuote`: the marks that hide a separator until they come again.
* `isTextBody`: the chunks in which a quotation mark is ordinary text.
* `scan`: the chunks of a text, and the quotation mark that is left open.
* `chunks`: the chunks of a selector.

## Design Notes

The engine `text` takes its body literally, so in a chunk that begins with `text=` and something more, quotation
marks do not open anything. A selector without `>>` is a single chunk and is not scanned.
-/

namespace SelectorCode

/-- The quotation marks. -/
def isOpeningQuote (c : Char) : Bool :=
  c = '"' || c = '\x27' || c = '\x60'

/-- Whether a chunk, as far as it has been read, is the engine `text` with a body that has begun. -/
def isTextBody (chunk : Text) : Bool :=
  match Text.stripPrefix? "text".toList (Text.trimStart chunk) with
  | none => false
  | some r =>
    match Text.trimStart r with
    | '=' :: body => !body.isEmpty && !body.contains '\n'
    | _ => false

/-- Scans the rest of a text after `chunk`, with the mark `quote` open. -/
def scan (quote : Option Char) (chunk : Text) : Text → List Text × Option Char
  | [] => ([chunk], quote)
  | '\\' :: c :: r => scan quote (chunk ++ ['\\', c]) r
  | '>' :: '>' :: r =>
    if quote = none then
      let (rest, q) := scan none [] r
      (chunk :: rest, q)
    else scan quote (chunk ++ ['>', '>']) r
  | c :: r =>
    if quote = some c then scan none (chunk ++ [c]) r
    else if quote = none && isOpeningQuote c && !isTextBody chunk then
      scan (some c) (chunk ++ [c]) r
    else scan quote (chunk ++ [c]) r

/-- No chunk is longer than what has been read of it and what is left to read. -/
theorem length_le_of_mem_scan {quote : Option Char} {chunk t c : Text}
    (h : c ∈ (scan quote chunk t).1) : c.length ≤ chunk.length + t.length := by
  fun_induction scan quote chunk t with
  | case1 => simp_all
  | case2 quote chunk d r ih =>
    have := ih h
    simp only [List.length_append, List.length_cons, List.length_nil] at this ⊢
    omega
  | case3 chunk r rest q hs ih =>
    rw [hs] at ih
    rcases List.mem_cons.1 h with rfl | h
    · simp
    · have := ih h
      simp only [List.length_nil, List.length_cons] at this ⊢
      omega
  | case4 quote chunk r _ ih =>
    have := ih h
    simp only [List.length_append, List.length_cons, List.length_nil] at this ⊢
    omega
  | case5 chunk d r _ _ ih =>
    have := ih h
    simp only [List.length_append, List.length_cons, List.length_nil] at this ⊢
    omega
  | case6 quote chunk d r _ _ _ _ ih =>
    have := ih h
    simp only [List.length_append, List.length_cons, List.length_nil] at this ⊢
    omega
  | case7 quote chunk d r _ _ _ _ ih =>
    have := ih h
    simp only [List.length_append, List.length_cons, List.length_nil] at this ⊢
    omega

/-- The chunks of a selector. -/
def chunks (selector : Text) : List Text :=
  if Text.includes ">>".toList selector then (scan none [] selector).1 else [selector]

/-- No chunk is longer than the selector. -/
theorem length_le_of_mem_chunks {selector c : Text} (h : c ∈ chunks selector) :
    c.length ≤ selector.length := by
  unfold chunks at h
  split at h
  · simpa using length_le_of_mem_scan h
  · exact Nat.le_of_eq (congrArg List.length (List.mem_singleton.1 h))

example : chunks "a >> \">>\" >> text=it's>>b".toList =
    ["a ".toList, " \">>\" ".toList, " text=it's".toList, "b".toList] := by decide

end SelectorCode
