import SelectorCode.Selector.Basic
import SelectorCode.Text.Blank

/-!
# The engine of a chunk

A chunk names its engine before an equals sign, or shows it by the look of its body. A star in front of the name
captures the part.

## Main Definitions

* `Label`: engine, body and capture of a chunk.
* `Label.named?`: a chunk that names its engine.
* `Label.impliedEngine`: the engine that a body shows.
* `Label.ofChunk`: the label of a chunk.
-/

namespace SelectorCode

/-- What a chunk says: its engine, its body, and whether the part is captured. -/
structure Label where
  name : Text
  body : Text
  captured : Bool
deriving DecidableEq, Repr

namespace Label

/-- The characters of an engine name. -/
def isNameChar (c : Char) : Bool :=
  c.isAlphanum || c = '_' || c = '-' || c = '+' || c = ':' || c = '*'

/-- Whether a text is an engine name. -/
def isName (t : Text) : Bool :=
  !t.isEmpty && t.all isNameChar

/-- The name and the body of a chunk with an engine name before its first equals sign. -/
def named? (chunk : Text) : Option (Text × Text) :=
  match chunk.dropWhile (· != '=') with
  | [] => none
  | _ :: body =>
    let name := Text.trim (chunk.takeWhile (· != '='))
    if isName name then some (name, body) else none

/-- Whether a text stands wholly between two marks of one kind. -/
def isEnclosed (mark : Char) (t : Text) : Bool :=
  1 < t.length && t.head? = some mark && t.getLast? = some mark

/-- Whether a text looks like a path: two slashes after any opening parentheses, or two points. -/
def looksLikePath (t : Text) : Bool :=
  Text.startsWith "//".toList (t.dropWhile (· == '(')) || Text.startsWith "..".toList t

/-- The engine that a body shows by its look. -/
def impliedEngine (body : Text) : Text :=
  if isEnclosed '"' body || isEnclosed '\x27' body then Engine.text
  else if looksLikePath body then Engine.xpath
  else Engine.css

/-- A label from a name that may carry the star. -/
def ofName (name body : Text) : Label :=
  match name with
  | '*' :: rest => ⟨rest, body, true⟩
  | _ => ⟨name, body, false⟩

/-- The label of a chunk. -/
def ofChunk (chunk : Text) : Label :=
  let chunk := Text.trim chunk
  match named? chunk with
  | some (name, body) => ofName name body
  | none => ofName (impliedEngine chunk) chunk

@[simp]
theorem body_ofName (name body : Text) : (ofName name body).body = body := by
  unfold ofName
  split <;> rfl

/-- The body of a label is no longer than its chunk. -/
theorem length_body_ofChunk_le (chunk : Text) : (ofChunk chunk).body.length ≤ chunk.length := by
  have ht := Text.length_trim_le chunk
  simp only [ofChunk]
  split
  next name body h =>
    unfold named? at h
    have hs := (List.dropWhile_suffix (· != '=') (l := Text.trim chunk)).length_le
    split at h
    · cases h
    next hd =>
      rw [hd, List.length_cons] at hs
      simp only at h
      split at h
      · cases h
        rw [body_ofName]
        omega
      · cases h
  · rwa [body_ofName]

example : ofChunk " *css=a=b ".toList = ⟨"css".toList, "a=b".toList, true⟩ := by decide
example : ofChunk "a[b=c]".toList = ⟨"css".toList, "a[b=c]".toList, false⟩ := by decide

end Label

end SelectorCode
