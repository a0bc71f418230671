import SelectorCode.Text.Basic

/-!
# Blank characters

The white space of this library: the horizontal and vertical separators of ASCII, the four information
separators U+001C to U+001F, and every space or line separator of Unicode.

## Main Definitions

* `isBlank`: the class.
* `trimStart`, `trimEnd`, `trim`: a text without the blanks at one or both ends.
* `isAllBlank`: a text of blanks only.
-/

namespace SelectorCode.Text

/-- Blank characters, as ranges of code points. -/
def blankRanges : List (Nat × Nat) := [
    (0x09, 0x0D), (0x1C, 0x20), (0x85, 0x85), (0xA0, 0xA0), (0x1680, 0x1680), (0x2000, 0x200A),
    (0x2028, 0x2029), (0x202F, 0x202F), (0x205F, 0x205F), (0x3000, 0x3000)]

/-- White space. -/
def isBlank (c : Char) : Bool :=
  inRanges blankRanges c

/-- A text without its leading blanks. -/
def trimStart (t : Text) : Text :=
  t.dropWhile isBlank

/-- A text without its trailing blanks. -/
def trimEnd (t : Text) : Text :=
  (t.reverse.dropWhile isBlank).reverse

/-- A text without the blanks at its ends. -/
def trim (t : Text) : Text :=
  trimEnd (trimStart t)

theorem length_trim_le (t : Text) : (trim t).length ≤ t.length := by
  have h1 := (List.dropWhile_suffix isBlank (l := t)).length_le
  have h2 := (List.dropWhile_suffix isBlank (l := (trimStart t).reverse)).length_le
  rw [List.length_reverse] at h2
  rw [trim, trimEnd, List.length_reverse]
  exact Nat.le_trans h2 h1

/-- Whether a text holds nothing but blanks. -/
def isAllBlank (t : Text) : Bool :=
  t.all isBlank

end SelectorCode.Text
