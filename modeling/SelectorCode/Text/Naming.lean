import SelectorCode.Text.Lowercase
import SelectorCode.Text.Uppercase

/-!
# Naming conventions

Names arrive in camel case (`includeHidden`) and are respelled for languages with other conventions.

## Main Definitions

* `titleCase`: the first character in upper case (`IncludeHidden`).
* `breakAfterLower`, `breakBeforeWord`: the two places where an underscore separates words.
* `snakeCase`: words in lower case, separated by underscores (`include_hidden`).
-/

namespace SelectorCode.Text

/-- A name with its first character in upper case. -/
def titleCase : Text → Text
  | [] => []
  | c :: r => upperChar c ++ r

/-- ASCII lower-case letters and digits, after which a capital starts a word. -/
def endsWord (c : Char) : Bool :=
  c.isLower || c.isDigit

/-- Puts an underscore between a lower-case letter or digit and the capital that follows it. -/
def breakAfterLower : Text → Text
  | c :: d :: r =>
    if endsWord c && d.isUpper then c :: '_' :: d :: breakAfterLower r
    else c :: breakAfterLower (d :: r)
  | t => t

/-- Puts an underscore between a capital and a capital that starts a word in lower-case letters. -/
def breakBeforeWord : Text → Text
  | c :: d :: e :: r =>
    if c.isUpper && d.isUpper && e.isLower then c :: '_' :: d :: e :: breakBeforeWord r
    else c :: breakBeforeWord (d :: e :: r)
  | t => t

/-- A name in lower case with its words separated by underscores. -/
def snakeCase (t : Text) : Text :=
  lower (breakBeforeWord (breakAfterLower t))

example : titleCase "includeHidden".toList = "IncludeHidden".toList := by decide
example : snakeCase "includeHTMLHidden2Go".toList = "include_html_hidden2_go".toList := by decide

end SelectorCode.Text
