import SelectorCode.Selector.Basic

/-!
# Printing chains

A chain is printed as its parts with `>>` between them. The engine is left out where reading finds it again by the
look of the body.

## Main Definitions

* `Part.impliesEngine`: whether the body of a part shows its engine.
* `Part.text`: a part on its own.
* `Chain.text`: a chain.
-/

namespace SelectorCode

/-- What stands between two parts. -/
def separator : Text := " >> ".toList

namespace Part

/-- Style-sheet selectors, and paths that look like one. -/
def impliesEngine (p : Part) : Bool :=
  p.name = Engine.css ||
    (p.name = Engine.xpath &&
      (Text.startsWith "//".toList p.source || Text.startsWith "..".toList p.source))

/-- A part without its engine. -/
def bare (p : Part) : Text :=
  p.source

/-- A part with its engine. -/
def named (p : Part) : Text :=
  p.name ++ '=' :: p.source

/-- A part that is not captured, with the engine when it is wanted or not implied. -/
def text (explicit : Bool) (p : Part) : Text :=
  if explicit || !p.impliesEngine then p.named else p.bare

/-- A captured part. -/
def capturedText (p : Part) : Text :=
  '*' :: p.named

end Part

namespace Chain

/-- The printed parts, where the part at index `capture` counted from here is captured. -/
def partTexts (explicit : Bool) : Option Nat → List Part → List Text
  | _, [] => []
  | none, p :: ps => p.text explicit :: partTexts explicit none ps
  | some 0, p :: ps => p.capturedText :: partTexts explicit none ps
  | some (n + 1), p :: ps => p.text explicit :: partTexts explicit (some n) ps

/-- The text of a chain, with every engine when `explicit`. -/
def text (explicit : Bool) (c : Chain) : Text :=
  separator.intercalate (partTexts explicit c.capture c.parts)

end Chain

end SelectorCode
