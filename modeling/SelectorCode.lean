import SelectorCode.Attribute.Basic
import SelectorCode.Attribute.Error
import SelectorCode.Attribute.Reader
import SelectorCode.CommandLine.Arguments
import SelectorCode.CommandLine.Run
import SelectorCode.CommandLine.Terminal
import SelectorCode.Json.Number
import SelectorCode.Json.Quoted
import SelectorCode.Locator.Call
import SelectorCode.Locator.Code
import SelectorCode.Locator.Error
import SelectorCode.Locator.Expression
import SelectorCode.Locator.Language
import SelectorCode.Locator.Translation
import SelectorCode.Main
import SelectorCode.Number.Basic
import SelectorCode.Number.Binary64
import SelectorCode.Number.Numeral
import SelectorCode.Number.Shortest
import SelectorCode.Pattern.Basic
import SelectorCode.Pattern.Checked
import SelectorCode.Pattern.Escape
import SelectorCode.Pattern.Fault
import SelectorCode.Pattern.Grammar
import SelectorCode.Pattern.Group
import SelectorCode.Pattern.Portable
import SelectorCode.Pattern.Reader
import SelectorCode.Selector.Basic
import SelectorCode.Selector.Label
import SelectorCode.Selector.NestedBody
import SelectorCode.Selector.Printer
import SelectorCode.Selector.Reading
import SelectorCode.Selector.Split
import SelectorCode.Settings.Basic
import SelectorCode.Settings.Store
import SelectorCode.Text.Basic
import SelectorCode.Text.Blank
import SelectorCode.Text.Cased
import SelectorCode.Text.Digit
import SelectorCode.Text.Identifier
import SelectorCode.Text.Letter
import SelectorCode.Text.Literal
import SelectorCode.Text.Lowercase
import SelectorCode.Text.Naming
import SelectorCode.Text.Shown
import SelectorCode.Text.Unprintable
import SelectorCode.Text.Uppercase
import SelectorCode.TextMatch
import SelectorCode.Proofs.Selector.Scan
import SelectorCode.Proofs.Selector.Label
import SelectorCode.Proofs.Selector.Printing
import SelectorCode.Proofs.Selector.Chunks
import SelectorCode.Proofs.Selector.Reading
import SelectorCode.Proofs.Selector.PrintedChunks
import SelectorCode.Proofs.Selector.RoundTrip
import SelectorCode.Proofs.Json.Literal
import SelectorCode.Proofs.Selector.Quoted
import SelectorCode.Proofs.Selector.Embedding
import SelectorCode.Proofs.Selector.Joining
import SelectorCode.Proofs.Number.Range
import SelectorCode.Proofs.Number.Shortest
import SelectorCode.Proofs.Number.Decimal
import SelectorCode.Proofs.Attribute.Permissive
import SelectorCode.Proofs.Attribute.Quoted
import SelectorCode.Proofs.Locator.Answers
import SelectorCode.Proofs.Locator.Rendering
import SelectorCode.Proofs.Locator.Languages
import SelectorCode.Proofs.Locator.Joining
import SelectorCode.Proofs.Locator.Order
import SelectorCode.Proofs.TextMatch
import SelectorCode.Proofs.Locator.Quoted
import SelectorCode.Proofs.Attribute.Consistency
import SelectorCode.Proofs.Attribute.Printing
import SelectorCode.Proofs.Selector.Within
import SelectorCode.Proofs.Selector.Origin
import SelectorCode.Proofs.Selector.Frames
import SelectorCode.Proofs.Locator.Subexpression
import SelectorCode.Proofs.Locator.Arguments
import SelectorCode.Proofs.Text.Bracketed
import SelectorCode.Proofs.Locator.Bracketed
import SelectorCode.Proofs.Locator.Receiver
import SelectorCode.Proofs.Locator.Tolerance
import SelectorCode.Proofs.Pattern.Excess
import SelectorCode.Proofs.Pattern.Refusal
import SelectorCode.Proofs.Pattern.Units
import SelectorCode.Proofs.Pattern.Portable
import SelectorCode.Proofs.Pattern.Passed
import SelectorCode.Proofs.Pattern.Entire
import SelectorCode.Proofs.Pattern.Literal
import SelectorCode.Proofs.Locator.RawSource
import SelectorCode.Proofs.Locator.RoleValues
import SelectorCode.Proofs.Attribute.Refusal
import SelectorCode.Proofs.Locator.Refusal
import SelectorCode.Proofs.Text.Literal
import SelectorCode.Proofs.Settings.Store
import SelectorCode.Proofs.Selector.RepeatedFrames
import SelectorCode.Proofs.Locator.RepeatedFrames
import SelectorCode.Proofs.CommandLine.Arguments
import SelectorCode.Proofs.CommandLine.Run
import SelectorCode.Proofs.Number.Integral
import SelectorCode.Proofs.Number.Spelling
import SelectorCode.Proofs.Attribute.LocalReader
import SelectorCode.Proofs.Attribute.Locality
import SelectorCode.Proofs.Attribute.Strict
import SelectorCode.Proofs.Attribute.Editing
import SelectorCode.Proofs.Locator.RoleSettings
import SelectorCode.Proofs.Locator.Conditions
import SelectorCode.Proofs.Locator.Exchange
import SelectorCode.Proofs.Locator.Segments
import SelectorCode.Proofs.Selector.Splitting
import SelectorCode.Proofs.Selector.Depth
import SelectorCode.Proofs.Text.Naming
import SelectorCode.Proofs.Pattern.Foreign
