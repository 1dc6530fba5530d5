import GeneratedContent.CommandLine.Help
import GeneratedContent.CommandLine.Invocation
import GeneratedContent.CommandLine.Run
import GeneratedContent.CommandLine.Switch
import GeneratedContent.Content.Basic
import GeneratedContent.Content.Escape
import GeneratedContent.Content.Reader
import GeneratedContent.Content.Resolve
import GeneratedContent.Content.Token
import GeneratedContent.Conversion
import GeneratedContent.Counter.Numeral
import GeneratedContent.Counter.Run
import GeneratedContent.Css.Block
import GeneratedContent.Css.Comment
import GeneratedContent.Css.Lexeme
import GeneratedContent.Css.Split
import GeneratedContent.File.Encoding
import GeneratedContent.File.Path
import GeneratedContent.File.Script
import GeneratedContent.File.System
import GeneratedContent.Html.Edit
import GeneratedContent.Html.Event
import GeneratedContent.Html.Node
import GeneratedContent.Html.Page
import GeneratedContent.Html.Place
import GeneratedContent.Html.Printer
import GeneratedContent.Html.Reference
import GeneratedContent.Html.ReferenceTable
import GeneratedContent.Injection.Basic
import GeneratedContent.Injection.Marker
import GeneratedContent.Injection.Target
import GeneratedContent.Main
import GeneratedContent.OrderedMap
import GeneratedContent.Proofs.Content.Items
import GeneratedContent.Proofs.Conversion
import GeneratedContent.Proofs.Counter.Run
import GeneratedContent.Proofs.Css.Commenting
import GeneratedContent.Proofs.Css.Cutting
import GeneratedContent.Proofs.Css.Extent
import GeneratedContent.Proofs.Css.Joining
import GeneratedContent.Proofs.Css.Lexing
import GeneratedContent.Proofs.Css.Masking
import GeneratedContent.Proofs.Css.Outline
import GeneratedContent.Proofs.Css.Passage
import GeneratedContent.Proofs.Css.Sheet
import GeneratedContent.Proofs.Css.Span
import GeneratedContent.Proofs.Html.Elements
import GeneratedContent.Proofs.Html.Enriched
import GeneratedContent.Proofs.Html.Numbering
import GeneratedContent.Proofs.Html.Parting
import GeneratedContent.Proofs.Html.Recast
import GeneratedContent.Proofs.Injection.Counting
import GeneratedContent.Proofs.Injection.Growth
import GeneratedContent.Proofs.Injection.Insertion
import GeneratedContent.Proofs.Injection.Interference
import GeneratedContent.Proofs.Injection.Layout
import GeneratedContent.Proofs.Injection.Marker
import GeneratedContent.Proofs.Injection.Repetition
import GeneratedContent.Proofs.Injection.Surroundings
import GeneratedContent.Proofs.OrderedMap
import GeneratedContent.Proofs.Rule.Commenting
import GeneratedContent.Proofs.Rule.Remainder
import GeneratedContent.Proofs.Selector.Ignoring
import GeneratedContent.Proofs.Selector.Overlooking
import GeneratedContent.Proofs.Series
import GeneratedContent.Proofs.Style.Marker
import GeneratedContent.Proofs.Text.Letter
import GeneratedContent.Proofs.Text.Marks
import GeneratedContent.Rule.Basic
import GeneratedContent.Rule.Owner
import GeneratedContent.Rule.PseudoElement
import GeneratedContent.Rule.Remainder
import GeneratedContent.Selector.Basic
import GeneratedContent.Selector.Matching
import GeneratedContent.Selector.Name
import GeneratedContent.Selector.Reader
import GeneratedContent.Selector.Token
import GeneratedContent.Settings
import GeneratedContent.Style.Basic
import GeneratedContent.Style.Declaration
import GeneratedContent.Style.Marker
import GeneratedContent.Text.Basic
import GeneratedContent.Text.Blank
import GeneratedContent.Text.Caseless
import GeneratedContent.Text.Letter
import GeneratedContent.Text.Lowercase
import GeneratedContent.Text.Quoted
import GeneratedContent.Text.Tables
import GeneratedContent.Proofs.Css.Closing
import GeneratedContent.Proofs.Css.Truncation
import GeneratedContent.Proofs.Style.Appending
import GeneratedContent.Proofs.CommandLine.Delivery
import GeneratedContent.Proofs.Html.Canonical
import GeneratedContent.Proofs.Html.ReadBack
import GeneratedContent.Proofs.Unmatched
import GeneratedContent.Proofs.Injection.Context
import GeneratedContent.Proofs.Rule.Body
import GeneratedContent.Proofs.Rule.Listing
import GeneratedContent.Proofs.Rule.Universal
import GeneratedContent.Proofs.Text.Words
import GeneratedContent.Proofs.Rule.Container
import GeneratedContent.Proofs.Rule.Descendant
import GeneratedContent.Proofs.Rule.Cleaning
import GeneratedContent.Proofs.Rule.Front
import GeneratedContent.Proofs.Content.Arguments
import GeneratedContent.Proofs.Css.Strings
import GeneratedContent.Proofs.Rule.Quoted
import GeneratedContent.Proofs.Text.Caseless
import GeneratedContent.Proofs.Text.Backslash
import GeneratedContent.Proofs.Content.Decoding
import GeneratedContent.Proofs.Style.Importance
import GeneratedContent.Proofs.Rule.LastTag
import GeneratedContent.Proofs.Rule.EscapedColon
import GeneratedContent.Proofs.Counter.Alphabetic
import GeneratedContent.Proofs.Counter.Roman
import GeneratedContent.Proofs.Counter.Numeral
import GeneratedContent.Proofs.Counter.RunLength
import GeneratedContent.Proofs.File.Log
import GeneratedContent.Proofs.CommandLine.Verbosity
import GeneratedContent.Proofs.CommandLine.Outcome
import GeneratedContent.Proofs.File.Placing
import GeneratedContent.Proofs.File.Reporting
import GeneratedContent.Proofs.CommandLine.Failure
import GeneratedContent.Proofs.Checked.Position
import GeneratedContent.Proofs.Css.Stripping
import GeneratedContent.Proofs.Checked.Stylesheet
import GeneratedContent.Proofs.Checked.Rules
import GeneratedContent.Proofs.Css.Splitting
import GeneratedContent.Proofs.Style.Completion
