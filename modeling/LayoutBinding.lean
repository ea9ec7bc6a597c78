import LayoutBinding.Body
import LayoutBinding.Calendar.Date
import LayoutBinding.Calendar.Iso
import LayoutBinding.Calendar.Moment
import LayoutBinding.Calendar.ReferenceLayout
import LayoutBinding.Calendar.Zone
import LayoutBinding.Character.Blank
import LayoutBinding.Character.Case
import LayoutBinding.Character.Digit
import LayoutBinding.Character.Letter
import LayoutBinding.Character.Printable
import LayoutBinding.Character.Range
import LayoutBinding.Config
import LayoutBinding.Context
import LayoutBinding.Entries
import LayoutBinding.Error
import LayoutBinding.Evaluation.Chain
import LayoutBinding.Evaluation.Field
import LayoutBinding.Evaluation.Method
import LayoutBinding.Evaluation.Toolbox
import LayoutBinding.Expression.Basic
import LayoutBinding.Expression.Parser
import LayoutBinding.Expression.Reader
import LayoutBinding.Expression.Segment
import LayoutBinding.Fault
import LayoutBinding.FilePath
import LayoutBinding.FileStore
import LayoutBinding.Forest
import LayoutBinding.Formatter.Builtin
import LayoutBinding.Formatter.Registry
import LayoutBinding.Layout.Library
import LayoutBinding.Layout.Name
import LayoutBinding.Link.Anchor
import LayoutBinding.Link.Identifier
import LayoutBinding.Link.Index
import LayoutBinding.Link.Resolver
import LayoutBinding.Link.Site
import LayoutBinding.Number.Double
import LayoutBinding.Number.Numeral
import LayoutBinding.Number.Shortest
import LayoutBinding.Page.Forest
import LayoutBinding.Page.FrontMatter
import LayoutBinding.Page.Rendering
import LayoutBinding.Template.Basic
import LayoutBinding.Template.Builder
import LayoutBinding.Template.Directive
import LayoutBinding.Template.Events
import LayoutBinding.Template.Rendering
import LayoutBinding.Template.StartTag
import LayoutBinding.Text.Basic
import LayoutBinding.Text.Escape
import LayoutBinding.Text.NamedReference
import LayoutBinding.Text.Newline
import LayoutBinding.Text.Quoted
import LayoutBinding.Text.Reference
import LayoutBinding.Text.Trim
import LayoutBinding.Traversal
import LayoutBinding.Value.Basic
import LayoutBinding.Value.Equality
import LayoutBinding.Value.Member
import LayoutBinding.Value.Order
import LayoutBinding.Value.Quoted
import LayoutBinding.Value.Text
import LayoutBinding.Proofs.Expression.Grammar
import LayoutBinding.Proofs.Expression.Derivation
import LayoutBinding.Proofs.Expression.WholeText
import LayoutBinding.Proofs.Expression.Front
import LayoutBinding.Proofs.Expression.Tiling
import LayoutBinding.Proofs.Template.LoopUnrolling
import LayoutBinding.Proofs.Template.Gathering
import LayoutBinding.Proofs.Template.Transcript
import LayoutBinding.Proofs.Template.MarkupSafety
import LayoutBinding.Proofs.Evaluation.Bareness
import LayoutBinding.Proofs.Evaluation.Blame
import LayoutBinding.Proofs.Template.Provenance
import LayoutBinding.Proofs.Template.Passthrough
import LayoutBinding.Proofs.Character.LowerCase
import LayoutBinding.Proofs.Link.SiteIndex
import LayoutBinding.Proofs.Template.SpelledTag
import LayoutBinding.Proofs.Template.TagLocality
import LayoutBinding.Proofs.Template.TagNames
import LayoutBinding.Proofs.Template.RebuiltTag
import LayoutBinding.Proofs.Template.Filling
import LayoutBinding.Proofs.Template.Outline
import LayoutBinding.Proofs.Template.Rereading
import LayoutBinding.Proofs.Template.RawElements
import LayoutBinding.Proofs.Template.ReturnedTag
import LayoutBinding.Proofs.Template.SecondReading
import LayoutBinding.Proofs.Template.Nesting
import LayoutBinding.Proofs.Link.DeclaredAnchors
import LayoutBinding.Proofs.Link.BodyAnchors
import LayoutBinding.Proofs.Layout.PathText
import LayoutBinding.Proofs.Layout.History
import LayoutBinding.Proofs.Layout.Precedence
import LayoutBinding.Proofs.Evaluation.FurtherNames
import LayoutBinding.Proofs.Expression.FurtherNames
import LayoutBinding.Proofs.Template.FurtherNames
import LayoutBinding.Proofs.Evaluation.SafeValues
import LayoutBinding.Proofs.Evaluation.Faults
import LayoutBinding.Proofs.Template.Faults
import LayoutBinding.Proofs.Expression.Embedding
import LayoutBinding.Proofs.Formatter.Runs
import LayoutBinding.Proofs.Template.DocumentOrder
import LayoutBinding.Proofs.Template.Locations
import LayoutBinding.Proofs.Evaluation.Order
import LayoutBinding.Proofs.Template.DirectiveOrder
import LayoutBinding.Proofs.Template.ReplacedContent
import LayoutBinding.Proofs.Body.Concatenation
import LayoutBinding.Proofs.Calendar.ReferenceMoment
import LayoutBinding.Proofs.Calendar.LongestMatch
import LayoutBinding.Proofs.Calendar.IsoReading
import LayoutBinding.Proofs.Calendar.Timestamps
import LayoutBinding.Proofs.Calendar.DayNumbers
import LayoutBinding.Proofs.Formatter.DateMethods
import LayoutBinding.Proofs.Formatter.Specificity
import LayoutBinding.Proofs.Text.Escaping
import LayoutBinding.Proofs.Text.Trimming
import LayoutBinding.Proofs.Link.CommonSpelling
import LayoutBinding.Proofs.Link.Lookups
import LayoutBinding.Proofs.Page.Walk
import LayoutBinding.Proofs.Link.RepeatedPages
import LayoutBinding.Proofs.Link.References
import LayoutBinding.Proofs.Evaluation.LoopIndependence
import LayoutBinding.Proofs.Template.LoopIndependence
import LayoutBinding.Proofs.Layout.Confinement
import LayoutBinding.Proofs.Formatter.ArgumentGate
import LayoutBinding.Proofs.Formatter.SequenceFields
import LayoutBinding.Proofs.Template.EndTags
import LayoutBinding.Proofs.Template.WellFormedTree
