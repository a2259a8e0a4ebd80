import Placeholders.CommandLine.Arguments
import Placeholders.CommandLine.Directory
import Placeholders.CommandLine.Manual
import Placeholders.CommandLine.Report
import Placeholders.Data.Asking
import Placeholders.Data.Datum
import Placeholders.Data.Json
import Placeholders.Data.Yaml.Event
import Placeholders.Data.Yaml.Meaning
import Placeholders.Data.Yaml.Node
import Placeholders.Data.Yaml.Place
import Placeholders.Data.Yaml.Scalar
import Placeholders.Data.Yaml.Tag
import Placeholders.Data.Yaml.Token
import Placeholders.Descriptor.Basic
import Placeholders.Descriptor.Reader
import Placeholders.Digraph.Basic
import Placeholders.Digraph.Walk
import Placeholders.Document.Basic
import Placeholders.Document.Binding
import Placeholders.Engine.Basic
import Placeholders.Engine.Change
import Placeholders.Engine.Editors
import Placeholders.Engine.Summary
import Placeholders.Expansion
import Placeholders.Host
import Placeholders.Keyed
import Placeholders.Main
import Placeholders.Markup.Attributes
import Placeholders.Markup.Entity
import Placeholders.Markup.Token
import Placeholders.Markup.Tree
import Placeholders.Network
import Placeholders.Pattern.Basic
import Placeholders.Pattern.Bracket
import Placeholders.Pattern.Escape
import Placeholders.Pattern.Layout
import Placeholders.Pattern.Octets
import Placeholders.Pattern.Plan
import Placeholders.Pattern.Reader
import Placeholders.Pattern.Search
import Placeholders.Placeholder
import Placeholders.Proofs.CommandLine.Setting
import Placeholders.Proofs.Data.Json
import Placeholders.Proofs.Digraph.Edges
import Placeholders.Proofs.Digraph.Traversal
import Placeholders.Proofs.Document.Below
import Placeholders.Proofs.Document.ClassNames
import Placeholders.Proofs.Document.Forest
import Placeholders.Proofs.Document.Fragment
import Placeholders.Proofs.Document.Growth
import Placeholders.Proofs.Document.Links
import Placeholders.Proofs.Document.Moves
import Placeholders.Proofs.Document.Normal
import Placeholders.Proofs.Document.Reading
import Placeholders.Proofs.Document.Regroup
import Placeholders.Proofs.Document.Retold
import Placeholders.Proofs.Document.Seals
import Placeholders.Proofs.Document.Tour
import Placeholders.Proofs.Editors.Garments
import Placeholders.Proofs.Editors.Generations
import Placeholders.Proofs.Editors.Outfits
import Placeholders.Proofs.Editors.Rebuilding
import Placeholders.Proofs.Editors.Renewing
import Placeholders.Proofs.Editors.Restoring
import Placeholders.Proofs.Editors.Roles
import Placeholders.Proofs.Editors.Sessions
import Placeholders.Proofs.Editors.Spans
import Placeholders.Proofs.Editors.States
import Placeholders.Proofs.Engine.Attached
import Placeholders.Proofs.Engine.Calls
import Placeholders.Proofs.Engine.Changes
import Placeholders.Proofs.Engine.Counting
import Placeholders.Proofs.Engine.InPlace
import Placeholders.Proofs.Engine.Live
import Placeholders.Proofs.Engine.Locality
import Placeholders.Proofs.Engine.Overrides
import Placeholders.Proofs.Engine.Refusal
import Placeholders.Proofs.Engine.Reload
import Placeholders.Proofs.Engine.Reset
import Placeholders.Proofs.Engine.Run
import Placeholders.Proofs.Engine.Selections
import Placeholders.Proofs.Engine.Stepping
import Placeholders.Proofs.Engine.Usage
import Placeholders.Proofs.Entries
import Placeholders.Proofs.Expansion.Agreement
import Placeholders.Proofs.Expansion.AttributeValues
import Placeholders.Proofs.Expansion.Bound
import Placeholders.Proofs.Expansion.Complete
import Placeholders.Proofs.Expansion.Edits
import Placeholders.Proofs.Expansion.Idempotent
import Placeholders.Proofs.Expansion.Injection
import Placeholders.Proofs.Expansion.Made
import Placeholders.Proofs.Expansion.Parts
import Placeholders.Proofs.Expansion.Pass
import Placeholders.Proofs.Expansion.Refresh
import Placeholders.Proofs.Expansion.Rendered
import Placeholders.Proofs.Expansion.Renewed
import Placeholders.Proofs.Expansion.Skeleton
import Placeholders.Proofs.Expansion.Stretches
import Placeholders.Proofs.Expansion.Tables
import Placeholders.Proofs.Expansion.Targets
import Placeholders.Proofs.Expansion.Texts
import Placeholders.Proofs.Expansion.Unbound
import Placeholders.Proofs.Fates
import Placeholders.Proofs.Markup.Classes
import Placeholders.Proofs.Markup.Delimiters
import Placeholders.Proofs.Markup.Escapes
import Placeholders.Proofs.Markup.Legible
import Placeholders.Proofs.Markup.Outline
import Placeholders.Proofs.Markup.Revision
import Placeholders.Proofs.Markup.RoundTrip
import Placeholders.Proofs.Markup.Standing
import Placeholders.Proofs.Markup.Written
import Placeholders.Proofs.Network.Affected
import Placeholders.Proofs.Network.Cycles
import Placeholders.Proofs.Network.Leaves
import Placeholders.Proofs.Network.Queries
import Placeholders.Proofs.Network.Rebuild
import Placeholders.Proofs.Network.Recomputation
import Placeholders.Proofs.Network.References
import Placeholders.Proofs.Network.Regular
import Placeholders.Proofs.Network.Run
import Placeholders.Proofs.Network.Segments
import Placeholders.Proofs.Network.Strands
import Placeholders.Proofs.Network.UpToDate
import Placeholders.Proofs.Pattern.Digits
import Placeholders.Proofs.Pattern.Language
import Placeholders.Proofs.Pattern.Search
import Placeholders.Proofs.Pattern.Signs
import Placeholders.Proofs.Reference
import Placeholders.Proofs.Registry
import Placeholders.Proofs.Storage.Aspects
import Placeholders.Proofs.Storage.Clearing
import Placeholders.Proofs.Storage.Failures
import Placeholders.Proofs.Storage.Keys
import Placeholders.Proofs.Storage.Reopening
import Placeholders.Proofs.Storage.Writes
import Placeholders.Proofs.Text.Cutting
import Placeholders.Proofs.Text.Decimal
import Placeholders.Proofs.Text.Lexicon
import Placeholders.Proofs.Text.Numeral
import Placeholders.Proofs.Text.Occurrences
import Placeholders.Proofs.Text.Trimming
import Placeholders.Proofs.Token
import Placeholders.Proofs.Unshared
import Placeholders.Proofs.Validation.Acceptance
import Placeholders.Proofs.Validation.Accounts
import Placeholders.Proofs.Validation.Addresses
import Placeholders.Proofs.Validation.BuiltIn
import Placeholders.Proofs.Validation.Compilation
import Placeholders.Proofs.Validation.HexAddresses
import Placeholders.Proofs.Validation.Imports
import Placeholders.Proofs.Validation.Ports
import Placeholders.Proofs.Validation.Ranking
import Placeholders.Proofs.Validation.Repetition
import Placeholders.Reference
import Placeholders.Registry
import Placeholders.Settings
import Placeholders.Storage.Backend
import Placeholders.Storage.Store
import Placeholders.Text.Age
import Placeholders.Text.Blank
import Placeholders.Text.Break
import Placeholders.Text.Category
import Placeholders.Text.CharSet
import Placeholders.Text.Cut
import Placeholders.Text.Folding
import Placeholders.Text.Numeral
import Placeholders.Text.Property
import Placeholders.Text.PropertyName
import Placeholders.Text.Script
import Placeholders.Token
import Placeholders.Validation.Catalog
import Placeholders.Validation.Presets
import Placeholders.Validation.Rule
import Placeholders.Validation.RuleSet
import Placeholders.Validation.Verdict
