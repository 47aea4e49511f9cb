import Phrasebook.Catalogue
import Phrasebook.Catalogue.Change
import Phrasebook.Catalogue.Fill
import Phrasebook.Catalogue.Reconcile
import Phrasebook.Catalogue.Update
import Phrasebook.Command.Arguments
import Phrasebook.Command.Project
import Phrasebook.Command.Result
import Phrasebook.Command.Run
import Phrasebook.Config
import Phrasebook.Config.Discovery
import Phrasebook.Decimal.Shortest
import Phrasebook.Decimal.Text
import Phrasebook.Extraction
import Phrasebook.Files.Difference
import Phrasebook.Files.Tree
import Phrasebook.Glob
import Phrasebook.Identity
import Phrasebook.Issue
import Phrasebook.Json.Decode
import Phrasebook.Json.Fault
import Phrasebook.Json.Parse
import Phrasebook.Json.Reader
import Phrasebook.Json.Value
import Phrasebook.Json.Writer
import Phrasebook.Lookup
import Phrasebook.Main
import Phrasebook.Marker
import Phrasebook.Numbering
import Phrasebook.Numbering.Apply
import Phrasebook.OrderedMap
import Phrasebook.Path
import Phrasebook.Program.Alias
import Phrasebook.Program.Callee
import Phrasebook.Program.Imports
import Phrasebook.Program.Load
import Phrasebook.Program.Scope
import Phrasebook.Program.Symbols
import Phrasebook.Proofs.Actions
import Phrasebook.Proofs.Coverage
import Phrasebook.Proofs.FileActions
import Phrasebook.Proofs.FileTree
import Phrasebook.Proofs.InsideTexts
import Phrasebook.Proofs.Letters
import Phrasebook.Proofs.Members
import Phrasebook.Proofs.Needs
import Phrasebook.Proofs.OrderedMap
import Phrasebook.Proofs.Ordinals
import Phrasebook.Proofs.Paths
import Phrasebook.Proofs.Projects
import Phrasebook.Proofs.Reconciling
import Phrasebook.Proofs.Rekeying
import Phrasebook.Proofs.RewrittenFiles
import Phrasebook.Proofs.Search
import Phrasebook.Proofs.Settling
import Phrasebook.Proofs.TableFiles
import Phrasebook.Proofs.TableText
import Phrasebook.Proofs.Updates
import Phrasebook.Proofs.Values
import Phrasebook.Proofs.WrittenTables
import Phrasebook.Report
import Phrasebook.Scan.Expand
import Phrasebook.Scan.Files
import Phrasebook.Source.Grammar.Access
import Phrasebook.Source.Grammar.Arrow
import Phrasebook.Source.Grammar.Binding
import Phrasebook.Source.Grammar.Class
import Phrasebook.Source.Grammar.Declaration
import Phrasebook.Source.Grammar.Expression
import Phrasebook.Source.Grammar.Literal
import Phrasebook.Source.Grammar.Markup
import Phrasebook.Source.Grammar.Module
import Phrasebook.Source.Grammar.Operand
import Phrasebook.Source.Grammar.Operator
import Phrasebook.Source.Grammar.Statement
import Phrasebook.Source.Grammar.Types
import Phrasebook.Source.Lexeme
import Phrasebook.Source.Literal
import Phrasebook.Source.Node
import Phrasebook.Source.Pattern
import Phrasebook.Source.Reader
import Phrasebook.Source.Script
import Phrasebook.Source.Spelling
import Phrasebook.Source.Token
import Phrasebook.Table
import Phrasebook.Table.File
import Phrasebook.Terminal
import Phrasebook.Text.Blank
import Phrasebook.Text.Edit
import Phrasebook.Text.Letter
import Phrasebook.Text.Lines
import Phrasebook.Text.Measure
import Phrasebook.Text.Picture
import Phrasebook.Text.Position
import Phrasebook.Text.Quoted
import Phrasebook.Text.Ranges
import Phrasebook.Text.Search
import Phrasebook.Text.Width
import Phrasebook.Text.Window
import Phrasebook.Translation.Job
import Phrasebook.Translation.Plan
import Phrasebook.Translation.Request
import Phrasebook.Translation.Service
import Phrasebook.Translation.Url
import Phrasebook.Translation.Url.Domain
import Phrasebook.Translation.Url.Host
import Phrasebook.Translation.Url.Percent
import Phrasebook.Translation.Url.Punycode
import Phrasebook.Translation.Url.Segments
import Phrasebook.Proofs.Contents
import Phrasebook.Proofs.Filling
import Phrasebook.Proofs.MarkedTexts
import Phrasebook.Proofs.Operations
import Phrasebook.Proofs.LookupCalls
import Phrasebook.Proofs.Committing
import Phrasebook.Proofs.ExportSearch
import Phrasebook.Proofs.Chases
import Phrasebook.Proofs.Reexports
import Phrasebook.Proofs.Declaring
import Phrasebook.Proofs.Overloads
import Phrasebook.Proofs.Listing
import Phrasebook.Proofs.Checking
import Phrasebook.Proofs.Rereading
import Phrasebook.Proofs.Readiness
import Phrasebook.Proofs.Shapes
import Phrasebook.Proofs.Lockstep
import Phrasebook.Proofs.Commuting
import Phrasebook.Proofs.Scoping
import Phrasebook.Proofs.Shadowing
import Phrasebook.Proofs.Converging
import Phrasebook.Proofs.Traversal
import Phrasebook.Proofs.Recording
import Phrasebook.Proofs.TableNames
import Phrasebook.Proofs.Spellings
import Phrasebook.Proofs.Loading
import Phrasebook.Proofs.ImportClosure
import Phrasebook.Proofs.RenderedTables
import Phrasebook.Proofs.GivingUp
import Phrasebook.Proofs.Scanning
import Phrasebook.Proofs.StraightPaths
import Phrasebook.Proofs.Sources
import Phrasebook.Proofs.Constructors
import Phrasebook.Proofs.Maturity
import Phrasebook.Proofs.Gaps
import Phrasebook.Proofs.UnusedKeys
import Phrasebook.Proofs.Edits
import Phrasebook.Proofs.NumberedFiles
import Phrasebook.Proofs.Lines
import Phrasebook.Proofs.Pieces
import Phrasebook.Proofs.KeyLines
import Phrasebook.Proofs.PatternTexts
import Phrasebook.Proofs.ScannedFiles
import Phrasebook.Proofs.Relocating
import Phrasebook.Proofs.NormalForms
import Phrasebook.Proofs.Windows
import Phrasebook.Proofs.Replies
import Phrasebook.Proofs.Positions
import Phrasebook.Proofs.Carets
import Phrasebook.Proofs.LineFeeds
import Phrasebook.Proofs.IssueOrder
