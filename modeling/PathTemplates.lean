import PathTemplates.Batch
import PathTemplates.Bindings
import PathTemplates.Cache
import PathTemplates.Calendar
import PathTemplates.Cli.Arguments
import PathTemplates.Cli.Command
import PathTemplates.Cli.Report
import PathTemplates.Cli.Run
import PathTemplates.Context
import PathTemplates.Data
import PathTemplates.Dict
import PathTemplates.Engine
import PathTemplates.EnvFile
import PathTemplates.Error
import PathTemplates.Eval
import PathTemplates.Expr.Basic
import PathTemplates.Expr.Expected
import PathTemplates.Expr.Parser
import PathTemplates.Expr.Printer
import PathTemplates.Expr.SyntaxError
import PathTemplates.Expr.Token
import PathTemplates.Expr.Walk
import PathTemplates.Files
import PathTemplates.Function.Arity
import PathTemplates.Function.Builtins
import PathTemplates.Function.Registry
import PathTemplates.Json.Basic
import PathTemplates.Json.Printer
import PathTemplates.Json.Reader
import PathTemplates.Log.Line
import PathTemplates.Log.Message
import PathTemplates.Log.Record
import PathTemplates.Log.Slot
import PathTemplates.Main
import PathTemplates.Number.Decimal
import PathTemplates.Number.Floating
import PathTemplates.Number.Rounded
import PathTemplates.Number.Shortest
import PathTemplates.Path
import PathTemplates.Pattern.Fold
import PathTemplates.Pattern.Match
import PathTemplates.Pattern.Parser
import PathTemplates.Pattern.Syntax
import PathTemplates.Proofs.Batch
import PathTemplates.Proofs.Bindings
import PathTemplates.Proofs.Caching
import PathTemplates.Proofs.Calendar
import PathTemplates.Proofs.Cli.Checking
import PathTemplates.Proofs.Cli.Rendering
import PathTemplates.Proofs.Dict
import PathTemplates.Proofs.Evaluation
import PathTemplates.Proofs.Expr.Expected
import PathTemplates.Proofs.Expr.Grammar
import PathTemplates.Proofs.Expr.Lexing
import PathTemplates.Proofs.Expr.Parsing
import PathTemplates.Proofs.Expr.Printing
import PathTemplates.Proofs.Expr.Walking
import PathTemplates.Proofs.Function.Reporting
import PathTemplates.Proofs.Lookups
import PathTemplates.Proofs.MissingFunctions
import PathTemplates.Proofs.Outcome
import PathTemplates.Proofs.Resource
import PathTemplates.Proofs.Session
import PathTemplates.Proofs.Template.Braces
import PathTemplates.Proofs.Template.Concatenation
import PathTemplates.Proofs.Template.RoundTrip
import PathTemplates.Proofs.Template.Segmentation
import PathTemplates.Resource
import PathTemplates.Settings.Basic
import PathTemplates.Settings.Check
import PathTemplates.Settings.Fault
import PathTemplates.Settings.Load
import PathTemplates.Settings.Source
import PathTemplates.Template.Basic
import PathTemplates.Template.Parser
import PathTemplates.Template.Segment
import PathTemplates.Text.Base64
import PathTemplates.Text.Blank
import PathTemplates.Text.Break
import PathTemplates.Text.Casing
import PathTemplates.Text.CharSet
import PathTemplates.Text.Digit
import PathTemplates.Text.Numeral
import PathTemplates.Text.Position
import PathTemplates.Text.Printable
import PathTemplates.Text.Quoted
import PathTemplates.Text.Search
import PathTemplates.Text.Similar
import PathTemplates.Text.Word
import PathTemplates.Text.Wrap
import PathTemplates.Value
import PathTemplates.Variable
import PathTemplates.Yaml.Cursor
import PathTemplates.Yaml.Document
import PathTemplates.Yaml.Error
import PathTemplates.Yaml.Layout
import PathTemplates.Yaml.Node
import PathTemplates.Yaml.Scalar
import PathTemplates.Yaml.Tag
import PathTemplates.Yaml.Token
import PathTemplates.Yaml.Value
import PathTemplates.Proofs.Function.History
import PathTemplates.Proofs.Settings.Checking
import PathTemplates.Proofs.Settings.Faults
import PathTemplates.Proofs.Settings.Layers
import PathTemplates.Proofs.Settings.Validity
import PathTemplates.Proofs.Settings.Entries
import PathTemplates.Proofs.Settings.Paths
import PathTemplates.Proofs.Settings.Reading
import PathTemplates.Proofs.Settings.Precedence
import PathTemplates.Proofs.Settings.Loading
import PathTemplates.Proofs.Cli.Starting
import PathTemplates.Proofs.Expr.Prefix
import PathTemplates.Proofs.Expr.Spacing
import PathTemplates.Proofs.Expr.Viability
import PathTemplates.Proofs.Expr.Continuation
import PathTemplates.Proofs.Value
import PathTemplates.Proofs.Pattern.GroupNames
import PathTemplates.Proofs.Variables
import PathTemplates.Proofs.Value.Coercion
import PathTemplates.Proofs.Json.Compact
import PathTemplates.Proofs.FieldAccess
import PathTemplates.Proofs.Names
import PathTemplates.Proofs.Value.Rendered
import PathTemplates.Proofs.Text.Fields
import PathTemplates.Proofs.Path
import PathTemplates.Proofs.PathFunctions
import PathTemplates.Proofs.Resource.PathFields
import PathTemplates.Proofs.ErrorPosition
import PathTemplates.Proofs.Expr.Spelling
import PathTemplates.Proofs.Template.Tiling
import PathTemplates.Proofs.Expr.Preorder
import PathTemplates.Proofs.Expr.Places
import PathTemplates.Proofs.Template.FirstUse
import PathTemplates.Proofs.Text.Utf8
