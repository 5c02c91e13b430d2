import IconForge.Keyed
import IconForge.Naming
import IconForge.Variant
import IconForge.Icon
import IconForge.Environment
import IconForge.CommandLine
import IconForge.Text.Quoted
import IconForge.Text.Octets
import IconForge.Decimal.Read
import IconForge.Decimal.Shortest
import IconForge.Svg.Markup
import IconForge.Svg.Tree
import IconForge.Script.Literal
import IconForge.Script.PropName
import IconForge.Script.Expression
import IconForge.Preview
import IconForge.Json5.Value
import IconForge.Module.Source
import IconForge.Module.Decode
import IconForge.Yaml.Meaning
import IconForge.Config.Decode
import IconForge.Config.Load
import IconForge.Settings
import IconForge.Files.Access
import IconForge.Template.Library
import IconForge.Task
import IconForge.Gather
import IconForge.Output
import IconForge.Refresh
import IconForge.Scaffold
import IconForge.Run
import IconForge.Main
import IconForge.Proofs.Json5.Layout
import IconForge.Proofs.Module.RoundTrip
import IconForge.Proofs.Svg.Reference
import IconForge.Proofs.Svg.TagAttributes
import IconForge.Proofs.Svg.Traversal
import IconForge.Proofs.Svg.Tag
import IconForge.Proofs.Svg.Building
import IconForge.Proofs.Svg.Legible
import IconForge.Proofs.Svg.RoundTrip
import IconForge.Proofs.Svg.Cleaning
import IconForge.Proofs.Svg.Legibility
import IconForge.Proofs.Svg.Collapse
import IconForge.Proofs.Svg.Weight
import IconForge.Proofs.Svg.Stability
import IconForge.Proofs.Svg.Documents
import IconForge.Proofs.Files.Change
import IconForge.Proofs.Gather.Outcome
import IconForge.Proofs.Output.Rendering
import IconForge.Proofs.Run.Build
import IconForge.Proofs.Script.RoundTrip
import IconForge.Proofs.Svg.Nesting
import IconForge.Proofs.Run.Convert
import IconForge.Proofs.Run.Checks
import IconForge.Proofs.Output.Interruption
import IconForge.Proofs.Script.MapModule
import IconForge.Proofs.Naming
import IconForge.Proofs.Script.Choice
import IconForge.Proofs.Output.Texts
import IconForge.Proofs.Output.Selection
import IconForge.Proofs.Run.Phases
import IconForge.Proofs.Naming.Pascal
import IconForge.Proofs.Script.Statements
import IconForge.Proofs.Output.Exports
import IconForge.Proofs.Output.Component
import IconForge.Proofs.Svg.Containers
import IconForge.Proofs.Svg.Elements
import IconForge.Proofs.Gather.Loading
import IconForge.Proofs.Script.Printing
import IconForge.Proofs.Script.PropName
import IconForge.Proofs.Script.Properties
import IconForge.Proofs.Script.Tags
import IconForge.Proofs.Script.Comments
import IconForge.Proofs.Output.Previews
import IconForge.Proofs.Icon.Insertion
import IconForge.Proofs.Module.Outline
import IconForge.Proofs.Script.Indentation
import IconForge.Proofs.Scaffold
import IconForge.Proofs.Run.Settings
import IconForge.Proofs.Config.Reading
import IconForge.Proofs.Svg.Names
import IconForge.Proofs.Naming.Camel
import IconForge.Proofs.Script.Imports
import IconForge.Proofs.Output.References
import IconForge.Proofs.CommandLine.Parsing
import IconForge.Proofs.Output.Templates
import IconForge.Proofs.Scaffold.Templates
import IconForge.Proofs.Naming.Pattern
import IconForge.Proofs.Script.StringLiteral
import IconForge.Proofs.Svg.Matching
import IconForge.Proofs.Template.Engine
