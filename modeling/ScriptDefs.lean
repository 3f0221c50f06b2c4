import ScriptDefs.Number.Numeral
import ScriptDefs.Text.Case
import ScriptDefs.Text.Clean
import ScriptDefs.Text.Quoted
import ScriptDefs.Data.Basic
import ScriptDefs.Data.Assoc
import ScriptDefs.Data.Display
import ScriptDefs.Data.Json.Printer
import ScriptDefs.Data.Json.Reader
import ScriptDefs.Data.Field
import ScriptDefs.Diagnostic
import ScriptDefs.Patch.Read
import ScriptDefs.Patch.Apply
import ScriptDefs.Catalogue.Cast
import ScriptDefs.Catalogue.Link
import ScriptDefs.Catalogue.Effect
import ScriptDefs.Render.Kind
import ScriptDefs.Render.ParameterName
import ScriptDefs.Types.Plain
import ScriptDefs.Types.Reading
import ScriptDefs.Types.Format
import ScriptDefs.Types.Spec
import ScriptDefs.Types.Builtin.Standard
import ScriptDefs.Catalogue.Plain
import ScriptDefs.Remap
import ScriptDefs.Random.Sha512
import ScriptDefs.Random.MersenneTwister
import ScriptDefs.Types.Sample
import ScriptDefs.Render.Output
import ScriptDefs.Markup.Callback
import ScriptDefs.Markup.Registry
import ScriptDefs.Markup.Xml.Reader
import ScriptDefs.Keywords.Markup
import ScriptDefs.Keywords.FromTree
import ScriptDefs.Log
import ScriptDefs.Yaml.Value
import ScriptDefs.Keywords.Indented
import ScriptDefs.Keywords.FromData
import ScriptDefs.Patch.File
import ScriptDefs.Main
import ScriptDefs.Proofs.Types.WellFormed
import ScriptDefs.Proofs.Types.RoundTrip
import ScriptDefs.Proofs.Patch.Place
import ScriptDefs.Proofs.Patch.Edit
import ScriptDefs.Proofs.Markup.Part
import ScriptDefs.Proofs.Markup.Nesting
import ScriptDefs.Proofs.Markup.Building
import ScriptDefs.Proofs.Markup.Arena
import ScriptDefs.Proofs.Markup.Lifecycle
import ScriptDefs.Proofs.Data.Related
import ScriptDefs.Proofs.Data.Rewording
import ScriptDefs.Proofs.Patch.Rewording
import ScriptDefs.Proofs.Types.Rewording
import ScriptDefs.Proofs.Remap.Widening
import ScriptDefs.Proofs.Remap.Modes
import ScriptDefs.Proofs.Remap.UnknownTypes
import ScriptDefs.Proofs.Data.Inherited
import ScriptDefs.Proofs.Types.Accepted
import ScriptDefs.Proofs.Data.JsonForm
import ScriptDefs.Proofs.Catalogue.Accepted
import ScriptDefs.Proofs.Data.Changes
import ScriptDefs.Proofs.Keywords.Arguments
import ScriptDefs.Proofs.Remap.WellFormed
import ScriptDefs.Proofs.Catalogue.RoundTrip
import ScriptDefs.Proofs.Remap.Locality
import ScriptDefs.Proofs.Types.Printing
import ScriptDefs.Proofs.Render.Declarations
import ScriptDefs.Proofs.Render.Output
import ScriptDefs.Proofs.Patch.Restating
import ScriptDefs.Proofs.Keywords.Reread
import ScriptDefs.Proofs.Keywords.Recovery
import ScriptDefs.Proofs.Remap.Recovery
import ScriptDefs.Proofs.Number.Decimal
import ScriptDefs.Proofs.Keywords.Formats
import ScriptDefs.Proofs.Types.Outline
import ScriptDefs.Proofs.Types.Unambiguous
import ScriptDefs.Proofs.Number.Rounding
import ScriptDefs.Proofs.Number.Shortest
import ScriptDefs.Proofs.Data.Json.Number
import ScriptDefs.Proofs.Data.Json.Strings
import ScriptDefs.Proofs.Data.Json.Scalars
import ScriptDefs.Proofs.Data.Json.RoundTrip
import ScriptDefs.Proofs.Render.Lossless
import ScriptDefs.Proofs.Patch.Order
import ScriptDefs.Proofs.Data.Runs
import ScriptDefs.Proofs.Text.Spaces
import ScriptDefs.Proofs.Text.Unwrap
import ScriptDefs.Proofs.Files
import ScriptDefs.Proofs.CommandLine.Delivery
import ScriptDefs.Proofs.Types.Named
import ScriptDefs.Proofs.Render.Identifiers
import ScriptDefs.Proofs.Remap.Named
import ScriptDefs.Proofs.Data.Merged
import ScriptDefs.Proofs.Remap.Layout
import ScriptDefs.Proofs.Types.Preferred
import ScriptDefs.Proofs.Types.Undescribed
import ScriptDefs.Proofs.Text.Annotated
import ScriptDefs.Proofs.Render.Comments
import ScriptDefs.Proofs.Number.LeadingInteger
import ScriptDefs.Proofs.Catalogue.Effect
import ScriptDefs.Proofs.Text.Reference
import ScriptDefs.Proofs.Keywords.Constants
import ScriptDefs.Proofs.Data.Json.Ascii
import ScriptDefs.Proofs.Data.Json.Reading
import ScriptDefs.Proofs.Patch.Described
import ScriptDefs.Proofs.Markup.History
import ScriptDefs.Proofs.Number.Overflow
import ScriptDefs.Proofs.Number.LongestNumeral
import ScriptDefs.Proofs.Number.LeadingFloat
import ScriptDefs.Proofs.Render.Independence
import ScriptDefs.Proofs.Render.Parameters
import ScriptDefs.Proofs.Markup.Pieces
