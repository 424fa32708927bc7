import DocStore.Keyed
import DocStore.Text.Blank
import DocStore.Text.Word
import DocStore.Text.Lowercase
import DocStore.Text.Width
import DocStore.Text.Quoted
import DocStore.Decimal.Notation
import DocStore.Decimal.Reading
import DocStore.Time.Reading
import DocStore.Time.Writing
import DocStore.Json.Reader
import DocStore.Value.Text
import DocStore.Record
import DocStore.Main
import DocStore.Proofs.Query.Ceiling
import DocStore.Proofs.Query.Grammar
import DocStore.Proofs.Tree.RoundTrip
import DocStore.Proofs.Database.FlatMap
import DocStore.Proofs.Database.Reopening
import DocStore.Proofs.Query.Closing
import DocStore.Proofs.Query.Progress
import DocStore.Proofs.Tree.Hollow
import DocStore.Proofs.Database.Collections
import DocStore.Proofs.Disk.Frame
import DocStore.Proofs.Json.Source
import DocStore.Proofs.Session.Files
import DocStore.Proofs.Json.Finite
import DocStore.Proofs.Value.Places
import DocStore.Proofs.Tree.Source
import DocStore.Proofs.Value.Integers
import DocStore.Proofs.Value.Codecs
import DocStore.Proofs.Database.Integers
import DocStore.Proofs.Database.OneRecord
import DocStore.Proofs.Database.Batches
import DocStore.Proofs.Database.Refusals
import DocStore.Proofs.Query.Lexemes
import DocStore.Proofs.Query.Spacing
import DocStore.Proofs.Query.Quoting
import DocStore.Proofs.Query.Rendering
import DocStore.Proofs.Query.Dependence
import DocStore.Proofs.Query.Partition
import DocStore.Proofs.Query.Respacing
import DocStore.Proofs.Query.Joining
import DocStore.Proofs.Query.Paths
import DocStore.Proofs.Query.Single
import DocStore.Proofs.Double.Rounding
import DocStore.Proofs.Query.Outcome
import DocStore.Proofs.Query.Selection
import DocStore.Proofs.Double.Whole
import DocStore.Proofs.Query.IntegerOrder
import DocStore.Proofs.Decimal.Places
import DocStore.Proofs.Query.Dates
import DocStore.Proofs.Text.Lowercase
import DocStore.Proofs.Query.Substrings
import DocStore.Proofs.Time.Figures
import DocStore.Proofs.Time.Parts
import DocStore.Proofs.Time.Forms
import DocStore.Proofs.Time.Unambiguous
import DocStore.Proofs.Time.Accepted
import DocStore.Proofs.Time.Documented
import DocStore.Proofs.Time.Rereading
import DocStore.Proofs.Query.Descent
