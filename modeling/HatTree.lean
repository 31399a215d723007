import HatTree.Compile
import HatTree.Document
import HatTree.Double
import HatTree.Double.Fixed
import HatTree.Double.Shortest
import HatTree.HatId.Ancestry
import HatTree.HatId.Dotted
import HatTree.HatId.Hex
import HatTree.HatId.Segments
import HatTree.HatId.Walk
import HatTree.Issue
import HatTree.Kind
import HatTree.Layout
import HatTree.Ledger
import HatTree.Log.Clock
import HatTree.Log.Context
import HatTree.Log.Preview
import HatTree.Log.Record
import HatTree.Log.Secret
import HatTree.Log.Session
import HatTree.Lookup
import HatTree.Note
import HatTree.Numeral
import HatTree.Ordered
import HatTree.PageBounds
import HatTree.Projection
import HatTree.Raised
import HatTree.Reading
import HatTree.Registry
import HatTree.Report
import HatTree.Revert
import HatTree.Schema
import HatTree.Selection
import HatTree.Selection.Text
import HatTree.Settings
import HatTree.Settings.Environment
import HatTree.Template
import HatTree.Template.Fill
import HatTree.Text.Blank
import HatTree.Text.Digit
import HatTree.Text.Lowercase
import HatTree.Text.Printable
import HatTree.Text.Quoted
import HatTree.Text.Ranges
import HatTree.Text.WordChar
import HatTree.Value
import HatTree.Value.Json
import HatTree.Value.Show
import HatTree.Vocabulary
import HatTree.Proofs.Numeral
import HatTree.Proofs.HatId.Digits
import HatTree.Proofs.HatId.RoundTrip
import HatTree.Proofs.HatId.Path
import HatTree.Proofs.HatId.Bits
import HatTree.Proofs.HatId.Climb
import HatTree.Proofs.Selection.Field
import HatTree.Proofs.PageBounds
import HatTree.Proofs.Selection.Resolution
import HatTree.Proofs.Vocabulary
import HatTree.Proofs.Selection.Grammar
import HatTree.Proofs.Selection.Spelling
import HatTree.Proofs.Compile
import HatTree.Proofs.Vocabulary.Language
import HatTree.Proofs.Vocabulary.Selected
import HatTree.Proofs.Compile.Checked
import HatTree.Proofs.Lookup
import HatTree.Proofs.Selection.Reader
import HatTree.Proofs.Vocabulary.Issues
import HatTree.Proofs.Projection
import HatTree.Proofs.PageBounds.Accepted
import HatTree.Proofs.Compile.Precedence
import HatTree.Proofs.HatId.Language
import HatTree.Proofs.HatId.Meaning
import HatTree.Proofs.HatId.Hex
import HatTree.Proofs.Selection.Bounds
import HatTree.Proofs.Compile.Paging
import HatTree.Proofs.Ledger.Forest
import HatTree.Proofs.Ledger.Lineage
import HatTree.Proofs.HatId.Truncation
import HatTree.Proofs.HatId.Child
import HatTree.Proofs.Ledger.Prediction
import HatTree.Proofs.Document
import HatTree.Proofs.Lookup.Closed
import HatTree.Proofs.Lookup.Batch
import HatTree.Proofs.Log.Lead
import HatTree.Proofs.Log.Guard
import HatTree.Proofs.Log.Occurrences
import HatTree.Proofs.Log.Scan
import HatTree.Proofs.Log.Redaction
import HatTree.Proofs.Lookup.Pages
import HatTree.Proofs.Log.Origin
import HatTree.Proofs.Log.Settled
import HatTree.Proofs.Log.Preview
import HatTree.Proofs.Log.SafeText
import HatTree.Proofs.Log.Shield
import HatTree.Proofs.Log.Entry
import HatTree.Proofs.Revert
import HatTree.Proofs.Settings.Listing
import HatTree.Proofs.Log.Fields
import HatTree.Proofs.HatId.Decoding
import HatTree.Proofs.Log.Line
