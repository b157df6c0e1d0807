import Rulebook.Comparison
import Rulebook.Condition
import Rulebook.DatabaseUrl
import Rulebook.Display
import Rulebook.Drawing
import Rulebook.Drl
import Rulebook.Engine
import Rulebook.Fault
import Rulebook.Graph.Basic
import Rulebook.Graph.Linked
import Rulebook.Graph.Validation
import Rulebook.Json.Reader
import Rulebook.Literal
import Rulebook.Migration
import Rulebook.Number.Decimal
import Rulebook.Number.Double
import Rulebook.Number.Layout
import Rulebook.Number.Order
import Rulebook.Number.Shortest
import Rulebook.Numeral
import Rulebook.Path
import Rulebook.Pattern.Letters
import Rulebook.Pattern.Reader
import Rulebook.Pattern.Search
import Rulebook.Pattern.Term
import Rulebook.Proofs.Account
import Rulebook.Proofs.Acting
import Rulebook.Proofs.Adorned
import Rulebook.Proofs.Agreement
import Rulebook.Proofs.Assigning
import Rulebook.Proofs.Display
import Rulebook.Proofs.Drawn
import Rulebook.Proofs.Failing
import Rulebook.Proofs.InPlace
import Rulebook.Proofs.Kept
import Rulebook.Proofs.Lines
import Rulebook.Proofs.Linking
import Rulebook.Proofs.Lookup
import Rulebook.Proofs.Neighbourhood
import Rulebook.Proofs.Numbering
import Rulebook.Proofs.OwnName
import Rulebook.Proofs.Range
import Rulebook.Proofs.Records
import Rulebook.Proofs.Refiring
import Rulebook.Proofs.Reordering
import Rulebook.Proofs.Rereading
import Rulebook.Proofs.Restored
import Rulebook.Proofs.Result
import Rulebook.Proofs.Returned
import Rulebook.Proofs.Revision
import Rulebook.Proofs.Routing
import Rulebook.Proofs.SavedGraphs
import Rulebook.Proofs.SavedRuns
import Rulebook.Proofs.Scope
import Rulebook.Proofs.Sent
import Rulebook.Proofs.Shape
import Rulebook.Proofs.Spelling
import Rulebook.Proofs.Stamps
import Rulebook.Proofs.Totality
import Rulebook.Proofs.Tree
import Rulebook.Proofs.Woven
import Rulebook.Sample
import Rulebook.Schema
import Rulebook.Service.Handler
import Rulebook.Service.Reply
import Rulebook.Service.Request
import Rulebook.Settings
import Rulebook.Simulation
import Rulebook.Store
import Rulebook.Text.Blank
import Rulebook.Text.Case
import Rulebook.Text.CharacterName
import Rulebook.Text.Digit
import Rulebook.Text.Percent
import Rulebook.Text.Quoted
import Rulebook.Text.Replace
import Rulebook.Text.Word
import Rulebook.Timestamp
import Rulebook.Value
import Rulebook.Proofs.Lens
import Rulebook.Proofs.Footprint
import Rulebook.Proofs.Ordering
import Rulebook.Proofs.Coherence
import Rulebook.Proofs.Rounding
import Rulebook.Proofs.Nearest
import Rulebook.Proofs.Denotation
import Rulebook.Proofs.Written
import Rulebook.Proofs.Readback
import Rulebook.Proofs.Integers
import Rulebook.Proofs.Restated
import Rulebook.Proofs.Whole
import Rulebook.Proofs.OwnText
import Rulebook.Proofs.PlainPattern
import Rulebook.Proofs.Reported
import Rulebook.Proofs.Positional
import Rulebook.Proofs.Moments
import Rulebook.Proofs.Drivers
import Rulebook.Proofs.Escapes
import Rulebook.Proofs.ServerAddress
import Rulebook.Proofs.JsonTexts
import Rulebook.Proofs.Origins
