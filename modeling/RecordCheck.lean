import RecordCheck.Builder
import RecordCheck.Catalog
import RecordCheck.Declaration
import RecordCheck.Json.Printer
import RecordCheck.Payload
import RecordCheck.Report
import RecordCheck.Schema
import RecordCheck.Settings
import RecordCheck.Token.Reader
import RecordCheck.Proofs.RuleLine
import RecordCheck.Proofs.Walk
import RecordCheck.Proofs.Outcome
import RecordCheck.Proofs.Reentrancy
import RecordCheck.Proofs.Snapshot
import RecordCheck.Proofs.Localization
import RecordCheck.Proofs.Trace
import RecordCheck.Proofs.Construction
import RecordCheck.Proofs.Listing
import RecordCheck.Proofs.Registration
import RecordCheck.Proofs.Payload
import RecordCheck.Proofs.Schema
import RecordCheck.Proofs.Reading
import RecordCheck.Proofs.Templates
import RecordCheck.Proofs.Comparison
import RecordCheck.Proofs.Substitution
import RecordCheck.Proofs.Missing
import RecordCheck.Proofs.Joining
import RecordCheck.Proofs.Range
import RecordCheck.Proofs.Language
import RecordCheck.Proofs.Label
import RecordCheck.Proofs.Length
import RecordCheck.Proofs.Address
import RecordCheck.Proofs.Mailbox
import RecordCheck.Proofs.Ordering
import RecordCheck.Proofs.Naming
import RecordCheck.Proofs.Choice
import RecordCheck.Proofs.Signedness
import RecordCheck.Proofs.FixedWidth
import RecordCheck.Proofs.CharacterClass
