import EventLoom.Mapping.Record
import EventLoom.Outcome
import EventLoom.Problem.Request
import EventLoom.Proofs.ActivationOutcome
import EventLoom.Proofs.Alternation
import EventLoom.Proofs.Concatenation
import EventLoom.Proofs.Containment
import EventLoom.Proofs.CursorTrail
import EventLoom.Proofs.Encoding
import EventLoom.Proofs.FailureLog
import EventLoom.Proofs.KeyPositions
import EventLoom.Proofs.LogRecords
import EventLoom.Proofs.MappingReading
import EventLoom.Proofs.MappingRecord
import EventLoom.Proofs.NameGuard
import EventLoom.Proofs.Occupancy
import EventLoom.Proofs.OptionalHints
import EventLoom.Proofs.ProblemLog
import EventLoom.Proofs.ProblemText
import EventLoom.Proofs.PublisherChecks
import EventLoom.Proofs.Recovery
import EventLoom.Proofs.RenderOutcome
import EventLoom.Proofs.ResourceFaults
import EventLoom.Proofs.ResourceTexts
import EventLoom.Proofs.SessionHistory
import EventLoom.Proofs.SettingsRoundTrip
import EventLoom.Proofs.StreamRefusals
import EventLoom.Registry.Creation
import EventLoom.Settings.TypeForm
