import Pacing.Clock
import Pacing.Handling.Rehearsal
import Pacing.Interleaving
import Pacing.Main
import Pacing.Remote.Payload
import Pacing.Remote.Rehearsal
import Pacing.Startup
import Pacing.Tasks.Rehearsal
import Pacing.Proofs.Interleaving
import Pacing.Proofs.Plan
import Pacing.Proofs.PlanBounds
import Pacing.Proofs.Attempt
import Pacing.Proofs.Site
import Pacing.Proofs.Transcript
import Pacing.Proofs.Spacing
import Pacing.Proofs.Backoff
import Pacing.Proofs.Notification
import Pacing.Proofs.Reported
import Pacing.Proofs.Chronicle
import Pacing.Proofs.Conduct
import Pacing.Proofs.Contention
import Pacing.Proofs.Queueing
import Pacing.Proofs.Exclusivity
import Pacing.Proofs.Reclamation
import Pacing.Proofs.Numerals
import Pacing.Proofs.StoreCalls
import Pacing.Proofs.Items
import Pacing.Proofs.Refinement
import Pacing.Proofs.Batches
import Pacing.Proofs.Indifference
import Pacing.Proofs.Insertion
import Pacing.Proofs.Reordering
import Pacing.Proofs.Separation
import Pacing.Proofs.Recorder
import Pacing.Proofs.Nesting
import Pacing.Proofs.Scalars
import Pacing.Proofs.RoundTrip
import Pacing.Proofs.Details
import Pacing.Proofs.Discretion
import Pacing.Proofs.Redelivery
import Pacing.Proofs.Trimming
import Pacing.Proofs.Acceptance
import Pacing.Proofs.Calendar
import Pacing.Proofs.Timestamps
import Pacing.Proofs.Decoding
import Pacing.Proofs.Configuration
import Pacing.Proofs.Defects
import Pacing.Proofs.Filing
import Pacing.Proofs.Publication
