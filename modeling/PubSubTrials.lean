import PubSubTrials.Barrier
import PubSubTrials.Files.Memory
import PubSubTrials.Json.Printer
import PubSubTrials.Main
import PubSubTrials.Output.Playback
import PubSubTrials.Text.Quoted
import PubSubTrials.Proofs.Scanning
import PubSubTrials.Proofs.Waiting
import PubSubTrials.Proofs.Earliest
import PubSubTrials.Proofs.Conservation
import PubSubTrials.Proofs.Observers
import PubSubTrials.Proofs.Stages
import PubSubTrials.Proofs.Barriers
import PubSubTrials.Proofs.Parting
import PubSubTrials.Proofs.Accounts
import PubSubTrials.Proofs.Trials
import PubSubTrials.Proofs.Windows
import PubSubTrials.Proofs.Company
import PubSubTrials.Proofs.Completion
import PubSubTrials.Proofs.Reporting
import PubSubTrials.Proofs.Openings
import PubSubTrials.Proofs.Echo
import PubSubTrials.Proofs.Sources
import PubSubTrials.Proofs.Patience
import PubSubTrials.Proofs.Growth
import PubSubTrials.Proofs.Checks
import PubSubTrials.Proofs.Encoding
import PubSubTrials.Proofs.Paths
import PubSubTrials.Proofs.Storage
import PubSubTrials.Proofs.Literals
import PubSubTrials.Proofs.Layout
import PubSubTrials.Proofs.RoundTrip
import PubSubTrials.Proofs.Documents
import PubSubTrials.Proofs.Series
import PubSubTrials.Proofs.Naming
import PubSubTrials.Proofs.Pairings
import PubSubTrials.Proofs.Matrices
import PubSubTrials.Proofs.Catalogues
import PubSubTrials.Proofs.Interruptions
import PubSubTrials.Proofs.Verdicts
import PubSubTrials.Proofs.Inquiries
import PubSubTrials.Proofs.Endurance
import PubSubTrials.Proofs.Isolation
import PubSubTrials.Proofs.Refusals
import PubSubTrials.Proofs.Spellings
import PubSubTrials.Proofs.Recordings
import PubSubTrials.Proofs.Selections
import PubSubTrials.Proofs.Mistakes
import PubSubTrials.Proofs.Sharing
import PubSubTrials.Proofs.Histories
import PubSubTrials.Proofs.Transcripts
import PubSubTrials.Proofs.Enrolment
import PubSubTrials.Proofs.Wordings
import PubSubTrials.Proofs.Captures
import PubSubTrials.Proofs.Channels
import PubSubTrials.Proofs.Tokens
import PubSubTrials.Proofs.Representations
