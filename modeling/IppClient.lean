import IppClient.Base.Act
import IppClient.Base.Except
import IppClient.Base.Keyed
import IppClient.Base.Sys
import IppClient.Base.Text
import IppClient.Base.Duration
import IppClient.Error
import IppClient.Wire.Value
import IppClient.Wire.Crate
import IppClient.Attrs
import IppClient.Model
import IppClient.Subscription
import IppClient.Lpoptions
import IppClient.Events
import IppClient.Client.Core
import IppClient.Client.Daemon
import IppClient.Client.Jobs
import IppClient.Client.Handle
import IppClient.Client.Poll
import IppClient.Proofs.Replay
import IppClient.Wire.Reference
import IppClient.Client.Operations
import IppClient.Proofs.Routing
import IppClient.Proofs.Removal
import IppClient.Proofs.PrintStream
import IppClient.Proofs.CacheRace
import IppClient.Proofs.CacheRun
import IppClient.Proofs.Attribution
import IppClient.CupsPk.Client
import IppClient.Proofs.MechanismError
import IppClient.Proofs.RequestedAttributes
import IppClient.Proofs.Notifications
import IppClient.Proofs.SnapshotDiff
import IppClient.Proofs.Acceptance
import IppClient.Proofs.ReadingPaths
import IppClient.Base.LastWrite
import IppClient.Proofs.Devices
import IppClient.Proofs.DeviceDictionary
import IppClient.Base.Positions
import IppClient.Proofs.Supplies
import IppClient.Base.Percent
import IppClient.Proofs.QueueNames
import IppClient.Proofs.Pacing
import IppClient.Proofs.Keywords
import IppClient.Proofs.Readings
import IppClient.Proofs.Encodings
import IppClient.Base.Narrow
import IppClient.Proofs.Leases
import IppClient.Proofs.CertificateErrors
import IppClient.Proofs.Authorization
import IppClient.Proofs.JobHandle
import IppClient.Base.Lines
import IppClient.Proofs.DefaultPrinter
import IppClient.Proofs.ListedValues
import IppClient.Base.Report
import IppClient.Client.Session
import IppClient.Client.Plan
import IppClient.Proofs.Plans
import IppClient.Proofs.Refusals
import IppClient.Proofs.Sessions
import IppClient.Proofs.Changes
import IppClient.Proofs.Deliveries
import IppClient.Proofs.Footprint
import IppClient.Proofs.Submission
import IppClient.Proofs.RoundTrip
import IppClient.Proofs.DecoderRange
import IppClient.Proofs.Mirror
import IppClient.Client.Builder
import IppClient.Proofs.Credentials
import IppClient.Base.Peer
import IppClient.Proofs.Subscriptions
import IppClient.Client.Visit
import IppClient.Proofs.Spool
import IppClient.Proofs.Documents
import IppClient.Proofs.HeldJob
