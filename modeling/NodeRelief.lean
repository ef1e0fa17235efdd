import NodeRelief.Api.Client
import NodeRelief.Api.Credentials
import NodeRelief.Cluster.State
import NodeRelief.Controller
import NodeRelief.Document.Parser
import NodeRelief.Document.Printer
import NodeRelief.Lock
import NodeRelief.Main
import NodeRelief.Record.Event
import NodeRelief.Record.Request
import NodeRelief.Record.Writer
import NodeRelief.Proofs.Cycle.Walk
import NodeRelief.Proofs.Cluster
import NodeRelief.Proofs.Cycle.Justification
import NodeRelief.Proofs.Cycle.Opening
import NodeRelief.Proofs.Time.Calendar
import NodeRelief.Proofs.Time.Timestamp
import NodeRelief.Proofs.Time.Stamp
import NodeRelief.Proofs.Time.Written
import NodeRelief.Proofs.Cooldown
import NodeRelief.Proofs.Cycle.Spacing
import NodeRelief.Proofs.Cycle.Bounds
import NodeRelief.Proofs.Cycle.Selection
import NodeRelief.Proofs.Cycle.Gate
import NodeRelief.Proofs.Cycle.Drain
import NodeRelief.Proofs.Recorder
import NodeRelief.Proofs.Cycle.Order
import NodeRelief.Proofs.Scene
import NodeRelief.Proofs.Cycle.Annotations
import NodeRelief.Proofs.Api.Reading
import NodeRelief.Proofs.Cycle.Progress
import NodeRelief.Proofs.Cycle.Chronicle
import NodeRelief.Proofs.Api.Client
import NodeRelief.Proofs.Cycle.Containment
import NodeRelief.Proofs.Profile.Moment
import NodeRelief.Proofs.Profile.Server
import NodeRelief.Proofs.Profile.Mirror
import NodeRelief.Proofs.Cycle.Cancellation
import NodeRelief.Proofs.Cycle.Result
import NodeRelief.Proofs.Cycle.Trail
import NodeRelief.Proofs.Cycle.Deadlines
import NodeRelief.Proofs.Cycle.Footprint
import NodeRelief.Proofs.Cycle.Prefix
import NodeRelief.Proofs.Cycle.Relevance
import NodeRelief.Proofs.Cycle.Allowance
import NodeRelief.Proofs.Lock
import NodeRelief.Proofs.Profile.Replay
import NodeRelief.Proofs.Profile.Deeds
import NodeRelief.Proofs.Profile.Retry
import NodeRelief.Proofs.Ranking.Policy
import NodeRelief.Proofs.Ranking.Amounts
import NodeRelief.Proofs.Cycle.Onset
import NodeRelief.Proofs.Profile.Metadata
import NodeRelief.Proofs.Profile.Stream
import NodeRelief.Proofs.Profile.Relist
import NodeRelief.Proofs.Number.Decimal
import NodeRelief.Proofs.Ranking.Classes
import NodeRelief.Proofs.Ranking.Spelling
import NodeRelief.Proofs.Cycle.Ownership
import NodeRelief.Proofs.Selector
import NodeRelief.Proofs.Profile.Schema
import NodeRelief.Proofs.Profile.Census
import NodeRelief.Proofs.Fanout
import NodeRelief.Proofs.Time.Seconds
import NodeRelief.Proofs.Settings
import NodeRelief.Proofs.Worker
import NodeRelief.Proofs.Cooldown.Least
