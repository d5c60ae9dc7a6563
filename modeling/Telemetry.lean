import Telemetry.Buffer.Building
import Telemetry.Buffer.Waiting
import Telemetry.Harvest.Run
import Telemetry.JsonObject
import Telemetry.Log.Filter
import Telemetry.Settings.Environment
import Telemetry.Proofs.Transaction.ChildOrder
import Telemetry.Proofs.Harvest.Deliveries
import Telemetry.Proofs.Buffer.Books
import Telemetry.Proofs.Buffer.Divisions
import Telemetry.Proofs.Buffer.WakeUps
import Telemetry.Proofs.Harvest.Arrivals
import Telemetry.Proofs.Harvest.Attempts
import Telemetry.Proofs.Entries
import Telemetry.Proofs.Metric.Coherence
import Telemetry.Proofs.Metric.Gathering
import Telemetry.Proofs.Report.Agreement
import Telemetry.Proofs.Transaction.Refusals
import Telemetry.Proofs.Transaction.Readings
import Telemetry.Proofs.Transaction.Recounting
import Telemetry.Proofs.Metric.Tallies
import Telemetry.Proofs.Report.Classification
import Telemetry.Proofs.Metric.WellFormed
import Telemetry.Proofs.Forest.Overruns
import Telemetry.Proofs.FirstEntries
import Telemetry.Proofs.Forest.Arrangement
import Telemetry.Proofs.Forest.Build
import Telemetry.Proofs.Forest.Relabelling
import Telemetry.Proofs.Report.Wording
import Telemetry.Proofs.Report.Routing
import Telemetry.Proofs.Metric.ApdexMerges
import Telemetry.Proofs.Metric.Replays
import Telemetry.Proofs.Metric.NodeTimings
import Telemetry.Proofs.Metric.Prescribed
import Telemetry.Proofs.Buffer.Emptying
import Telemetry.Proofs.Report.Segments
import Telemetry.Proofs.Report.Statements
import Telemetry.Proofs.Report.Precedence
import Telemetry.Proofs.Buffer.Layouts
import Telemetry.Proofs.Settings.Variables
import Telemetry.Proofs.Forest.Walks
