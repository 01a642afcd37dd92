import RouterBinding.Text.Numeric
import RouterBinding.Text.Bytes
import RouterBinding.Pattern.Reader
import RouterBinding.Pattern.Support
import RouterBinding.Ordered.Distinct
import RouterBinding.Json.Reader
import RouterBinding.Json.Number
import RouterBinding.Json.Value
import RouterBinding.Json.Record
import RouterBinding.Network.DeviceOwner
import RouterBinding.Network.Router
import RouterBinding.Network.Agent
import RouterBinding.Network.Port
import RouterBinding.Network.Context
import RouterBinding.Binding.Script
import RouterBinding.Placement.Eligibility
import RouterBinding.Placement.Choice
import RouterBinding.Directory.Basic
import RouterBinding.Directory.Notice
import RouterBinding.Controller.Presence
import RouterBinding.Controller.Assignment
import RouterBinding.Controller.Reconcile
import RouterBinding.Event.Lifecycle
import RouterBinding.Event.Probe
import RouterBinding.Config.File
import RouterBinding.Operator.Repair
import RouterBinding.Operator.Report
import RouterBinding.Operator.Session
import RouterBinding.Main
import RouterBinding.Proofs.Json.RoundTrip
import RouterBinding.Proofs.Binding.Row
import RouterBinding.Proofs.Snat.Eviction
import RouterBinding.Proofs.Snat.ServiceNode
import RouterBinding.Proofs.Snat.Race
import RouterBinding.Proofs.Presence.Following
import RouterBinding.Proofs.Binding.Refinement
import RouterBinding.Proofs.Event.Failure
import RouterBinding.Proofs.Snat.Provenance
import RouterBinding.Proofs.Presence.Stranding
import RouterBinding.Proofs.Presence.Agreement
import RouterBinding.Proofs.Snat.Visibility
import RouterBinding.Proofs.Presence.Departure
import RouterBinding.Proofs.Event.LastSignal
import RouterBinding.Proofs.Presence.Moving
import RouterBinding.Proofs.Presence.Overlooking
import RouterBinding.Proofs.Snat.Scheduling
import RouterBinding.Proofs.Snat.Reconciling
import RouterBinding.Proofs.Snat.Idempotence
import RouterBinding.Proofs.Snat.Unassigning
import RouterBinding.Proofs.Snat.Releasing
import RouterBinding.Proofs.Presence.Telling
import RouterBinding.Proofs.Presence.Unlinking
import RouterBinding.Proofs.Event.Interruption
import RouterBinding.Proofs.Event.Delivery
import RouterBinding.Proofs.Event.Impartial
import RouterBinding.Proofs.Placement.Balance
import RouterBinding.Proofs.Binding.Purge
import RouterBinding.Proofs.Operator.Release
import RouterBinding.Proofs.Config.RoundTrip
import RouterBinding.Proofs.Binding.Key
import RouterBinding.Proofs.Json.Faithful
import RouterBinding.Proofs.Placement.Uniform
