import SignalRelay.Identity.Reader
import SignalRelay.Main
import SignalRelay.Proofs.Directory.Slots
import SignalRelay.Proofs.Relay.Views
import SignalRelay.Proofs.Relay.Wiring
import SignalRelay.Proofs.Relay.Rewiring
import SignalRelay.Web.Gateway
import SignalRelay.Proofs.Relay.Registration
import SignalRelay.Proofs.Teardown.Recursion
import SignalRelay.Proofs.Teardown.Cascade
import SignalRelay.Proofs.Teardown.Descent
import SignalRelay.Proofs.Teardown.Closure
import SignalRelay.Proofs.Relay.Queues
import SignalRelay.Proofs.Relay.Upkeep
import SignalRelay.Proofs.Relay.Turns
import SignalRelay.Proofs.Relay.Agreement
import SignalRelay.Proofs.Relay.History
import SignalRelay.Proofs.Relay.Following
import SignalRelay.Proofs.Relay.Reports
import SignalRelay.Proofs.Message.RoundTrip
import SignalRelay.Proofs.Relay.Deliveries
import SignalRelay.Proofs.Relay.Dispatches
import SignalRelay.Proofs.Relay.Finality
import SignalRelay.Proofs.Server.Runs
import SignalRelay.Proofs.Teardown.Draining
import SignalRelay.Proofs.Server.Shutdown
import SignalRelay.Proofs.Server.Deadlines
import SignalRelay.Proofs.Relay.Emissions
import SignalRelay.Proofs.Teardown.Orders
import SignalRelay.Proofs.Server.Partings
import SignalRelay.Proofs.Web.Flushing
import SignalRelay.Proofs.Web.Sessions
import SignalRelay.Proofs.Relay.Effects
import SignalRelay.Proofs.Relay.Observers
import SignalRelay.Proofs.Relay.Renaming
import SignalRelay.Proofs.Relay.Preferences
import SignalRelay.Proofs.Relay.Switching
import SignalRelay.Proofs.Relay.Fallbacks
import SignalRelay.Proofs.Relay.Confinement
import SignalRelay.Proofs.Relay.Overviews
import SignalRelay.Proofs.Relay.Standing
import SignalRelay.Proofs.Json.Grammar
import SignalRelay.Proofs.Json.Evaluation
import SignalRelay.Proofs.Json.Reordering
import SignalRelay.Proofs.Message.Layouts
import SignalRelay.Proofs.Wire.KeepAlive
import SignalRelay.Proofs.Directory.Searching
