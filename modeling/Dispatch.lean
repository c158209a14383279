import Dispatch.Main
import Dispatch.Rehearsal.Waits
import Dispatch.Rehearsal.Peers
import Dispatch.Reports.Rehearsal
import Dispatch.Reports.Settings
import Dispatch.Proofs.Pool.Capacity
import Dispatch.Proofs.Pool.Reuse
import Dispatch.Proofs.Pool.Numbers
import Dispatch.Proofs.Pool.Selection
import Dispatch.Proofs.Pool.Waiting
import Dispatch.Proofs.Pool.Shutdown
import Dispatch.Proofs.Gauges
import Dispatch.Proofs.Breaker.Probe
import Dispatch.Proofs.Breaker.Cooldown
import Dispatch.Proofs.Breaker.Lateness
import Dispatch.Proofs.Retries.Policy
import Dispatch.Proofs.Publishing.Outcomes
import Dispatch.Proofs.Publishing.Failures
import Dispatch.Proofs.Delivery.Messages
import Dispatch.Proofs.Delivery.Headers
import Dispatch.Proofs.Cancellation.Cleanup
import Dispatch.Proofs.Consuming.Rounds
import Dispatch.Proofs.Settings.RoundTrip
import Dispatch.Proofs.Accounts.Agreement
import Dispatch.Proofs.Retries.Growth
import Dispatch.Proofs.Registry.Refusals
import Dispatch.Proofs.Isolation.Touches
import Dispatch.Proofs.Publishing.Entries
import Dispatch.Proofs.Publishing.Tokens
import Dispatch.Proofs.Delivery.FanOut
import Dispatch.Proofs.Settings.Uri
import Dispatch.Proofs.Sessions.Process
import Dispatch.Proofs.Spans
