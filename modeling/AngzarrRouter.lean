import AngzarrRouter.Calls.Outcome
import AngzarrRouter.Calls.Fold
import AngzarrRouter.Calls.Checkpoint
import AngzarrRouter.Calls.Chain
import AngzarrRouter.Calls.Collect
import AngzarrRouter.Calls.Alike
import AngzarrRouter.Text.Split
import AngzarrRouter.Text.Paths
import AngzarrRouter.Text.Pairs
import AngzarrRouter.Text.Named
import AngzarrRouter.Text.Blocks
import AngzarrRouter.Text.Bytes
import AngzarrRouter.Wire
import AngzarrRouter.Error
import AngzarrRouter.Error.Display
import AngzarrRouter.Declared
import AngzarrRouter.Context
import AngzarrRouter.Rebuild
import AngzarrRouter.Rebuild.Replay
import AngzarrRouter.Rebuild.Pages
import AngzarrRouter.Rebuild.Failures
import AngzarrRouter.Rebuild.Causes
import AngzarrRouter.Rebuild.Emitted
import AngzarrRouter.Domain
import AngzarrRouter.Domain.Run
import AngzarrRouter.Domain.Sequencing
import AngzarrRouter.Domain.Dispatch
import AngzarrRouter.Domain.Replayed
import AngzarrRouter.Domain.Refusing
import AngzarrRouter.Domain.Panics
import AngzarrRouter.Projector
import AngzarrRouter.Projector.Engines
import AngzarrRouter.Policy
import AngzarrRouter.Skipping
import AngzarrRouter.Prefixes
import AngzarrRouter.Domain.Snapshots
import AngzarrRouter.Domain.Idempotence
import AngzarrRouter.Upcaster
import AngzarrRouter.Upcaster.Chains
import AngzarrRouter.Upcaster.Forward
import AngzarrRouter.Archlint.Model
import AngzarrRouter.Archlint.Rules
import AngzarrRouter.Archlint.Matching
import AngzarrRouter.Logic.Formula
import AngzarrRouter.Archlint.Syntax
import AngzarrRouter.Archlint.Cfg
import AngzarrRouter.Archlint.Scan
import AngzarrRouter.Archlint.Scan.Resolve
import AngzarrRouter.Archlint.Workspace
import AngzarrRouter.Archlint.Scan.Crates
import AngzarrRouter.Archlint.Scan.Walking
import AngzarrRouter.Archlint.Scan.Scanned
import AngzarrRouter.Archlint.Scan.Entering
import AngzarrRouter.Archlint.Scan.Registered
import AngzarrRouter.Archlint.Scan.Mentions
import AngzarrRouter.Archlint.Scan.Written
import AngzarrRouter.Archlint.Scan.Bare
import AngzarrRouter.Archlint.Scan.Landing
import AngzarrRouter.Archlint.Scan.Reading
import AngzarrRouter.Archlint.Scan.Splitting
import AngzarrRouter.Archlint.Scan.Imports
import AngzarrRouter.Archlint.Workspace.Built
import AngzarrRouter.Archlint.Workspace.Written
import AngzarrRouter.Archlint.Workspace.Registered
import AngzarrRouter.Archlint.Escape
import AngzarrRouter.Archlint.Workspace.Scopes
import AngzarrRouter.Archlint.Verdict
import AngzarrRouter.Archlint.Confined
import AngzarrRouter.Archlint.Scan.Depth
import AngzarrRouter.Archlint.Scan.Local
import AngzarrRouter.Archlint.Scan.Ordered
import AngzarrRouter.Archlint.Workspace.Depth
import AngzarrRouter.Archlint.Workspace.Order
import AngzarrRouter.Archlint.Main
import AngzarrRouter.Calls.Trace
import AngzarrRouter.Domain.Discipline
import AngzarrRouter.Domain.Legal
import AngzarrRouter.Message
import AngzarrRouter.Proto.Field
import AngzarrRouter.Conformance
import AngzarrRouter.Conformance.Counting
import AngzarrRouter.Conformance.Orders
import AngzarrRouter.Conformance.OrderWire
import AngzarrRouter.Conformance.OrderLogs
import AngzarrRouter.Conformance.OrderSteps
import AngzarrRouter.Router
import AngzarrRouter.Router.Configured
import AngzarrRouter.Router.Unwinding
import AngzarrRouter.Calls.Indexed
import AngzarrRouter.Domain.Batched
import AngzarrRouter.Domain.Settled
import AngzarrRouter.Upcaster.History
import AngzarrRouter.Domain.Swapped
import AngzarrRouter.Text.Places
import AngzarrRouter.Archlint.Scan.Placed
