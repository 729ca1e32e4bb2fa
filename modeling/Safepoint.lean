import Safepoint.Collector.Mutators
import Safepoint.Collector.Pauses
import Safepoint.Collector.Requests
import Safepoint.Collector.Roots
import Safepoint.Collector.Start
import Safepoint.Collector.Threads
import Safepoint.Exhaustion
import Safepoint.Options.Assignment
import Safepoint.Simulation.Command
import Safepoint.Proofs.Publication.Granules
import Safepoint.Proofs.Publication.Clearing
import Safepoint.Proofs.Publication.GranuleSet
import Safepoint.Proofs.Publication.Publishes
import Safepoint.Proofs.Publication.Closure
import Safepoint.Proofs.Publication.Passing
import Safepoint.Proofs.Publication.Interleaving
import Safepoint.Proofs.Publication.Escape
import Safepoint.Proofs.Publication.Operations
import Safepoint.Proofs.Publication.Modes
import Safepoint.Proofs.Publication.Ownership
import Safepoint.Proofs.Publication.Refusals
import Safepoint.Proofs.Publication.Elementwise
import Safepoint.Proofs.Publication.Legality
import Safepoint.Proofs.Publication.Marks
import Safepoint.Proofs.Publication.Orders
import Safepoint.Proofs.Mutators.Coherence
import Safepoint.Proofs.Mutators.Lifetimes
import Safepoint.Proofs.Roots.Blobs
import Safepoint.Proofs.Roots.Scans
import Safepoint.Proofs.Roots.Ledger
import Safepoint.Proofs.Roots.Generations
import Safepoint.Proofs.Pauses.Drift
import Safepoint.Proofs.Pauses.Watching
import Safepoint.Proofs.Pauses.Cycles
import Safepoint.Proofs.Pauses.Waiting
import Safepoint.Proofs.Requests.Order
import Safepoint.Proofs.Requests.Sleepers
import Safepoint.Proofs.Options.Attainable
import Safepoint.Proofs.Publication.Accounts
import Safepoint.Proofs.Publication.Tallies
import Safepoint.Proofs.Roots.Deliveries
import Safepoint.Proofs.Pauses.Rounds
import Safepoint.Proofs.Roots.Releases
import Safepoint.Proofs.Roots.Globals
import Safepoint.Proofs.Requests.Losses
import Safepoint.Proofs.Mutators.Passes
import Safepoint.Proofs.Roots.Replacement
import Safepoint.Proofs.Publication.Sweeps
import Safepoint.Proofs.Start.Coverage
import Safepoint.Proofs.Options.Grammar
import Safepoint.Proofs.Options.Tokens
import Safepoint.Proofs.Options.Composition
