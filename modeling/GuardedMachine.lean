import GuardedMachine.Definition.Builder
import GuardedMachine.Guard.Wire
import GuardedMachine.Json.Reader
import GuardedMachine.Proofs.Definition.Insertions
import GuardedMachine.Proofs.Dispatch.Divergence
import GuardedMachine.Proofs.Effect.Entering
import GuardedMachine.Proofs.Effect.Kept
import GuardedMachine.Proofs.Effect.Mounting
import GuardedMachine.Proofs.Guard.Calls
import GuardedMachine.Proofs.Guard.Denials
import GuardedMachine.Proofs.Guard.Readability
import GuardedMachine.Proofs.Machine.Agreement
import GuardedMachine.Proofs.Machine.Listening
import GuardedMachine.Proofs.Machine.Reporting
import GuardedMachine.Proofs.Machine.Soundness
import GuardedMachine.Proofs.Machine.Validating
import GuardedMachine.Proofs.Machine.Verbosity
import GuardedMachine.Proofs.Shared.Convergence
import GuardedMachine.Proofs.Shared.Passive
import GuardedMachine.Proofs.Shared.Subscriptions
import GuardedMachine.Proofs.Synced.Brackets
import GuardedMachine.Proofs.Synced.Dropped
import GuardedMachine.Proofs.Synced.Order
import GuardedMachine.Proofs.Synced.Rerunning
import GuardedMachine.Proofs.Synced.Stopped
import GuardedMachine.Proofs.Wire.Guards
import GuardedMachine.Proofs.Wire.States
import GuardedMachine.Script.Dispatching
import GuardedMachine.Script.Running
import GuardedMachine.Script.Shared
import GuardedMachine.Script.Synced
import GuardedMachine.Script.Truth
