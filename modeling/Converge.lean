import Converge.Cli.Program
import Converge.Json.Reader
import Converge.Main
import Converge.Proofs.Cli.Offline
import Converge.Proofs.Config
import Converge.Proofs.Credential.Secrecy
import Converge.Proofs.Document.Boundary
import Converge.Proofs.Document.Scope
import Converge.Proofs.Endpoint.Export
import Converge.Proofs.Endpoint.RoundTrip
import Converge.Proofs.Log.Line
import Converge.Proofs.Plan.Failure
import Converge.Proofs.Plan.Minimal
import Converge.Proofs.Reconcile.Agreement
import Converge.Proofs.Reconcile.AuditTrail
import Converge.Proofs.Reconcile.DriftFlag
import Converge.Proofs.Reconcile.Guards
import Converge.Proofs.Reconcile.Pending
import Converge.Proofs.Reconcile.Success
import Converge.Proofs.Sync.Cancellation
import Converge.Proofs.Sync.Idempotence
import Converge.Remote.Behavior
