import Converge.Document.Load
import Converge.Provenance
import Converge.Verify

/-!
This module contains the reconciliation cycle: the spec is loaded, drift is reported or removed, and
what came of it is put into a report, into the log and into an audit record. A cycle never stops with
a fault; faults are part of its report.
-/

namespace Converge

structure Report where
  serviceId : Text
  mode : Mode
  previousVersion : Option Int := none
  version : Option Int := none
  pendingVersion : Option Int := none
  changes : List Change := []
  driftFound : Bool := false
  changesApplied : Int := 0
  changesBlocked : Int := 0
  verified : Bool := false
  fault? : Option Fault := none
deriving DecidableEq, Repr

namespace Report

def succeeded (r : Report) : Bool :=
  r.fault?.isNone

def exitCode (r : Report) (failOnDrift : Bool) : Nat :=
  if r.fault?.isSome then 1
  else if failOnDrift && r.driftFound && r.changesApplied = 0 then 3
  else 0

end Report

structure Surroundings where
  files : Files := {}
  origin : Origin := {}
  now : Timestamp := .ofSeconds 0 0

namespace Reconcile

variable {σ : Type}

def record (level : Log.Level) (message : Text) (extra : List (Text × Value)) : Log.Record where
  level := level
  logger := "logsync.reconciler"
  template := message
  extra := extra

def loadedRecord (message : Text) (args : List Value) : Log.Record where
  level := .info
  logger := "logsync.spec_loader"
  template := message
  args := args

def loadSpec (files : Files) (path : Text) : Run σ Document.Spec := do
  let spec ← Run.lift (Document.loadSpec files path)
  Run.log (loadedRecord "Loaded spec for service '%s' from %s (%d endpoints)"
    [.text spec.serviceId, .text path, .int spec.endpoints.length])
  pure spec

def loadSnapshot (files : Files) (path : Text) : Run σ Document.Snapshot := do
  let snapshot ← Run.lift (Document.loadSnapshot files path)
  Run.log (loadedRecord "Loaded snapshot for service '%s' version %d from %s"
    [.text snapshot.serviceId, .int snapshot.version, .text path])
  pure snapshot

def configuredSpec (files : Files) (config : Config) : Run σ Document.Spec := do
  let spec ← loadSpec files config.specPath
  -- the spec has to be about the configured service
  if spec.serviceId = config.serviceId then pure spec
  else Run.fail (.setting (.otherService config.specPath spec.serviceId config.serviceId))

def emptyReport (config : Config) : Report where
  serviceId := config.serviceId
  mode := config.mode

def observe (client : Client σ) (config : Config) (spec : Document.Spec) : Run σ Report := do
  let drift ← Sync.plan client spec.serviceId spec.endpoints
  if drift.isFound then
    Run.log (record .info "OBSERVE mode: drift reported but not remediated" [
      ("service_id", .text spec.serviceId), ("version", .int drift.version),
      ("operation_count", .int drift.changes.length)])
  else
    Run.log (record .info "No drift detected" [("service_id", .text spec.serviceId)])
  pure { emptyReport config with
    previousVersion := some drift.version
    version := some drift.version
    changes := drift.changes
    driftFound := drift.isFound }

def syncedReport (config : Config) (synced : Synced) : Report :=
  { emptyReport config with
    previousVersion := some synced.previousVersion
    version := some synced.version
    changes := synced.changes
    driftFound := !synced.changes.isEmpty
    changesApplied := if synced.activated then synced.changes.length else 0 }

def leavesClone (call : CallSite) : Bool :=
  -- the calls that target the clone are those made after it
  [Operation.delete, .create, .update, .activate].any fun o => o.label = call.operation

def withFault (r : Report) (e : Fault) : Report :=
  let r := { r with fault? := some e }
  match e with
  | .limitExceeded count _ => { r with changesBlocked := count }
  | .callFailed call _ => if leavesClone call then { r with pendingVersion := call.version? } else r
  | .cancelled version? applied => { r with pendingVersion := version?, changesApplied := applied }
  | _ => r

def callFaultRecord (call : CallSite) (cause? : Option Failure) (e : Fault) : Log.Record :=
  let text : Text :=
    match cause? with
    | some f => f.message
    | none => e.message
  record .error "Remote call failed" [
    ("service_id", .text call.serviceId), ("operation", .text call.operation),
    ("endpoint", Run.optionalText call.name?), ("version", Run.optionalInt call.version?),
    ("error", .text text)]

def faultRecord? (config : Config) (e : Fault) : Option Log.Record :=
  let service : Text × Value := ("service_id", .text config.serviceId)
  let error : Text × Value := ("error", .text e.message)
  match e with
  | .load _ => some (record .error "Failed to load spec" [error])
  | .setting _ => some (record .error "Configuration error" [error])
  | .duplicateName _ => some (record .error "Invalid desired state" [service, error])
  | .invalidRecord .. => some (record .error "Invalid desired state" [service, error])
  | .limitExceeded .. => none
  | .callFailed call cause? => some (callFaultRecord call cause? e)
  | .cancelled version? _ =>
    some (record .warning "Sync cancelled" [service, ("version", Run.optionalInt version?)])
  | .notConverged .. => some (record .error "Convergence verification failed" [service, error])
  | .stage _ => some (record .error "Sync error" [error])
  | .remote message => some (unexpected (.bare "RemoteError" message))
  | .foreign f => some (unexpected (.bare f.className f.message))
where
  unexpected (raised : Log.Raised) : Log.Record :=
    { record .error "Unexpected error during reconciliation" [] with raised? := some raised }

def settle (config : Config) (r : Report) : Except Fault Report → Run σ Report
  | .ok r => pure r
  | .error e => do
    match faultRecord? config e with
    | some entry => Run.log entry
    | none => pure ()
    pure (withFault r e)

/--
Remove drift and verify that it is gone.
-/
def enforce (client : Client σ) (config : Config) (signal? : Option (Signal σ))
    (spec : Document.Spec) : Run σ Report := do
  let synced ← Sync.run client spec.serviceId spec.endpoints signal? (some config.maxChanges)
  let report := syncedReport config synced
  if synced.changed && config.verifyAfterApply then
    let verified ← Run.outcome (Verify.run client spec.serviceId synced.version spec.endpoints)
    settle config report (verified.map fun () => { report with verified := true })
  else
    pure report

def work (client : Client σ) (config : Config) (signal? : Option (Signal σ)) (files : Files) :
    Run σ Report := do
  let spec ← configuredSpec files config
  match config.mode with
  | .observe => observe client config spec
  | .enforce => enforce client config signal? spec

def provenance (surroundings : Surroundings) (config : Config) (r : Report) : Provenance :=
  { Provenance.create surroundings.now surroundings.origin config.serviceId config.mode.label with
    previousVersion := r.previousVersion
    newVersion := r.version
    driftDetected := r.driftFound
    changesApplied := r.changesApplied
    changesBlocked := r.changesBlocked
    verified := r.verified
    counts := Change.count r.changes
    error? := r.fault?.map Fault.message
    errorClass? := r.fault?.map Fault.className }

def logChanges (p : Provenance) (version : Option Int) : List Change → Run σ Unit
  | [] => pure ()
  | c :: rest => do
    p.logChange c version
    logChanges p version rest

def recordProvenance (surroundings : Surroundings) (config : Config) (r : Report) : Run σ Unit := do
  let p := provenance surroundings config r
  if r.changesApplied ≠ 0 then
    logChanges p r.version r.changes
  p.log

def resultRecord (r : Report) : Log.Record :=
  let common : List (Text × Value) := [
    ("service_id", .text r.serviceId), ("mode", .text r.mode.label),
    ("duration_seconds", .float .zero),
    ("previous_version", Run.optionalInt r.previousVersion),
    ("version", Run.optionalInt r.version), ("drift_found", .bool r.driftFound),
    ("changes_applied", .int r.changesApplied), ("changes_blocked", .int r.changesBlocked),
    ("verified", .bool r.verified)]
  let pending : List (Text × Value) :=
    match r.pendingVersion with
    | some version => [("pending_version", .int version)]
    | none => []
  match r.fault? with
  | some e =>
    let error : List (Text × Value) := [("error", .text e.message)]
    record .error "Reconciliation failed" (common ++ pending ++ error)
  | none =>
    if 0 < r.changesBlocked then
      record .warning "Reconciliation: changes blocked" (common ++ pending)
    else
      record .info "Reconciliation result" (common ++ pending)

def run (surroundings : Surroundings) (client : Client σ) (config : Config)
    (signal? : Option (Signal σ)) : Run σ Report := do
  let outcome ← Run.outcome (work client config signal? surroundings.files)
  let report ← settle config (emptyReport config) outcome
  if config.auditLogging then
    recordProvenance surroundings config report
  Run.log (resultRecord report)
  pure report

def startRecord (config : Config) : Log.Record where
  level := .info
  logger := "logsync.main"
  template := "Starting logsync"
  extra := [
    ("service_id", .text config.serviceId), ("mode", .text config.mode.label),
    ("spec_path", .text config.specPath)]

def start (surroundings : Surroundings) (client : Client σ) (config : Config)
    (failOnDrift : Bool) : Run σ (Nat × Report) := do
  Run.log (startRecord config)
  let report ← run surroundings client config none
  pure (report.exitCode failOnDrift, report)

end Reconcile

end Converge
