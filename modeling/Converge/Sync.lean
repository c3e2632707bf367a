import Converge.Plan
import Converge.Run

/-!
This module contains the convergence of a service: its active version is read and compared with the
desired endpoints, and if they differ the changes are applied to a clone, which is activated last.
Whatever stops the work before that leaves the clone behind, inactive.
-/

namespace Converge

structure Drift where
  serviceId : Text
  version : Int
  changes : List Change := []
deriving DecidableEq, Inhabited, Repr

namespace Drift

def isFound (d : Drift) : Bool :=
  !d.changes.isEmpty

end Drift

/--
What a convergence did. `version` is that of the clone, or the one before if nothing had to change.
-/
structure Synced where
  serviceId : Text
  previousVersion : Int
  version : Int
  changes : List Change := []
  activated : Bool := false
deriving DecidableEq, Inhabited, Repr

namespace Synced

def changed (s : Synced) : Bool :=
  s.version ≠ s.previousVersion

end Synced

namespace Sync

variable {σ : Type}

def record (level : Log.Level) (message : Text) (extra : List (Text × Value)) : Log.Record where
  level := level
  logger := "logsync.sync"
  template := message
  extra := extra

def diffRecord (wanted : List Declared) (current : List Stored) (changes : List Change) :
    Log.Record where
  level := .debug
  logger := "logsync.differ"
  template := "Computed endpoint diff"
  extra :=
    let counts := Change.count changes
    [
      ("desired_count", .int wanted.length), ("observed_count", .int current.length),
      ("delete_count", .int counts.delete), ("create_count", .int counts.create),
      ("update_count", .int counts.update)]

def diff (desired : List Declared) (listing : Option (List Stored)) : Run σ (List Change) := do
  let wanted ← Run.lift (Plan.index desired)
  match listing with
  | none => Run.fail (.foreign .absentListing)
  | some observed =>
    let current := Plan.latest observed
    let changes ← Run.lift (Plan.changes wanted current)
    Run.log (diffRecord wanted current changes)
    pure changes

def plan (client : Client σ) (serviceId : Text) (desired : List Declared) : Run σ Drift := do
  let active ← Run.call client (.activeVersion serviceId)
  let listing ← Run.call client (.list serviceId active)
  let changes ← diff desired listing
  pure { serviceId, version := active, changes }

def payload (d : Declared) (serviceId : Text) (version : Int) : Except Fault Declared :=
  -- what is sent is what comes back when it is stored and read
  match d.place serviceId version with
  | .error e => .error e
  | .ok r => r.project

def applyChange (client : Client σ) (serviceId : Text) (version : Int) : Change → Run σ Unit
  | .delete observed => Run.call client (.delete serviceId version observed.name)
  | .create desired => do
    let d ← Run.lift (payload desired serviceId version)
    let _ ← Run.call client (.create serviceId version d)
    pure ()
  | .update desired observed _ => do
    let d ← Run.lift (payload desired serviceId version)
    let _ ← Run.call client (.update serviceId version observed.name d)
    pure ()

def cancelledRecord (serviceId : Text) (version : Int) (applied : Nat) : Log.Record :=
  record .warning "Sync cancelled, version left un-activated"
    [("service_id", .text serviceId), ("version", .int version), ("applied", .int applied)]

def applyingRecord (serviceId : Text) (version : Int) (c : Change) : Log.Record :=
  record .info "Applying endpoint operation" [
    ("service_id", .text serviceId), ("version", .int version), ("operation", .text c.kind.label),
    ("endpoint", .text c.name)]

def live {α : Type} (x : Except VersionFault α) : Run σ α :=
  Run.lift (x.mapError .stage)

def applyAll (client : Client σ) (signal? : Option (Signal σ)) (serviceId : Text) :
    Nat → Version → List Change → Run σ Version
  | _, draft, [] => pure draft
  | applied, draft, c :: rest => do
    -- before each change the signal is asked
    if ← Run.poll signal? (applied + 1) then
      Run.log (cancelledRecord serviceId draft.number applied)
      Run.fail (.cancelled (some draft.number) applied)
    live draft.ensureMutable
    Run.log (applyingRecord serviceId draft.number c)
    applyChange client serviceId draft.number c
    let draft ← live draft.markDirty
    applyAll client signal? serviceId (applied + 1) draft rest

/--
Clone the active version, apply the changes to the clone and activate it.
-/
def applyPlan (client : Client σ) (signal? : Option (Signal σ)) (drift : Drift) : Run σ Synced := do
  let serviceId := drift.serviceId
  let active := drift.version
  let count := drift.changes.length
  if ← Run.poll signal? 0 then
    Run.log (record .warning "Sync cancelled before cloning, nothing applied"
      [("service_id", .text serviceId), ("version", .int active)])
    Run.fail (.cancelled none 0)
  let cloned ← Run.call client (.clone serviceId)
  let draft : Version := { number := cloned }
  Run.log (record .info "Cloned version for endpoint changes" [
    ("service_id", .text serviceId), ("from_version", .int active), ("version", .int draft.number),
    ("operation_count", .int count)])
  let draft ← applyAll client signal? serviceId 0 draft drift.changes
  if ← Run.poll signal? (count + 1) then
    Run.fail (.cancelled (some draft.number) count)
  Run.call client (.activate serviceId draft.number)
  let draft ← live draft.activate
  Run.log (record .info "Activated version" [
    ("service_id", .text serviceId), ("previous_version", .int active),
    ("version", .int draft.number), ("operations_applied", .int count),
    ("duration_seconds", .float .zero)])
  pure {
    serviceId
    previousVersion := active
    version := draft.number
    changes := drift.changes
    activated := true
  }

/--
Refuse a plan of too many changes, whatever they are.
-/
def checkLimit (serviceId : Text) (count : Int) (limit? : Option Int) : Run σ Unit :=
  match limit? with
  | some limit => do
    if limit < count then
      Run.log (record .error "Operation limit exceeded, nothing applied" [
        ("service_id", .text serviceId), ("operation_count", .int count), ("limit", .int limit)])
      Run.fail (.limitExceeded count limit)
  | none => pure ()

def carryOut (client : Client σ) (serviceId : Text) (signal? : Option (Signal σ)) (drift : Drift) :
    Run σ Synced := do
  if drift.changes.isEmpty then
    Run.log (record .info "Endpoints already converged, no new version"
      [("service_id", .text serviceId), ("version", .int drift.version)])
    pure { serviceId, previousVersion := drift.version, version := drift.version }
  else
    applyPlan client signal? drift

/--
Converge a service to the desired endpoints. A plan of more than `limit?` changes is not applied.
-/
def run (client : Client σ) (serviceId : Text) (desired : List Declared)
    (signal? : Option (Signal σ)) (limit? : Option Int) : Run σ Synced := do
  let drift ← plan client serviceId desired
  checkLimit serviceId drift.changes.length limit?
  carryOut client serviceId signal? drift

end Sync

end Converge
