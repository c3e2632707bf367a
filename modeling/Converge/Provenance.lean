import Converge.Config
import Converge.Run

/-!
This module contains the audit record of a cycle: what it was run for, by which revision, and what
came of it.
-/

namespace Converge

structure Origin where
  instanceId : Text := .empty
  commit : Text := .empty
  branch : Text := .empty
  repository : Text := .empty
deriving DecidableEq, Inhabited, Repr

namespace Origin

def ofEnvironment (env : Config.Environment) : Origin where
  instanceId := Config.settingOrEmpty env "CONTAINER_INSTANCE_ID"
  commit := Config.settingOrEmpty env "GIT_COMMIT_SHA"
  branch := Config.settingOrEmpty env "GIT_BRANCH"
  repository := Config.settingOrEmpty env "GIT_REPO"

end Origin

def programVersion : Text :=
  "dev"

structure Provenance where
  timestamp : Timestamp
  serviceId : Text := .empty
  programVersion : Text := programVersion
  origin : Origin := {}
  mode : Text := Mode.observe.label
  previousVersion : Option Int := none
  newVersion : Option Int := none
  driftDetected : Bool := false
  changesApplied : Int := 0
  changesBlocked : Int := 0
  verified : Bool := false
  counts : Change.Counts := {}
  durationSeconds : Binary64 := .zero
  error? : Option Text := none
  errorClass? : Option Text := none
deriving DecidableEq, Inhabited, Repr

namespace Provenance

variable {σ : Type}

def create (now : Timestamp) (origin : Origin) (serviceId mode : Text) : Provenance where
  timestamp := now
  serviceId := serviceId
  origin := origin
  mode := mode

def countsValue (c : Change.Counts) : Value :=
  .map [
    ("create_count", .int c.create), ("update_count", .int c.update),
    ("delete_count", .int c.delete)]

def toValue (p : Provenance) : Value :=
  .map [
    ("timestamp", .text p.timestamp.iso), ("service_id", .text p.serviceId),
    ("logsync_version", .text p.programVersion), ("instance_id", .text p.origin.instanceId),
    ("git_commit_sha", .text p.origin.commit), ("git_branch", .text p.origin.branch),
    ("git_repo", .text p.origin.repository), ("mode", .text p.mode),
    ("previous_version", Run.optionalInt p.previousVersion),
    ("new_version", Run.optionalInt p.newVersion), ("drift_detected", .bool p.driftDetected),
    ("changes_applied", .int p.changesApplied), ("changes_blocked", .int p.changesBlocked),
    ("verified", .bool p.verified), ("change_summary", countsValue p.counts),
    ("duration_seconds", .float p.durationSeconds), ("error", Run.optionalText p.error?),
    ("error_type", Run.optionalText p.errorClass?)]

def level (p : Provenance) : Log.Level :=
  -- an error counts only if it says something
  if p.error?.any fun t => !t.isEmpty then .error
  else if 0 < p.changesBlocked then .warning
  else .info

def record (p : Provenance) : Log.Record where
  level := p.level
  logger := "logsync.provenance"
  template := "Sync provenance"
  extra := [
    ("provenance", p.toValue), ("service_id", .text p.serviceId), ("mode", .text p.mode),
    ("previous_version", Run.optionalInt p.previousVersion),
    ("new_version", Run.optionalInt p.newVersion), ("drift_detected", .bool p.driftDetected),
    ("changes_applied", .int p.changesApplied), ("git_commit", .text p.origin.commit),
    ("duration_seconds", .float p.durationSeconds)]

def changeRecord (p : Provenance) (c : Change) (version : Option Int) : Log.Record where
  -- the fields that changed are named, and none of their values
  level := .info
  logger := "logsync.provenance"
  template := "Endpoint operation"
  extra := [
    ("service_id", .text p.serviceId), ("git_commit", .text p.origin.commit),
    ("endpoint", .text c.name), ("operation", .text c.kind.label),
    ("changed_fields", .list (c.fields.map fun f => .text f.label)),
    ("version", Run.optionalInt version)]

def logChange (p : Provenance) (c : Change) (version : Option Int) : Run σ Unit :=
  Run.log (p.changeRecord c version)

def log (p : Provenance) : Run σ Unit :=
  Run.log p.record

end Provenance

end Converge
