import Converge.Proofs.Reconcile.Cycle
import Converge.Proofs.Sync.Log

/-!
This module contains the log of a cycle. Main statement: a cycle closes its log with one record for
each change that it says it applied, its audit record and its result, and nothing that it has logged
before can be taken for one of these.
-/

namespace Converge

open List

namespace Log.Record

/--
What a record tells of a cycle: of one change that was applied, of the cycle as a whole, or nothing
of what it came to.
-/
inductive Role
  | interim
  | change
  | provenance
  | result
deriving DecidableEq, Repr

def role (r : Record) : Role :=
  if r.logger = "logsync.provenance" then
    if r.template = "Endpoint operation" then .change
    else if r.template = "Sync provenance" then .provenance
    else .interim
  else if r.logger = "logsync.reconciler" then
    if r.template = "Reconciliation failed" || r.template = "Reconciliation: changes blocked"
        || r.template = "Reconciliation result" then .result
    else .interim
  else .interim

theorem role_of_logger {r : Record}
    (h : r.logger ∉ (["logsync.provenance", "logsync.reconciler"] : List Text)) :
    r.role = .interim := by
  simp only [mem_cons, not_mem_nil, or_false, not_or] at h
  unfold role
  rw [if_neg h.1, if_neg h.2]

theorem IsEngine.role_eq {r : Record} (h : r.IsEngine) : r.role = .interim := by
  apply role_of_logger
  have hloggers : ∀ logger ∈ engineLoggers,
      logger ∉ (["logsync.provenance", "logsync.reconciler"] : List Text) := by
    decide +kernel
  exact hloggers r.logger h

end Log.Record

theorem Provenance.role_changeRecord (p : Provenance) (c : Change) (version : Option Int) :
    (p.changeRecord c version).role = .change := by
  change Log.Record.role
    { level := .info, logger := "logsync.provenance", template := "Endpoint operation" } = _
  decide +kernel

theorem Provenance.role_record (p : Provenance) : p.record.role = .provenance := by
  change Log.Record.role
    { level := .info, logger := "logsync.provenance", template := "Sync provenance" } = _
  decide +kernel

namespace Reconcile

variable {σ : Type} {config : Config}

/--
Level and fields do not matter for the role of a record.
-/
theorem role_record {message : Text} {role : Log.Record.Role} (level : Log.Level)
    (extra : List (Text × Value)) (h : (record .info message []).role = role) :
    (record level message extra).role = role :=
  h

theorem role_resultRecord (r : Report) : (resultRecord r).role = .result := by
  unfold resultRecord
  dsimp only
  split
  · exact role_record _ _ (by decide +kernel)
  · split
    · exact role_record _ _ (by decide +kernel)
    · exact role_record _ _ (by decide +kernel)

theorem role_loadedRecord (message : Text) (args : List Value) :
    (loadedRecord message args).role = .interim := by
  apply Log.Record.role_of_logger
  change ("logsync.spec_loader" : Text) ∉ _
  decide +kernel

theorem role_of_faultRecord? {e : Fault} {entry : Log.Record}
    (h : faultRecord? config e = some entry) : entry.role = .interim := by
  have hunexpected (raised : Log.Raised) : (faultRecord?.unexpected raised).role = .interim :=
    role_record .error [] (by decide +kernel)
  cases e
  case limitExceeded => cases h
  case remote =>
    cases h
    exact hunexpected _
  case foreign =>
    cases h
    exact hunexpected _
  all_goals
    cases h
    exact role_record _ _ (by decide +kernel)

theorem logs_loadSpec (files : Files) (path : Text) :
    (loadSpec files path : Run σ _).Logs (·.role = .interim) := by
  unfold loadSpec
  apply (Run.Logs.lift _).bind
  intro spec
  exact (Run.Logs.log (role_loadedRecord _ _)).bind fun _ => .pure _

theorem logs_configuredSpec (files : Files) (config : Config) :
    (configuredSpec files config : Run σ _).Logs (·.role = .interim) := by
  unfold configuredSpec
  apply (logs_loadSpec files config.specPath).bind
  intro spec
  split
  · exact .pure _
  · exact .fail _

theorem logs_observe (client : Client σ) (config : Config) (spec : Document.Spec) :
    (observe client config spec).Logs (·.role = .interim) := by
  unfold observe
  apply ((Sync.logs_plan client _ _).mono fun _ => Log.Record.IsEngine.role_eq).bind
  intro drift
  split
  · exact (Run.Logs.log (role_record _ _ (by decide +kernel))).bind fun _ => .pure _
  · exact (Run.Logs.log (role_record _ _ (by decide +kernel))).bind fun _ => .pure _

theorem logs_settle (config : Config) (r : Report) (outcome : Except Fault Report) :
    (settle config r outcome : Run σ _).Logs (·.role = .interim) := by
  cases outcome with
  | ok r => exact .pure _
  | error e =>
    unfold settle
    dsimp only
    split
    · next entry hentry =>
      exact (Run.Logs.log (role_of_faultRecord? hentry)).bind fun _ => .pure _
    · exact .pure _

theorem logs_enforce (client : Client σ) (config : Config) (signal? : Option (Signal σ))
    (spec : Document.Spec) :
    (enforce client config signal? spec).Logs (·.role = .interim) := by
  unfold enforce
  apply ((Sync.logs_run client _ _ _ _).mono fun _ => Log.Record.IsEngine.role_eq).bind
  intro synced
  dsimp only
  split
  · have hverify := Verify.logs_run client spec.serviceId synced.version spec.endpoints
    exact (hverify.mono fun _ => Log.Record.IsEngine.role_eq).outcome.bind fun _ =>
      logs_settle _ _ _
  · exact .pure _

theorem logs_work (client : Client σ) (config : Config) (signal? : Option (Signal σ))
    (files : Files) : (work client config signal? files).Logs (·.role = .interim) := by
  unfold work
  apply (logs_configuredSpec files config).bind
  intro spec
  split
  · exact logs_observe client config spec
  · exact logs_enforce client config signal? spec

/--
The records that close the log of a cycle with the given report.
-/
def closing (surroundings : Surroundings) (config : Config) (r : Report) : List Log.Record :=
  (if config.auditLogging then
    changeRecords surroundings config r ++ [(provenance surroundings config r).record]
  else [])
    ++ [resultRecord r]

theorem closes_run (surroundings : Surroundings) (client : Client σ) (config : Config)
    (signal? : Option (Signal σ)) :
    (run surroundings client config signal?).Closes (·.role = .interim)
      (closing surroundings config) := by
  unfold run
  apply Run.Closes.bind (logs_work client config signal? surroundings.files).outcome
  intro outcome
  apply Run.Closes.bind (logs_settle config (emptyReport config) outcome)
  intro report
  apply Run.Closes.of_writes
  have hend : (do
      Run.log (resultRecord report)
      pure report : Run σ Report).Writes report [resultRecord report] :=
    (Run.Writes.log _).bind (.pure report)
  unfold closing
  split
  · exact (writes_recordProvenance surroundings config report).bind hend
  · exact hend

/--
That records tell of a cycle what its report says.
-/
structure Journaled (surroundings : Surroundings) (config : Config) (r : Report)
    (records : List Log.Record) : Prop where
  changes : records.filter (·.role = .change)
    = if config.auditLogging then changeRecords surroundings config r else []
  provenance : records.filter (·.role = .provenance)
    = if config.auditLogging then [(provenance surroundings config r).record] else []
  result : records.filter (·.role = .result) = [resultRecord r]

theorem filter_role {records : List Log.Record} {own : Log.Record.Role}
    (h : ∀ r ∈ records, r.role = own) (role : Log.Record.Role) :
    records.filter (·.role = role) = if own = role then records else [] := by
  split
  · next heq =>
    rw [filter_eq_self]
    intro r hr
    rw [h r hr]
    exact decide_eq_true heq
  · next hne =>
    rw [filter_eq_nil_iff]
    intro r hr
    rw [h r hr, decide_eq_true_iff]
    exact hne

theorem role_of_mem_changeRecords (surroundings : Surroundings) (config : Config) (r : Report) :
    ∀ entry ∈ changeRecords surroundings config r, entry.role = .change := by
  intro entry hentry
  unfold changeRecords at hentry
  split at hentry
  · obtain ⟨c, -, rfl⟩ := mem_map.1 hentry
    exact Provenance.role_changeRecord _ _ _
  · cases hentry

theorem filter_role_closing (surroundings : Surroundings) (config : Config) (r : Report)
    (role : Log.Record.Role) :
    (closing surroundings config r).filter (·.role = role) = match role with
      | .interim => []
      | .change => if config.auditLogging then changeRecords surroundings config r else []
      | .provenance =>
        if config.auditLogging then [(provenance surroundings config r).record] else []
      | .result => [resultRecord r] := by
  have hchanges := filter_role (role_of_mem_changeRecords surroundings config r)
  unfold closing
  cases config.auditLogging <;> cases role <;>
    simp [hchanges, Provenance.role_record, role_resultRecord]

theorem journaled_closing (surroundings : Surroundings) (config : Config) (r : Report)
    {interim : List Log.Record} (h : ∀ r ∈ interim, r.role = .interim) :
    Journaled surroundings config r (interim ++ closing surroundings config r) := by
  constructor
  all_goals rw [filter_append, filter_role h, filter_role_closing]
  all_goals rfl

/--
Whatever a cycle comes to, its log tells it.
-/
theorem journaled_of_run {surroundings : Surroundings} {client : Client σ} {config : Config}
    {signal? : Option (Signal σ)} {w : World σ} {report : Report}
    (h : (run surroundings client config signal? w).1 = .ok report) :
    ∃ records,
      (run surroundings client config signal? w).2.log = w.log ++ records
        ∧ Journaled surroundings config report records := by
  obtain ⟨interim, hlog, hinterim⟩ := closes_run surroundings client config signal? w report h
  exact ⟨_, hlog, journaled_closing surroundings config report hinterim⟩

end Reconcile

end Converge
