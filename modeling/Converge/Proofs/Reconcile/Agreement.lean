import Converge.Proofs.Reconcile.Conclusion
import Converge.Proofs.Reconcile.Journal
import Converge.Remote.Service

/-!
This module contains the agreement of everything that a cycle says about itself. Main statement: the
exit code, the result in the log and the audit record take a cycle for a failure if and only if its
report has a fault, and no cycle that removes drift exits as if it had only found some.
-/

namespace Converge

open List

namespace Text

@[simp]
theorem isEmpty_append (s t : Text) : (s ++ t).isEmpty = (s.isEmpty && t.isEmpty) := by
  rw [Bool.eq_iff_iff, Bool.and_eq_true]
  unfold isEmpty
  rw [points_append, List.isEmpty_iff, List.isEmpty_iff, List.isEmpty_iff, append_eq_nil_iff]

@[simp]
theorem isEmpty_ofString (s : String) : (ofString s).isEmpty = decide (s = "") := by
  rw [Bool.eq_iff_iff, decide_eq_true_iff]
  unfold isEmpty ofString
  rw [List.isEmpty_map, List.isEmpty_iff, String.toList_eq_nil_iff]

end Text

namespace Fault

theorem isEmpty_message {e : Fault} (hremote : ∀ message, e ≠ .remote message)
    (hforeign : ∀ f, e = .foreign f → f.message ≠ .empty) : e.message.isEmpty = false := by
  cases e with
  | invalidRecord field name reason? => cases reason? <;> simp [message]
  | duplicateName name => simp [message]
  | callFailed call cause? => simp [message, callMessage]
  | notConverged version pending tally =>
    simp only [message]
    split <;> simp
  | cancelled version? applied => cases version? <;> simp [message]
  | limitExceeded count limit => simp [message]
  | stage fault => cases fault <;> simp [message, VersionFault.message]
  | load fault => cases fault <;> simp [message, LoadFault.message]
  | setting fault => cases fault <;> simp [message, SettingFault.message]
  | remote text => exact absurd rfl (hremote text)
  | foreign f =>
    rw [← Bool.not_eq_true, Text.isEmpty_iff]
    exact hforeign f rfl

end Fault

namespace Report

variable {r : Report}

theorem exitCode_of_fault {e : Fault} (h : r.fault? = some e) (failOnDrift : Bool) :
    r.exitCode failOnDrift = 1 := by
  unfold exitCode
  rw [h]
  rfl

theorem exitCode_of_none (h : r.fault? = none) (failOnDrift : Bool) :
    r.exitCode failOnDrift
      = if failOnDrift = true ∧ r.driftFound = true ∧ r.changesApplied = 0 then 3 else 0 := by
  unfold exitCode
  rw [h]
  simp [and_assoc]

end Report

namespace Reconcile

variable {σ : Type} {config : Config} {r : Report} {drift? : Option Drift} {activated : Bool}

theorem Incidental.ne_remote {e : Fault} (h : Incidental e) (message : Text) :
    e ≠ .remote message := by
  rintro rfl
  cases h with
  | refused h => cases h

theorem Concludes.ne_remote (h : Concludes config drift? activated r) (message : Text) :
    r.fault? ≠ some (.remote message) := by
  cases h with
  | unplanned hincidental => exact fun h => hincidental.ne_remote message (Option.some.inj h)
  | observed hmode => exact nofun
  | exceeded hmode hlt => exact nofun
  | converged hmode hempty hsynced => exact nofun
  | failed hmode hne => exact nofun
  | cancelled hmode hne => exact nofun
  | activated verified fault? hmode hne hactivated hchanges hfault =>
    exact fun h => (hfault _ h).ne_remote message rfl

theorem Concludes.unblocked_of_none (h : Concludes config drift? activated r)
    (hfault : r.fault? = none) : r.changesBlocked = 0 := by
  cases h with
  | exceeded hmode hlt => cases hfault
  | _ => rfl

/--
Drift is found and left alone by the cycles that only observe.
-/
theorem Concludes.driftFound_and_iff (h : Concludes config drift? activated r)
    (hfault : r.fault? = none) :
    r.driftFound = true ∧ r.changesApplied = 0
      ↔ config.mode = .observe ∧ (drift?.map Drift.changes).getD [] ≠ [] := by
  cases h with
  | unplanned hincidental => cases hfault
  | observed hmode => simp [observedReport, emptyReport, Drift.isFound, hmode]
  | exceeded hmode hlt => cases hfault
  | converged hmode hempty hsynced => simp [syncedReport, hsynced, hmode]
  | failed hmode hne => cases hfault
  | cancelled hmode hne => cases hfault
  | activated verified fault? hmode hne hactivated hchanges hfault' =>
    simp [syncedReport, hactivated, hchanges, hne, hmode]

theorem level_provenance_of_none {surroundings : Surroundings} (hfault : r.fault? = none)
    (hblocked : r.changesBlocked = 0) : (provenance surroundings config r).level = .info := by
  unfold Provenance.level provenance
  simp [hfault, hblocked]

theorem level_provenance_of_fault {surroundings : Surroundings} {e : Fault}
    (hfault : r.fault? = some e) (hmessage : e.message.isEmpty = false) :
    (provenance surroundings config r).level = .error := by
  unfold Provenance.level provenance
  simp [hfault, hmessage]

/--
That the exit code of a cycle and the records that it has logged tell the same of it as its report,
if it has found the given plan.
-/
structure Agrees (config : Config) (failOnDrift : Bool) (planned : List Change) (code : Nat)
    (r : Report) (records : List Log.Record) : Prop where
  failed : code = 1 ↔ r.fault? ≠ none
  drifted : code = 3
    ↔ r.fault? = none ∧ failOnDrift = true ∧ config.mode = .observe ∧ planned ≠ []
  otherwise : code ≠ 1 → code ≠ 3 → code = 0
  result : ∃ entry, records.filter (·.role = .result) = [entry]
    ∧ entry.level = (if r.succeeded then .info else .error)
    ∧ entry.template
      = if r.succeeded then "Reconciliation result" else "Reconciliation failed"
  audited : config.auditLogging = true →
    ∃ p : Provenance, records.filter (·.role = .provenance) = [p.record]
      ∧ p.record.level = (if r.succeeded then .info else .error)
      ∧ p.errorClass? = r.fault?.map Fault.className
  unaudited : config.auditLogging = false → records.filter (·.role = .provenance) = []

theorem resultRecord_of_fault {e : Fault} (h : r.fault? = some e) :
    (resultRecord r).level = .error ∧ (resultRecord r).template = "Reconciliation failed" := by
  unfold resultRecord
  rw [h]
  exact ⟨rfl, rfl⟩

theorem resultRecord_of_none (h : r.fault? = none) (hblocked : r.changesBlocked = 0) :
    (resultRecord r).level = .info ∧ (resultRecord r).template = "Reconciliation result" := by
  unfold resultRecord
  rw [h, hblocked]
  exact ⟨rfl, rfl⟩

theorem Agrees.of_fault {surroundings : Surroundings} {records : List Log.Record} {e : Fault}
    (hjournaled : Journaled surroundings config r records) (failOnDrift : Bool)
    (planned : List Change) (hfault : r.fault? = some e) (hmessage : e.message.isEmpty = false) :
    Agrees config failOnDrift planned (r.exitCode failOnDrift) r records := by
  have hcode := Report.exitCode_of_fault hfault failOnDrift
  have hsucceeded : r.succeeded = false := by
    unfold Report.succeeded
    rw [hfault]
    rfl
  have hprovenance := hjournaled.provenance
  constructor
  · simp [hcode, hfault]
  · simp [hcode, hfault]
  · exact fun hne => absurd hcode hne
  · refine ⟨resultRecord r, hjournaled.result, ?_⟩
    rw [hsucceeded]
    exact resultRecord_of_fault hfault
  · intro haudit
    rw [if_pos haudit] at hprovenance
    refine ⟨_, hprovenance, ?_, rfl⟩
    rw [hsucceeded]
    exact level_provenance_of_fault hfault hmessage
  · intro haudit
    rw [hprovenance, haudit]
    rfl

theorem Agrees.of_none {surroundings : Surroundings} {records : List Log.Record}
    {planned : List Change} (hjournaled : Journaled surroundings config r records)
    (failOnDrift : Bool) (hfault : r.fault? = none) (hblocked : r.changesBlocked = 0)
    (hdrift : r.driftFound = true ∧ r.changesApplied = 0
      ↔ config.mode = .observe ∧ planned ≠ []) :
    Agrees config failOnDrift planned (r.exitCode failOnDrift) r records := by
  have hcode := Report.exitCode_of_none hfault failOnDrift
  simp only [hdrift] at hcode
  have hsucceeded : r.succeeded = true := by
    unfold Report.succeeded
    rw [hfault]
    rfl
  have hprovenance := hjournaled.provenance
  constructor
  · rw [hcode]
    split <;> simp [hfault]
  · rw [hcode]
    split
    · next h => simp [h, hfault]
    · next h => simp [h, hfault]
  · rw [hcode]
    split
    · exact fun _ hne => absurd rfl hne
    · exact fun _ _ => rfl
  · refine ⟨resultRecord r, hjournaled.result, ?_⟩
    rw [hsucceeded]
    exact resultRecord_of_none hfault hblocked
  · intro haudit
    rw [if_pos haudit] at hprovenance
    refine ⟨_, hprovenance, ?_, rfl⟩
    rw [hsucceeded]
    exact level_provenance_of_none hfault hblocked
  · intro haudit
    rw [hprovenance, haudit]
    rfl

theorem Concludes.agrees {surroundings : Surroundings} {records : List Log.Record}
    (hconcludes : Concludes config drift? activated r)
    (hjournaled : Journaled surroundings config r records) (failOnDrift : Bool)
    (hforeign : ∀ f, r.fault? = some (.foreign f) → f.message ≠ .empty) :
    Agrees config failOnDrift ((drift?.map Drift.changes).getD []) (r.exitCode failOnDrift) r
      records := by
  cases hfault : r.fault? with
  | none =>
    exact .of_none hjournaled failOnDrift hfault (hconcludes.unblocked_of_none hfault)
      (hconcludes.driftFound_and_iff hfault)
  | some e =>
    apply Agrees.of_fault hjournaled failOnDrift _ hfault
    apply Fault.isEmpty_message
    · rintro message rfl
      exact hconcludes.ne_remote message hfault
    · rintro f rfl
      exact hforeign f hfault

theorem start_eq {surroundings : Surroundings} {client : Client σ} {failOnDrift : Bool}
    {w : World σ} {report : Report}
    (h : (run surroundings client config none
      { w with log := w.log ++ [startRecord config] }).1 = .ok report) :
    start surroundings client config failOnDrift w
      = (.ok (report.exitCode failOnDrift, report), (run surroundings client config none
        { w with log := w.log ++ [startRecord config] }).2) := by
  change Run.bind (run surroundings client config none) _ _ = _
  unfold Run.bind
  generalize run surroundings client config none _ = result at h ⊢
  cases result with
  | mk outcome w' =>
    cases h
    rfl

theorem Journaled.cons {surroundings : Surroundings} {records : List Log.Record}
    (h : Journaled surroundings config r records) {entry : Log.Record}
    (hentry : entry.role = .interim) : Journaled surroundings config r (entry :: records) := by
  constructor
  · rw [filter_cons_of_neg (by simp [hentry]), h.changes]
  · rw [filter_cons_of_neg (by simp [hentry]), h.provenance]
  · rw [filter_cons_of_neg (by simp [hentry]), h.result]

theorem role_startRecord (config : Config) : (startRecord config).role = .interim := by
  apply Log.Record.role_of_logger
  change ("logsync.main" : Text) ∉ _
  decide +kernel

/--
With any client, a cycle that is started ends with a report, and the exit code and the log agree
with it if no fault from outside is without a message.
-/
theorem agrees_start (surroundings : Surroundings) (client : Client σ) (config : Config)
    (failOnDrift : Bool) (w : World σ) :
    ∃ code report records,
      (start surroundings client config failOnDrift w).1 = .ok (code, report)
        ∧ (start surroundings client config failOnDrift w).2.log = w.log ++ records
        ∧ ((∀ f, report.fault? = some (.foreign f) → f.message ≠ .empty) →
          Agrees config failOnDrift (plannedChanges client surroundings.files config w.remote) code
            report records) := by
  obtain ⟨report, events, hreport, -, hconcludes⟩ := concludes_of_run surroundings client config
    none { w with log := w.log ++ [startRecord config] }
  obtain ⟨records, hlog, hjournaled⟩ := journaled_of_run hreport
  refine ⟨report.exitCode failOnDrift, report, startRecord config :: records, ?_, ?_, ?_⟩
  · rw [start_eq hreport]
  · rw [start_eq hreport, hlog, append_assoc, singleton_append]
  · intro hforeign
    exact hconcludes.agrees (hjournaled.cons (role_startRecord config)) failOnDrift hforeign

/-
An observing cycle that finds two changes and is to fail if it finds any.
-/
theorem agrees_start_of_two_changes :
    let files := specFile "{serviceId: svc-1, endpoints: [{name: b, credential: key}]}"
    let config : Config := { serviceId := "svc-1", specPath := "spec" }
    let old : Stored := { serviceId := "svc-1", version := 1, name := "a", credential := "key" }
    let changes : List Change :=
      [.delete old, .create (Declared.filled { name := "b", credential := "key" })]
    let w : World Service := { remote := Service.ofEndpoints "svc-1" 1 [old] 1000 }
    ∃ report records,
      (start { files } (Service.client .unchanged) config true w).1 = .ok (3, report)
      ∧ (start { files } (Service.client .unchanged) config true w).2.log = records
      ∧ Agrees config true changes 3 report records := by
  intro files config old changes w
  obtain ⟨code, report, records, hstart, hlog, hagrees⟩ :=
    agrees_start { files } (Service.client .unchanged) config true w
  have hchanges : plannedChanges (Service.client .unchanged) files config w.remote = changes := by
    decide +kernel
  have hobserved : (start { files } (Service.client .unchanged) config true w).1 = .ok
      (3, observedReport config { serviceId := "svc-1", version := 1, changes }) := by
    decide +kernel
  cases hstart.symm.trans hobserved
  rw [hchanges] at hagrees
  exact ⟨_, records, hstart, hlog, hagrees fun _ => nofun⟩

end Reconcile

end Converge
