import Converge.Proofs.Reconcile.Conclusion
import Converge.Proofs.Reconcile.Journal
import Converge.Remote.Service

/-!
This module contains what a cycle says of drift. Main statement: what it says is true if and only if
there is none, or it was only to be observed, or a version was activated to remove it. A cycle that
is stopped before that has found drift and denies it.
-/

namespace Converge

open List

namespace Reconcile

variable {σ : Type} {config : Config} {drift : Drift} {activated : Bool} {r : Report}

theorem Concludes.driftFound_iff (h : Concludes config (some drift) activated r) :
    r.driftFound = true
      ↔ drift.changes ≠ [] ∧ (config.mode = .observe ∨ activated = true) := by
  cases h with
  | observed hmode => simp [observedReport, Drift.isFound, hmode]
  | exceeded hmode hlt => simp [emptyReport, hmode]
  | converged hmode hempty hsynced => simp [syncedReport, hempty, hsynced]
  | failed hmode hne => simp [emptyReport, hmode]
  | cancelled hmode hne => simp [emptyReport, hmode]
  | activated verified fault? hmode hne hsynced hchanges hfault =>
    simp [syncedReport, hchanges, hne]

theorem Concludes.changes_ne_nil (h : Concludes config (some drift) activated r)
    (hcounted : 0 < r.changesBlocked ∨ 0 < r.changesApplied) : drift.changes ≠ [] := by
  rintro hempty
  cases h with
  | observed hmode => simp [observedReport, emptyReport] at hcounted
  | exceeded hmode hlt => simp [emptyReport, hempty] at hcounted
  | converged hmode hempty hsynced => simp [syncedReport, emptyReport, hsynced] at hcounted
  | failed hmode hne => exact hne hempty
  | cancelled hmode hne => exact hne hempty
  | activated verified fault? hmode hne hsynced hchanges hfault => exact hne hempty

/--
That a report and the records of its cycle are right about drift.
-/
structure Truthful (config : Config) (drift : Drift) (r : Report) (records : List Log.Record) :
    Prop where
  report : r.driftFound = true ↔ drift.changes ≠ []
  provenance : config.auditLogging = true → ∃ p : Provenance,
    records.filter (·.role = .provenance) = [p.record]
      ∧ (p.driftDetected = true ↔ drift.changes ≠ [])
  counted : 0 < r.changesBlocked ∨ 0 < r.changesApplied → r.driftFound = true

theorem Truthful.of_report {surroundings : Surroundings} {records : List Log.Record}
    (hconcludes : Concludes config (some drift) activated r)
    (hjournaled : Journaled surroundings config r records)
    (hreport : r.driftFound = true ↔ drift.changes ≠ []) : Truthful config drift r records where
  report := hreport
  provenance := by
    intro haudit
    refine ⟨Reconcile.provenance surroundings config r, ?_, hreport⟩
    rw [hjournaled.provenance, if_pos haudit]
  counted := by
    intro hcounted
    exact hreport.2 (hconcludes.changes_ne_nil hcounted)

/--
If a cycle with any client has found a plan, then what it says of drift is right if and only if the
plan is empty, the cycle only observes, or it has activated a version.
-/
theorem truthful_run_iff (surroundings : Surroundings) (client : Client σ) (config : Config)
    (signal? : Option (Signal σ)) (w : World σ) (drift : Drift)
    (hplanned : planned? client surroundings.files config w.remote = some drift) :
    ∃ report events records,
      (run surroundings client config signal? w).1 = .ok report
        ∧ (run surroundings client config signal? w).2.trace = w.trace ++ events
        ∧ (run surroundings client config signal? w).2.log = w.log ++ records
        ∧ (Truthful config drift report records
          ↔ drift.changes = [] ∨ config.mode = .observe ∨ Event.activated events = true) := by
  obtain ⟨report, events, hreport, htrace, hconcludes⟩ :=
    concludes_of_run surroundings client config signal? w
  obtain ⟨records, hlog, hjournaled⟩ := journaled_of_run hreport
  rw [hplanned] at hconcludes
  refine ⟨report, events, records, hreport, htrace, hlog, ?_⟩
  have hfound := hconcludes.driftFound_iff
  constructor
  · intro htruthful
    by_cases hempty : drift.changes = []
    · exact .inl hempty
    · exact .inr (hfound.1 (htruthful.report.2 hempty)).2
  · intro hright
    apply Truthful.of_report hconcludes hjournaled
    rw [hfound]
    constructor
    · exact And.left
    · intro hne
      exact ⟨hne, hright.resolve_left hne⟩

/-
An observing cycle that finds two changes.
-/
theorem truthful_run_of_two_changes :
    let files := specFile "{serviceId: svc-1, endpoints: [{name: b, credential: key}]}"
    let config : Config := { serviceId := "svc-1", specPath := "spec" }
    let old : Stored := { serviceId := "svc-1", version := 1, name := "a", credential := "key" }
    let drift : Drift := {
      serviceId := "svc-1"
      version := 1
      changes := [.delete old, .create (Declared.filled { name := "b", credential := "key" })] }
    let w : World Service := { remote := Service.ofEndpoints "svc-1" 1 [old] 1000 }
    ∃ report records, (run { files } (Service.client .unchanged) config none w).1 = .ok report
      ∧ (run { files } (Service.client .unchanged) config none w).2.log = records
      ∧ Truthful config drift report records := by
  intro files config old drift w
  have hplanned : planned? (Service.client .unchanged) files config w.remote = some drift := by
    decide +kernel
  obtain ⟨report, events, records, hreport, -, hlog, htruthful⟩ :=
    truthful_run_iff { files } (Service.client .unchanged) config none w drift hplanned
  exact ⟨report, records, hreport, hlog, htruthful.2 (.inr (.inl rfl))⟩

/-
A cycle that may make one change and finds two denies what it has found.
-/
theorem not_truthful_run_of_two_changes :
    let files := specFile "{serviceId: svc-1, endpoints: [{name: b, credential: key}]}"
    let config : Config :=
      { serviceId := "svc-1", specPath := "spec", mode := .enforce, maxChanges := 1 }
    let old : Stored := { serviceId := "svc-1", version := 1, name := "a", credential := "key" }
    let drift : Drift := {
      serviceId := "svc-1"
      version := 1
      changes := [.delete old, .create (Declared.filled { name := "b", credential := "key" })] }
    let w : World Service := { remote := Service.ofEndpoints "svc-1" 1 [old] 1000 }
    planned? (Service.client .unchanged) files config w.remote = some drift
      ∧ ∃ report, (run { files } (Service.client .unchanged) config none w).1 = .ok report
        ∧ report.changesBlocked = 2 ∧ report.driftFound = false
        ∧ ∀ records, ¬Truthful config drift report records := by
  intro files config old drift w
  have hreport : (run { files } (Service.client .unchanged) config none w).1 = .ok
      { emptyReport config with
        fault? := some (.limitExceeded 2 1)
        changesBlocked := 2 } := by
    decide +kernel
  refine ⟨by decide +kernel, _, hreport, rfl, rfl, ?_⟩
  intro records htruthful
  cases htruthful.counted (.inl (by decide))

end Reconcile

end Converge
