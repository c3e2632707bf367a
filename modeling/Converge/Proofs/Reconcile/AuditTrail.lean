import Converge.Proofs.Reconcile.Conclusion
import Converge.Proofs.Reconcile.Journal
import Converge.Remote.Service

/-!
This module contains the audit trail of a cycle. Main statement: the trail tells of every change
that the cycle says it applied if and only if the cycle was not cancelled after it had applied some.
What was applied before such a cancellation is counted and not told.
-/

namespace Converge

open List

/--
That a record names the kind and the endpoint of a change.
-/
structure Log.Record.Tells (entry : Log.Record) (c : Change) : Prop where
  operation : entry.extra.lookup ("operation" : Text) = some (.text c.kind.label)
  endpoint : entry.extra.lookup ("endpoint" : Text) = some (.text c.name)

theorem Provenance.tells_changeRecord (p : Provenance) (c : Change) (version : Option Int) :
    (p.changeRecord c version).Tells c where
  operation := rfl
  endpoint := rfl

namespace Reconcile

variable {σ : Type} {config : Config} {r : Report}

/--
That a cycle was cancelled when it had applied some of its changes.
-/
def Interrupted (r : Report) : Prop :=
  ∃ version? applied, r.fault? = some (.cancelled version? applied) ∧ applied ≠ 0

theorem not_interrupted (h : ∀ version? applied, r.fault? ≠ some (.cancelled version? applied)) :
    ¬Interrupted r := by
  rintro ⟨version?, applied, hfault, -⟩
  exact h version? applied hfault

theorem Incidental.ne_cancelled {e : Fault} (h : Incidental e) (version? : Option Int)
    (applied : Int) : e ≠ .cancelled version? applied := by
  rintro rfl
  cases h with
  | refused h => cases h

/--
Either what was applied before a cancellation is only counted, or what is counted is told.
-/
theorem Concludes.interrupted_or {drift? : Option Drift} {activated : Bool}
    (h : Concludes config drift? activated r) :
    (Interrupted r ∧ r.changes = [] ∧ r.changesApplied ≠ 0)
      ∨ ¬Interrupted r
        ∧ (r.changesApplied = 0
          ∨ r.changes = (drift?.map Drift.changes).getD []
            ∧ r.changesApplied = r.changes.length) := by
  cases h with
  | unplanned hincidental =>
    refine .inr ⟨not_interrupted fun _ _ hfault => ?_, .inl rfl⟩
    exact hincidental.ne_cancelled _ _ (Option.some.inj hfault)
  | observed hmode => exact .inr ⟨not_interrupted fun _ _ => nofun, .inl rfl⟩
  | exceeded hmode hlt => exact .inr ⟨not_interrupted fun _ _ => nofun, .inl rfl⟩
  | converged hmode hempty hsynced =>
    refine .inr ⟨not_interrupted fun _ _ => nofun, .inl ?_⟩
    simp [syncedReport, hsynced]
  | failed hmode hne => exact .inr ⟨not_interrupted fun _ _ => nofun, .inl rfl⟩
  | @cancelled drift version? applied hmode hne =>
    by_cases hzero : applied = 0
    · refine .inr ⟨?_, .inl (congrArg Nat.cast hzero)⟩
      rintro ⟨_, _, hfault, happlied⟩
      cases hfault
      exact happlied (congrArg Nat.cast hzero)
    · have happlied : (applied : Int) ≠ 0 := Int.natCast_ne_zero.2 hzero
      exact .inl ⟨⟨version?, applied, rfl, happlied⟩, rfl, happlied⟩
  | activated verified fault? hmode hne hactivated hchanges hfault =>
    refine .inr ⟨not_interrupted ?_, .inr ⟨hchanges, if_pos hactivated⟩⟩
    intro version? applied h
    exact (hfault _ h).ne_cancelled version? applied rfl

/--
That records tell of the first changes of a plan, as many as a report says were applied, and that
the audit record does not count fewer.
-/
structure Audited (planned : List Change) (r : Report) (records : List Log.Record) : Prop where
  counted : ((records.filter (·.role = .change)).length : Int) = r.changesApplied
  trail : Forall₂ Log.Record.Tells (records.filter (·.role = .change))
    (planned.take r.changesApplied.toNat)
  summarized : ∃ p : Provenance, records.filter (·.role = .provenance) = [p.record]
    ∧ r.changesApplied ≤ p.counts.total

theorem Audited.of_told {surroundings : Surroundings} {planned : List Change}
    {records : List Log.Record} (haudit : config.auditLogging = true)
    (hjournaled : Journaled surroundings config r records)
    (htold : r.changesApplied = 0 ∨ r.changes = planned ∧ r.changesApplied = r.changes.length) :
    Audited planned r records := by
  have hrecords := hjournaled.changes
  have hprovenance := hjournaled.provenance
  rw [if_pos haudit] at hrecords hprovenance
  have htotal : (provenance surroundings config r).counts.total = r.changes.length :=
    Change.total_count r.changes
  obtain hzero | ⟨rfl, hlength⟩ := htold
  · unfold changeRecords at hrecords
    rw [if_neg (not_not_intro hzero)] at hrecords
    constructor
    · rw [hrecords, hzero]
      rfl
    · rw [hrecords, hzero]
      exact .nil
    · refine ⟨_, hprovenance, ?_⟩
      rw [htotal, hzero]
      exact Int.natCast_nonneg _
  · have hmap : records.filter (·.role = .change)
        = r.changes.map fun c => (provenance surroundings config r).changeRecord c r.version := by
      rw [hrecords]
      unfold changeRecords
      split
      · rfl
      · next hzero =>
        rw [not_not, hlength, Int.natCast_eq_zero, length_eq_zero_iff] at hzero
        rw [hzero, map_nil]
    constructor
    · rw [hmap, length_map, hlength]
    · rw [hmap, hlength, Int.toNat_natCast, take_length, forall₂_map_left_iff, forall₂_same]
      exact fun c _ => Provenance.tells_changeRecord _ _ _
    · exact ⟨_, hprovenance, Int.le_of_eq (hlength.trans htotal.symm)⟩

theorem not_audited_of_untold {surroundings : Surroundings} {planned : List Change}
    {records : List Log.Record} (hjournaled : Journaled surroundings config r records)
    (hchanges : r.changes = []) (happlied : r.changesApplied ≠ 0) :
    ¬Audited planned r records := by
  intro haudited
  apply happlied
  rw [← haudited.counted, hjournaled.changes]
  unfold changeRecords
  rw [hchanges, map_nil, ite_self, ite_self]
  rfl

/--
If a cycle with any client keeps an audit trail, then the trail is complete if and only if the cycle
was not cancelled when it had applied some of its changes.
-/
theorem audited_run_iff (surroundings : Surroundings) (client : Client σ) (config : Config)
    (signal? : Option (Signal σ)) (w : World σ) (haudit : config.auditLogging = true) :
    ∃ report records,
      (run surroundings client config signal? w).1 = .ok report
        ∧ (run surroundings client config signal? w).2.log = w.log ++ records
        ∧ (Audited (plannedChanges client surroundings.files config w.remote) report records
          ↔ ¬Interrupted report) := by
  obtain ⟨report, events, hreport, -, hconcludes⟩ :=
    concludes_of_run surroundings client config signal? w
  obtain ⟨records, hlog, hjournaled⟩ := journaled_of_run hreport
  refine ⟨report, records, hreport, hlog, ?_⟩
  obtain ⟨hinterrupted, hchanges, happlied⟩ | ⟨hinterrupted, htold⟩ := hconcludes.interrupted_or
  · refine iff_of_false ?_ (not_not_intro hinterrupted)
    exact not_audited_of_untold hjournaled hchanges happlied
  · exact iff_of_true (.of_told haudit hjournaled htold) hinterrupted

/-
A cycle that makes both changes of its plan.
-/
theorem audited_run_of_replacement :
    let files := specFile "{serviceId: svc-1, endpoints: [{name: b, credential: key}]}"
    let config : Config := { serviceId := "svc-1", specPath := "spec", mode := .enforce }
    let old : Stored := { serviceId := "svc-1", version := 1, name := "a", credential := "key" }
    let changes : List Change :=
      [.delete old, .create (Declared.filled { name := "b", credential := "key" })]
    let w : World Service := { remote := Service.ofEndpoints "svc-1" 1 [old] 1000 }
    ∃ report records, (run { files } (Service.client .unchanged) config none w).1 = .ok report
      ∧ (run { files } (Service.client .unchanged) config none w).2.log = records
      ∧ report.changesApplied = 2 ∧ Audited changes report records := by
  intro files config old changes w
  obtain ⟨report, records, hreport, hlog, haudited⟩ :=
    audited_run_iff { files } (Service.client .unchanged) config none w rfl
  have hchanges : plannedChanges (Service.client .unchanged) files config w.remote = changes := by
    decide +kernel
  have hsucceeded : (run { files } (Service.client .unchanged) config none w).1 = .ok
      { emptyReport config with
        previousVersion := some 1
        version := some 2
        changes
        driftFound := true
        changesApplied := 2
        verified := true } := by
    decide +kernel
  cases hreport.symm.trans hsucceeded
  rw [hchanges] at haudited
  exact ⟨_, records, hreport, hlog, rfl, haudited.2 (not_interrupted fun _ _ => nofun)⟩

/-
A cycle that is cancelled when it has made the only change of its plan.
-/
theorem not_audited_run_of_cancellation :
    let files := specFile "{serviceId: svc-1, endpoints: [{name: a, credential: key}]}"
    let config : Config := { serviceId := "svc-1", specPath := "spec", mode := .enforce }
    let changes : List Change := [.create (Declared.filled { name := "a", credential := "key" })]
    let signal : Signal Service := fun n _ => n = 2
    let w : World Service := { remote := Service.ofEndpoints "svc-1" 1 [] 1000 }
    plannedChanges (Service.client .unchanged) files config w.remote = changes
      ∧ ∃ report, (run { files } (Service.client .unchanged) config (some signal) w).1 = .ok report
        ∧ report.changesApplied = 1
        ∧ ¬Audited changes report
          (run { files } (Service.client .unchanged) config (some signal) w).2.log := by
  intro files config changes signal w
  have hreport : (run { files } (Service.client .unchanged) config (some signal) w).1 = .ok
      { emptyReport config with
        fault? := some (.cancelled (some 2) 1)
        pendingVersion := some 2
        changesApplied := 1 } := by
    decide +kernel
  have htrail : (run { files } (Service.client .unchanged) config (some signal) w).2.log.countP
      (·.role = .change) = 0 := by
    decide +kernel
  refine ⟨by decide +kernel, _, hreport, rfl, ?_⟩
  intro haudited
  have hcounted := haudited.counted
  rw [← countP_eq_length_filter, htrail] at hcounted
  cases hcounted

end Reconcile

end Converge
