import Converge.Proofs.Reconcile.Conclusion
import Converge.Proofs.Remote.Outages

/-!
This module contains which clone a cycle reports as left behind. Main statement: whichever calls to
a service fail and whenever the cycle is cancelled, it reports the version that it has added and not
activated, and none if there is no such version.
-/

namespace Converge

open List

section Gains

variable {store : Storage} {signal? : Option (Signal Unsteady)} {serviceId : Text}
  {desired : List Declared} {u u' : Unsteady} {events : List Event}

namespace Sync

theorem Applies.sameVersions {version : Int} {applied : Nat} {changes : List Change}
    {result : Except Fault Version}
    (h : Applies (Unsteady.client store) signal? serviceId version applied changes u events result
      u') : u.service.SameVersions u'.service := by
  have hkind (c : Change) :
      (c.request serviceId version).operation ∉ [Operation.clone, .activate] := by
    cases c <;> simp [Change.request, Request.operation]
  induction h with
  | finished => exact .refl _
  | cancelled hpolled => exact .refl _
  | failed hpolled hcall => exact Unsteady.sameVersions_client hcall (hkind _)
  | applied hpolled hcall hrest ih => exact (Unsteady.sameVersions_client hcall (hkind _)).trans ih

theorem Applies.pending?_eq {version : Int} {applied : Nat} {changes : List Change} {e : Fault}
    (h : Applies (Unsteady.client store) signal? serviceId version applied changes u events
      (.error e) u') : e.pending? = some version := by
  obtain ⟨c, f, rfl⟩ | ⟨k, rfl⟩ := h.error_cases
  · have hkind : (c.request serviceId version).operation
        ∈ [Operation.delete, .create, .update, .activate] := by
      cases c <;> simp [Change.request, Request.operation]
    rw [Reconcile.pending?_site _ hkind]
    cases c <;> rfl
  · rfl

theorem Carries.gains {drift : Drift} {result : Except Fault Synced}
    (h : Carries (Unsteady.client store) signal? drift u events result u') :
    u.service.Gains (Fault.pendingOf? result) u'.service := by
  cases h with
  | cancelled hpolled => exact .nothing (.refl _)
  | cloneFailed hpolled hclone => exact .nothing (Unsteady.sameVersions_clone hclone)
  | stopped hpolled hclone happlies =>
    rw [Fault.pendingOf?, happlies.pending?_eq]
    exact (Unsteady.gains_clone hclone).trans_same happlies.sameVersions
  | cancelledLast hpolled hclone happlies hpolled' =>
    exact (Unsteady.gains_clone hclone).trans_same happlies.sameVersions
  | activateFailed hpolled hclone happlies hpolled' hactivate =>
    have hdraft := (Unsteady.gains_clone hclone).trans_same happlies.sameVersions
    exact hdraft.trans_same (Unsteady.sameVersions_activate hactivate)
  | activated hpolled hclone happlies hpolled' hactivate =>
    have hdraft := (Unsteady.gains_clone hclone).trans_same happlies.sameVersions
    exact Unsteady.gains_activate hdraft hactivate

theorem Plans.sameVersions {found : Except Fault Drift}
    (h : Plans (Unsteady.client store) serviceId desired u events found u') :
    u.service.SameVersions u'.service := by
  cases h with
  | activeVersionFailed hactive =>
    exact Unsteady.sameVersions_client hactive (by simp [Request.operation])
  | listFailed hactive hlist | unplannable hactive hlist | planned hactive hlist =>
    have hsame := Unsteady.sameVersions_client hactive (by simp [Request.operation])
    exact hsame.trans (Unsteady.sameVersions_client hlist (by simp [Request.operation]))

theorem Course.gains {limit? : Option Int} {result : Except Fault Synced}
    (h : Course (Unsteady.client store) serviceId desired signal? limit? u events result u') :
    u.service.Gains (Fault.pendingOf? result) u'.service := by
  cases h with
  | unplanned hplans =>
    rw [Fault.pendingOf?, (Reconcile.incidental_of_plans hplans).pending?_eq]
    exact .nothing hplans.sameVersions
  | limitExceeded hplans hlimit hlt => exact .nothing hplans.sameVersions
  | converged hplans hlimit hempty => exact .nothing hplans.sameVersions
  | carried hplans hlimit hne hcarries => exact hplans.sameVersions.trans_gains hcarries.gains

end Sync

theorem Verify.Checks.sameVersions {version : Int} {verdict : Except Fault Unit}
    (h : Checks (Unsteady.client store) serviceId version desired u events verdict u') :
    u.service.SameVersions u'.service := by
  cases h with
  | unindexed hindex => exact .refl _
  | listFailed hlist | unplannable hlist | miscounted hlist | unconverged hlist | passed hlist =>
    exact Unsteady.sameVersions_client hlist (by simp [Request.operation])

namespace Reconcile

variable {config : Config} {spec : Document.Spec} {files : Files}

theorem pendingVersion_checked {synced : Synced} {verdict : Except Fault Unit}
    (hchecks : Verify.Checks (Unsteady.client store) serviceId synced.version desired u events
      verdict u') :
    (settled (syncedReport config synced)
      (verdict.map fun () => { syncedReport config synced with verified := true })).pendingVersion
      = none := by
  cases verdict with
  | ok => rfl
  | error e =>
    change (withFault (syncedReport config synced) e).pendingVersion = none
    rw [(incidental_of_checks hchecks).withFault_eq]
    rfl

theorem Enforces.gains {result : Except Fault Report}
    (h : Enforces (Unsteady.client store) config signal? spec u events result u') :
    u.service.Gains (settled (emptyReport config) result).pendingVersion u'.service := by
  cases h with
  | stopped hcourse =>
    rw [settled, pendingVersion_withFault rfl]
    exact hcourse.gains
  | unchecked hcourse hunchanged => exact hcourse.gains
  | checked hcourse hchanged hverify hchecks =>
    rw [settled, pendingVersion_checked hchecks]
    exact hcourse.gains.trans_same hchecks.sameVersions

theorem Works.gains {outcome : Except Fault Report}
    (h : Works (Unsteady.client store) config signal? files u events outcome u') :
    u.service.Gains (settled (emptyReport config) outcome).pendingVersion u'.service := by
  cases h with
  | untargeted htarget =>
    rw [settled, pendingVersion_withFault rfl, (incidental_of_target htarget).pending?_eq]
    exact .nothing (.refl _)
  | @observed spec _ found _ htargets hmode hplans =>
    cases found with
    | error e =>
      change u.service.Gains (withFault (emptyReport config) e).pendingVersion u'.service
      rw [pendingVersion_withFault rfl, (incidental_of_plans hplans).pending?_eq]
      exact .nothing hplans.sameVersions
    | ok drift => exact .nothing hplans.sameVersions
  | enforced htargets hmode henforces => exact henforces.gains

end Reconcile

end Gains

namespace Reconcile

variable {σ : Type} {config : Config} {drift? : Option Drift} {activated : Bool} {r : Report}

theorem Concludes.version_eq_none (h : Concludes config drift? activated r)
    (hpending : r.pendingVersion ≠ none) : r.version = none := by
  cases h with
  | observed hmode => exact absurd rfl hpending
  | converged hmode hempty hsynced => exact absurd rfl hpending
  | activated verified fault? hmode hne hactivated hchanges hfault => exact absurd rfl hpending
  | _ => rfl

theorem Concludes.pendingVersion_of_observe (h : Concludes config drift? activated r)
    (hmode : config.mode = .observe) : r.pendingVersion = none := by
  cases h with
  | failed hmode' hne => cases hmode.symm.trans hmode'
  | cancelled hmode' hne => cases hmode.symm.trans hmode'
  | _ => rfl

theorem Concludes.pendingVersion_eq (h : Concludes config drift? activated r) :
    r.pendingVersion = r.fault?.bind Fault.pending? := by
  cases h with
  | unplanned hincidental => exact hincidental.pending?_eq.symm
  | activated verified fault? hmode hne hactivated hchanges hfault =>
    cases fault? with
    | none => rfl
    | some e => exact (hfault e rfl).pending?_eq.symm
  | _ => rfl

/--
The ways in which a cycle ends that leave no clone behind.
-/
inductive Tidy (config : Config) (r : Report) : Prop
  | observing : config.mode = .observe → Tidy config r
  | unfailing : r.fault? = none → Tidy config r
  | incidental {e : Fault} : Incidental e → r.fault? = some e → Tidy config r
  | exceeded {count limit : Int} : r.fault? = some (.limitExceeded count limit) → Tidy config r
  | cancelled {applied : Int} : r.fault? = some (.cancelled none applied) → Tidy config r

theorem Tidy.pendingVersion_eq (h : Tidy config r)
    (hconcludes : Concludes config drift? activated r) : r.pendingVersion = none := by
  have hpending := hconcludes.pendingVersion_eq
  cases h with
  | observing hmode => exact hconcludes.pendingVersion_of_observe hmode
  | unfailing hfault => rw [hpending, hfault, Option.bind_none]
  | incidental hincidental hfault =>
    rw [hpending, hfault, Option.bind_some, hincidental.pending?_eq]
  | exceeded hfault =>
    rw [hpending, hfault]
    rfl
  | cancelled hfault =>
    rw [hpending, hfault]
    rfl

/--
That the clone which a report says was left behind is the one that a service has come to hold by the
cycle and that it does not use.
-/
structure Accounted (config : Config) (s s' : Service) (r : Report) : Prop where
  pending_iff : ∀ n, r.pendingVersion = some n
    ↔ (n ∉ s.numbers ∧ n ∈ s'.numbers) ∧ n ≠ s'.active
  tidy : Tidy config r → r.pendingVersion = none
  unversioned : r.pendingVersion ≠ none → r.version = none
  unchanged : r.pendingVersion ≠ none → s'.active = s.active

/--
Every cycle with a reachable service accounts for the clone that it leaves behind, whatever the
signal says and however often the service fails.
-/
theorem accounted_run (store : Storage) (surroundings : Surroundings) (config : Config)
    (signal? : Option (Signal Unsteady)) (w : World Unsteady)
    (hs : w.remote.service.Reachable store) :
    ∃ report,
      (run surroundings (Unsteady.client store) config signal? w).1 = .ok report
        ∧ Accounted config w.remote.service
          (run surroundings (Unsteady.client store) config signal? w).2.remote.service report := by
  obtain ⟨events, ⟨outcome, hworks, hreport⟩, -⟩ :=
    takes_run surroundings (Unsteady.client store) config signal? w
  have hgains := hworks.gains
  have hconcludes := hworks.concludes
  refine ⟨_, hreport, ?_, ?_, ?_, ?_⟩
  · exact fun n => hgains.eq_some_iff hs.wellFormed.active_mem
  · exact fun htidy => htidy.pendingVersion_eq hconcludes
  · exact hconcludes.version_eq_none
  · intro hpending
    obtain ⟨n, hn⟩ := Option.ne_none_iff_exists'.1 hpending
    rw [hn] at hgains
    exact hgains.active_eq

/-
A cycle whose activation fails.
-/
theorem accounted_run_of_failed_activation :
    let files := specFile "{serviceId: svc-1, endpoints: [{name: a, credential: key}]}"
    let config : Config := { serviceId := "svc-1", specPath := "spec", mode := .enforce }
    let outages : Nat → List ((Operation × Option Text) × Failure) := fun n =>
      if n = 4 then [((.activate, none), .remote "out of order")] else []
    let w : World Unsteady :=
      { remote := { service := Service.ofEndpoints "svc-1" 1 [] 1000, outages } }
    ∃ report, (run { files } (Unsteady.client .unchanged) config none w).1 = .ok report
      ∧ report.pendingVersion = some 2 := by
  intro files config outages w
  obtain ⟨report, hreport, haccounted⟩ := accounted_run .unchanged { files } config none w
    (.start "svc-1" 1 [] 1000)
  refine ⟨report, hreport, (haccounted.pending_iff 2).2 ?_⟩
  decide +kernel

end Reconcile

end Converge
