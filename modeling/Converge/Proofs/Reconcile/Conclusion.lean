import Converge.Proofs.Document.Load
import Converge.Proofs.Reconcile.Cycle

/-!
This module contains what the report of a cycle says, depending on the plan that the cycle found and
on whether it activated a version. Main statement: with any client, every cycle concludes in one of
seven ways.
-/

namespace Converge

open List

namespace Event

def isActivation : Event → Bool
  | .called (.activate ..) succeeded => succeeded
  | _ => false

def activated (events : List Event) : Bool :=
  events.any isActivation

@[simp]
theorem activated_nil : activated [] = false := rfl

@[simp]
theorem activated_cons (event : Event) (events : List Event) :
    activated (event :: events) = (event.isActivation || activated events) := rfl

@[simp]
theorem activated_append (events events' : List Event) :
    activated (events ++ events') = (activated events || activated events') :=
  any_append

theorem isActivation_change (serviceId : Text) (version : Int) (c : Change) (succeeded : Bool) :
    isActivation (.called (c.request serviceId version) succeeded) = false := by
  cases c <;> rfl

end Event

theorem Polled.activated_eq {σ : Type} {signal? : Option (Signal σ)} {n : Nat} {answer : Bool}
    {events : List Event} (h : Polled signal? n answer events) :
    Event.activated events = false := by
  cases h <;> rfl

theorem Operation.label_inj {o o' : Operation} : o.label = o'.label ↔ o = o' := by
  have hall : ∀ o ∈ Operation.all, ∀ o' ∈ Operation.all, o.label = o'.label → o = o' := by
    decide +kernel
  have hmem (o : Operation) : o ∈ Operation.all := by
    cases o <;> decide
  constructor
  · exact hall o (hmem o) o' (hmem o')
  · exact congrArg Operation.label

namespace Fault

/--
The clone that is left behind by a convergence that stops with a fault.
-/
def pending? : Fault → Option Int
  | .callFailed call _ => if Reconcile.leavesClone call then call.version? else none
  | .cancelled version? _ => version?
  | _ => none

def pendingOf? {α : Type} : Except Fault α → Option Int
  | .ok _ => none
  | .error e => e.pending?

end Fault

namespace Sync

variable {σ : Type} {client : Client σ} {signal? : Option (Signal σ)} {serviceId : Text}
  {desired : List Declared} {s s' : σ} {events : List Event}

theorem Applies.activated_eq {version : Int} {applied : Nat} {changes : List Change}
    {result : Except Fault Version}
    (h : Applies client signal? serviceId version applied changes s events result s') :
    Event.activated events = false := by
  induction h with
  | finished => rfl
  | cancelled hpolled => exact hpolled.activated_eq
  | failed hpolled hcall => simp [hpolled.activated_eq, Event.isActivation_change]
  | applied hpolled hcall hrest ih => simp [hpolled.activated_eq, Event.isActivation_change, ih]

theorem Applies.error_cases {version : Int} {applied : Nat} {changes : List Change} {e : Fault}
    (h : Applies client signal? serviceId version applied changes s events (.error e) s') :
    (∃ (c : Change) (f : Failure), e = .callFailed (c.request serviceId version).site (some f))
      ∨ ∃ k : Nat, e = .cancelled (some version) k := by
  generalize hresult : (Except.error e : Except Fault Version) = result at h
  induction h with
  | finished => cases hresult
  | @cancelled applied =>
    cases hresult
    exact .inr ⟨applied, rfl⟩
  | @failed applied c _ _ _ _ f =>
    cases hresult
    exact .inl ⟨c, f, rfl⟩
  | applied hpolled hcall hrest ih => exact ih hresult

theorem Plans.activated_eq {result : Except Fault Drift}
    (h : Plans client serviceId desired s events result s') : Event.activated events = false := by
  cases h <;> rfl

end Sync

theorem Verify.Checks.activated_eq {σ : Type} {client : Client σ} {serviceId : Text} {version : Int}
    {desired : List Declared} {s s' : σ} {events : List Event} {verdict : Except Fault Unit}
    (h : Checks client serviceId version desired s events verdict s') :
    Event.activated events = false := by
  cases h <;> rfl

namespace Reconcile

variable {σ : Type} {client : Client σ} {config : Config} {signal? : Option (Signal σ)}
  {files : Files} {spec : Document.Spec} {s s' : σ} {events : List Event}

theorem leavesClone_site {r : Request} :
    leavesClone r.site = true ↔ r.operation ∈ [Operation.delete, .create, .update, .activate] := by
  unfold leavesClone Request.site
  simp only [any_eq_true, decide_eq_true_iff, Operation.label_inj, exists_eq_right]

theorem pending?_site {r : Request} (cause? : Option Failure)
    (h : r.operation ∈ [Operation.delete, .create, .update, .activate]) :
    (Fault.callFailed r.site cause?).pending? = r.version? :=
  if_pos (leavesClone_site.2 h)

theorem withFault_callFailed (r : Report) (hr : r.pendingVersion = none) (call : CallSite)
    (cause? : Option Failure) :
    withFault r (.callFailed call cause?) = { r with
      fault? := some (.callFailed call cause?)
      pendingVersion := (Fault.callFailed call cause?).pending? } := by
  unfold withFault Fault.pending?
  dsimp only
  split
  · rfl
  · rw [← hr]

theorem pendingVersion_withFault {r : Report} (hr : r.pendingVersion = none) (e : Fault) :
    (withFault r e).pendingVersion = e.pending? := by
  cases e with
  | callFailed call cause? => rw [withFault_callFailed r hr]
  | cancelled version? applied => rfl
  | _ => exact hr

/--
The faults that say nothing of a clone: those that stop a cycle before it has one or after it has
activated it.
-/
inductive Incidental : Fault → Prop
  | load (fault : LoadFault) : Incidental (.load fault)
  | setting (fault : SettingFault) : Incidental (.setting fault)
  | refused {e : Fault} : Plan.Refusal e → Incidental e
  | foreign (f : Foreign) : Incidental (.foreign f)
  | called {r : Request} (cause? : Option Failure) :
    r.operation ∈ [Operation.activeVersion, .list, .clone] → Incidental (.callFailed r.site cause?)
  | notConverged (version : Int) (pending : List Change) (tally : Tally) :
    Incidental (.notConverged version pending tally)

theorem Incidental.withFault_eq {e : Fault} (h : Incidental e) (r : Report) :
    withFault r e = { r with fault? := some e } := by
  cases h with
  | load fault => rfl
  | setting fault => rfl
  | refused h => cases h <;> rfl
  | foreign f => rfl
  | @called request cause? hoperation =>
    have hnot : ¬leavesClone request.site = true := by
      rw [leavesClone_site]
      revert hoperation
      cases request.operation <;> decide
    unfold withFault
    exact if_neg hnot
  | notConverged version pending tally => rfl

theorem Incidental.pending?_eq {e : Fault} (h : Incidental e) : e.pending? = none := by
  have hpending := pendingVersion_withFault (r := { serviceId := .empty, mode := .observe }) rfl e
  rw [h.withFault_eq] at hpending
  exact hpending.symm

theorem incidental_of_target {e : Fault} (h : target files config = .error e) : Incidental e := by
  unfold target at h
  split at h
  · next hload =>
    cases h
    cases Document.refusal_of_loadSpec hload with
    | load fault => exact .load fault
    | foreign f => exact .foreign f
  · split at h
    · cases h
    · cases h
      exact .setting _

theorem incidental_of_ofListing {desired : List Declared} {listing : Option (List Stored)}
    {e : Fault} (h : Plan.ofListing desired listing = .error e) : Incidental e := by
  obtain hrefusal | rfl := Plan.refusal_of_ofListing h
  · exact .refused hrefusal
  · exact .foreign _

theorem incidental_of_plans {serviceId : Text} {desired : List Declared} {e : Fault}
    (h : Sync.Plans client serviceId desired s events (.error e) s') : Incidental e := by
  cases h with
  | activeVersionFailed hactive => exact .called _ (by simp [Request.operation])
  | listFailed hactive hlist => exact .called _ (by simp [Request.operation])
  | unplannable hactive hlist hlisting => exact incidental_of_ofListing hlisting

theorem incidental_of_checks {serviceId : Text} {version : Int} {desired : List Declared}
    {e : Fault} (h : Verify.Checks client serviceId version desired s events (.error e) s') :
    Incidental e := by
  cases h with
  | unindexed hindex => exact .refused (Plan.refusal_of_index_go hindex)
  | listFailed hlist => exact .called _ (by simp [Request.operation])
  | unplannable hlist hlisting => exact incidental_of_ofListing hlisting
  | miscounted hlist hchanges hlength => exact .notConverged _ _ _
  | unconverged hlist hchanges hlength hne => exact .notConverged _ _ _

/--
The plan of a cycle that begins with the remote service in the given state, if it finds one.
-/
def planned? (client : Client σ) (files : Files) (config : Config) (s : σ) : Option Drift :=
  match target files config with
  | .error _ => none
  | .ok spec => (Sync.plan client spec.serviceId spec.endpoints { remote := s }).1.toOption

/--
The changes of the plan of a cycle. There are none if nothing is planned.
-/
def plannedChanges (client : Client σ) (files : Files) (config : Config) (s : σ) : List Change :=
  ((planned? client files config s).map Drift.changes).getD []

theorem plan_of_plans {serviceId : Text} {desired : List Declared} {found : Except Fault Drift}
    (h : Sync.Plans client serviceId desired s events found s') :
    (Sync.plan client serviceId desired { remote := s }).1 = found := by
  obtain ⟨events', hplans, -⟩ := Sync.takes_plan client serviceId desired { remote := s }
  exact (hplans.unique h).2.1

theorem planned?_of_error {e : Fault} (h : target files config = .error e) (s : σ) :
    planned? client files config s = none := by
  unfold planned?
  rw [h]

theorem planned?_of_plans {found : Except Fault Drift} (htargets : Targets files config spec)
    (h : Sync.Plans client spec.serviceId spec.endpoints s events found s') :
    planned? client files config s = found.toOption := by
  unfold planned?
  rw [target_eq_ok_iff.2 htargets]
  dsimp only
  rw [plan_of_plans h]

/--
What the report of a cycle says, by the plan that the cycle found and by whether it activated a
version.
-/
inductive Concludes (config : Config) : Option Drift → Bool → Report → Prop
  | unplanned {e : Fault} :
    Incidental e → Concludes config none false { emptyReport config with fault? := some e }
  | observed {drift : Drift} :
    config.mode = .observe → Concludes config (some drift) false (observedReport config drift)
  | exceeded {drift : Drift} :
    config.mode = .enforce → config.maxChanges < drift.changes.length →
    Concludes config (some drift) false { emptyReport config with
      fault? := some (.limitExceeded drift.changes.length config.maxChanges)
      changesBlocked := drift.changes.length }
  | converged {drift : Drift} {synced : Synced} :
    config.mode = .enforce → drift.changes = [] → synced.changes = [] →
    Concludes config (some drift) false (syncedReport config synced)
  | failed {drift : Drift} {call : CallSite} {cause? : Option Failure} :
    config.mode = .enforce → drift.changes ≠ [] →
    Concludes config (some drift) false { emptyReport config with
      fault? := some (.callFailed call cause?)
      pendingVersion := (Fault.callFailed call cause?).pending? }
  | cancelled {drift : Drift} {version? : Option Int} {applied : Nat} :
    config.mode = .enforce → drift.changes ≠ [] →
    Concludes config (some drift) false { emptyReport config with
      fault? := some (.cancelled version? applied)
      pendingVersion := version?
      changesApplied := applied }
  -- what is activated may still turn out not to be what was desired
  | activated {drift : Drift} {synced : Synced} (verified : Bool) (fault? : Option Fault) :
    config.mode = .enforce → drift.changes ≠ [] → synced.activated = true →
    synced.changes = drift.changes → (∀ e, fault? = some e → Incidental e) →
    Concludes config (some drift) true { syncedReport config synced with verified, fault? }

theorem Concludes.of_stopped {drift : Drift} {e : Fault} (hmode : config.mode = .enforce)
    (hne : drift.changes ≠ [])
    (he : (∃ call cause?, e = .callFailed call cause?)
      ∨ ∃ version? applied, e = .cancelled version? (applied : Nat)) :
    Concludes config (some drift) false (withFault (emptyReport config) e) := by
  obtain ⟨call, cause?, rfl⟩ | ⟨version?, applied, rfl⟩ := he
  · rw [withFault_callFailed _ rfl]
    exact .failed hmode hne
  · exact .cancelled hmode hne

theorem Concludes.of_carries_error {drift : Drift} {e : Fault} (hmode : config.mode = .enforce)
    (hne : drift.changes ≠ [])
    (h : Sync.Carries client signal? drift s events (.error e) s') :
    Event.activated events = false
      ∧ Concludes config (some drift) false (withFault (emptyReport config) e) := by
  cases h with
  | cancelled hpolled => exact ⟨hpolled.activated_eq, .of_stopped hmode hne (.inr ⟨none, 0, rfl⟩)⟩
  | cloneFailed hpolled hclone =>
    exact ⟨by simp [hpolled.activated_eq, Event.isActivation],
      .of_stopped hmode hne (.inl ⟨_, _, rfl⟩)⟩
  | stopped hpolled hclone happlies =>
    refine ⟨by simp [hpolled.activated_eq, happlies.activated_eq, Event.isActivation], ?_⟩
    obtain ⟨c, f, rfl⟩ | ⟨k, rfl⟩ := happlies.error_cases
    · exact .of_stopped hmode hne (.inl ⟨_, _, rfl⟩)
    · exact .of_stopped hmode hne (.inr ⟨_, _, rfl⟩)
  | cancelledLast hpolled hclone happlies hpolled' =>
    exact ⟨by simp [hpolled.activated_eq, happlies.activated_eq, hpolled'.activated_eq,
      Event.isActivation], .of_stopped hmode hne (.inr ⟨_, _, rfl⟩)⟩
  | activateFailed hpolled hclone happlies hpolled' hactivate =>
    exact ⟨by simp [hpolled.activated_eq, happlies.activated_eq, hpolled'.activated_eq,
      Event.isActivation], .of_stopped hmode hne (.inl ⟨_, _, rfl⟩)⟩

theorem activated_of_carries_ok {drift : Drift} {synced : Synced}
    (h : Sync.Carries client signal? drift s events (.ok synced) s') :
    Event.activated events = true ∧ synced.activated = true ∧ synced.changes = drift.changes := by
  cases h with
  | activated hpolled hclone happlies hpolled' hactivate =>
    exact ⟨by simp [Event.isActivation], rfl, rfl⟩

theorem Enforces.concludes {result : Except Fault Report} (htargets : Targets files config spec)
    (hmode : config.mode = .enforce)
    (h : Enforces client config signal? spec s events result s') :
    Concludes config (planned? client files config s) (Event.activated events)
      (settled (emptyReport config) result) := by
  cases h with
  | stopped hcourse =>
    cases hcourse with
    | unplanned hplans =>
      have hincidental := incidental_of_plans hplans
      rw [planned?_of_plans htargets hplans, hplans.activated_eq, settled,
        hincidental.withFault_eq]
      exact .unplanned hincidental
    | limitExceeded hplans hlimit hlt =>
      cases hlimit
      rw [planned?_of_plans htargets hplans, hplans.activated_eq]
      exact .exceeded hmode hlt
    | carried hplans hlimit hne hcarries =>
      obtain ⟨hactivated, hconcludes⟩ := Concludes.of_carries_error hmode hne hcarries
      rw [planned?_of_plans htargets hplans, Event.activated_append, hplans.activated_eq,
        hactivated]
      exact hconcludes
  | unchecked hcourse hunchanged =>
    cases hcourse with
    | converged hplans hlimit hempty =>
      rw [planned?_of_plans htargets hplans, hplans.activated_eq]
      exact .converged hmode hempty rfl
    | carried hplans hlimit hne hcarries =>
      obtain ⟨hactivated, hsynced, hchanges⟩ := activated_of_carries_ok hcarries
      rw [planned?_of_plans htargets hplans, Event.activated_append, hactivated, Bool.or_true]
      apply Concludes.activated false none hmode hne hsynced hchanges
      intro e he
      cases he
  | @checked _ _ _ verdict _ _ hcourse hchanged hverify hchecks =>
    cases hcourse with
    | converged hplans hlimit hempty => exact absurd rfl (Synced.changed_iff.1 hchanged)
    | carried hplans hlimit hne hcarries =>
      obtain ⟨hactivated, hsynced, hchanges⟩ := activated_of_carries_ok hcarries
      rw [planned?_of_plans htargets hplans, Event.activated_append, Event.activated_append,
        hactivated, Bool.or_true, Bool.true_or]
      cases verdict with
      | ok =>
        apply Concludes.activated true none hmode hne hsynced hchanges
        intro e he
        cases he
      | error e =>
        have hincidental := incidental_of_checks hchecks
        change Concludes _ _ _ (withFault (syncedReport config _) e)
        rw [hincidental.withFault_eq]
        apply Concludes.activated false (some e) hmode hne hsynced hchanges
        intro e' he
        cases he
        exact hincidental

theorem Works.concludes {outcome : Except Fault Report}
    (h : Works client config signal? files s events outcome s') :
    Concludes config (planned? client files config s) (Event.activated events)
      (settled (emptyReport config) outcome) := by
  cases h with
  | untargeted htarget =>
    have hincidental := incidental_of_target htarget
    rw [planned?_of_error htarget, settled, hincidental.withFault_eq]
    exact .unplanned hincidental
  | @observed spec _ found _ htargets hmode hplans =>
    rw [planned?_of_plans htargets hplans, hplans.activated_eq]
    cases found with
    | error e =>
      have hincidental := incidental_of_plans hplans
      change Concludes _ _ _ (withFault (emptyReport config) e)
      rw [hincidental.withFault_eq]
      exact .unplanned hincidental
    | ok drift => exact .observed hmode
  | enforced htargets hmode henforces => exact henforces.concludes htargets hmode

/--
With any client, every cycle ends with a report that concludes it.
-/
theorem concludes_of_run (surroundings : Surroundings) (client : Client σ) (config : Config)
    (signal? : Option (Signal σ)) (w : World σ) :
    ∃ report events,
      (run surroundings client config signal? w).1 = .ok report
        ∧ (run surroundings client config signal? w).2.trace = w.trace ++ events
        ∧ Concludes config (planned? client surroundings.files config w.remote)
          (Event.activated events) report := by
  obtain ⟨events, ⟨outcome, hworks, hreport⟩, htrace⟩ :=
    takes_run surroundings client config signal? w
  exact ⟨_, events, hreport, htrace, hworks.concludes⟩

end Reconcile

end Converge
