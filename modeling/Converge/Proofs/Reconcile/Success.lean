import Converge.Proofs.Reconcile.Cycle

/-!
This module contains what the success of a cycle stands for, whatever a client loses or alters. Main
statement: if the report of an enforcing cycle names no fault, then the last thing that the cycle was
told is that the version of the report holds what is desired.
-/

namespace Converge

open List

namespace Exchange

def activeVersion? : Exchange → Option Int
  | ⟨.activeVersion _, .ok active⟩ => some active
  | _ => none

def clone? : Exchange → Option Int
  | ⟨.clone _, .ok number⟩ => some number
  | _ => none

/--
That no clone was said to have the number that the active version was said to have.
-/
def Renumbers (exchanges : List Exchange) : Prop :=
  ∀ number ∈ exchanges.filterMap clone?, number ∉ exchanges.filterMap activeVersion?

instance (exchanges : List Exchange) : Decidable (Renumbers exchanges) :=
  inferInstanceAs (Decidable (∀ number ∈ exchanges.filterMap clone?, _))

end Exchange

namespace Reconcile

variable {σ : Type} {client : Client σ} {config : Config} {signal? : Option (Signal σ)}
  {files : Files} {spec : Document.Spec} {s s₁ s' : σ} {events events' : List Event}

/--
That a report is backed by the last listing of its cycle: either nothing had to change, or what was
activated before it was found to hold the desired endpoints, each of them once.
-/
structure Attested (client : Client σ) (spec : Document.Spec) (s : σ) (calls : List Request)
    (r : Report) : Prop where
  pending : r.pendingVersion = none
  listed : ∃ version observed before,
    r.version = some version
      ∧ client.exchanges s calls = before ++ [⟨.list spec.serviceId version, .ok (some observed)⟩]
      ∧ Plan.between spec.endpoints observed = .ok []
      ∧ ((r.changes = [] ∧ r.previousVersion = some version ∧ r.changesApplied = 0
          ∧ r.verified = false)
        ∨ (r.previousVersion ≠ some version ∧ ⟨.activate spec.serviceId version, .ok ()⟩ ∈ before
          ∧ (Stored.names observed).Nodup ∧ r.verified = true
          ∧ r.changesApplied = r.changes.length))

theorem Attested.of_unchanged {synced : Synced}
    (hcourse : Sync.Course client spec.serviceId spec.endpoints signal? (some config.maxChanges) s
      events (.ok synced) s')
    (hrenumbers : Exchange.Renumbers (client.exchanges s (Event.requests events)))
    (hunchanged : synced.changed = false) :
    Attested client spec s (Event.requests events) (syncedReport config synced) := by
  obtain ⟨active, clone, changes, hdisciplined⟩ := hcourse.disciplined
  obtain ⟨rfl, hcalls, rfl⟩ | ⟨hne, hcalls, rfl⟩ := hdisciplined.returned _ rfl
  · obtain ⟨observed, hlist, hbetween, -⟩ := hdisciplined.planned (.inr ⟨_, rfl⟩)
    rw [hcalls] at hlist ⊢
    obtain ⟨before, hbefore⟩ := getLast?_eq_some_iff.1 (getLast?_eq_getElem?.trans hlist)
    exact ⟨rfl, active, observed, before, rfl, hbefore, hbetween, .inl ⟨rfl, rfl, rfl, rfl⟩⟩
  · -- a clone of another number is a change
    have hactive := hdisciplined.active_answered (by simp [hcalls, Sync.script, Sync.changing])
    have hclone := hdisciplined.clone_answered (by simp [hcalls, Sync.script, Sync.changing])
    refine absurd ?_ (hrenumbers clone (mem_filterMap.2 ⟨_, mem_of_getElem? hclone, rfl⟩))
    rw [← Bool.not_eq_true, Synced.changed_iff, not_not] at hunchanged
    exact mem_filterMap.2 ⟨_, mem_of_getElem? hactive, congrArg some hunchanged.symm⟩

theorem Attested.of_checked {synced : Synced}
    (hcourse : Sync.Course client spec.serviceId spec.endpoints signal? (some config.maxChanges) s
      events (.ok synced) s₁)
    (hchanged : synced.changed = true)
    (hchecks : Verify.Checks client spec.serviceId synced.version spec.endpoints s₁ events' (.ok ())
      s') :
    Attested client spec s (Event.requests (events ++ events'))
      { syncedReport config synced with verified := true } := by
  have hperforms := hcourse.performs_ok
  obtain ⟨active, clone, changes, hdisciplined⟩ := hcourse.disciplined
  obtain ⟨rfl, hcalls, rfl⟩ | ⟨hne, hcalls, rfl⟩ := hdisciplined.returned _ rfl
  · exact absurd rfl (Synced.changed_iff.1 hchanged)
  · have hactivate : .activate spec.serviceId clone ∈ Event.requests events := by
      simp [hcalls, Sync.script, Sync.changing]
    obtain ⟨reply, hactivated⟩ := hperforms.exists_answered hactivate
    cases hchecks with
    | passed hlist hbetween hlength =>
      refine ⟨rfl, clone, _, client.exchanges s (Event.requests events), rfl, ?_, hbetween,
        .inr ⟨?_, hactivated, Plan.nodup_names_of_between hbetween hlength, rfl, rfl⟩⟩
      · rw [Event.requests_append, hperforms.exchanges_append, Event.requests_called,
          Client.exchanges_cons hlist]
        rfl
      · intro heq
        exact Synced.changed_iff.1 hchanged (Option.some.inj heq).symm

theorem Enforces.succeeded {result : Except Fault Report}
    (h : Enforces client config signal? spec s events result s')
    (hverify : config.verifyAfterApply = true)
    (hrenumbers : Exchange.Renumbers (client.exchanges s (Event.requests events)))
    (hfault : (settled (emptyReport config) result).fault? = none) :
    Attested client spec s (Event.requests events) (settled (emptyReport config) result) := by
  cases h with
  | stopped hcourse => cases eq_ok_of_succeeded hfault
  | unchecked hcourse hunchanged =>
    rw [hverify, Bool.and_true] at hunchanged
    exact .of_unchanged hcourse hrenumbers hunchanged
  | @checked _ _ _ verdict _ _ hcourse hchanged _ hchecks =>
    cases verdict with
    | error e => cases @eq_ok_of_succeeded _ (.error e) hfault
    | ok => exact .of_checked hcourse hchanged hchecks

theorem Enforces.verified {result : Except Fault Report}
    (h : Enforces client config signal? spec s events result s')
    (hverified : (settled (emptyReport config) result).verified = true) :
    config.verifyAfterApply = true ∧ (settled (emptyReport config) result).fault? = none
      ∧ Attested client spec s (Event.requests events) (settled (emptyReport config) result) := by
  cases h with
  | stopped hcourse => cases eq_ok_of_verified rfl hverified
  | unchecked hcourse hunchanged => cases hverified
  | @checked _ _ _ verdict _ _ hcourse hchanged hverify hchecks =>
    cases verdict with
    | error e => cases @eq_ok_of_verified _ (.error e) rfl hverified
    | ok => exact ⟨hverify, rfl, .of_checked hcourse hchanged hchecks⟩

theorem Works.succeeded {outcome : Except Fault Report}
    (h : Works client config signal? files s events outcome s') (hmode : config.mode = .enforce)
    (hverify : config.verifyAfterApply = true)
    (hrenumbers : Exchange.Renumbers (client.exchanges s (Event.requests events)))
    (hfault : (settled (emptyReport config) outcome).fault? = none) :
    ∃ spec, Targets files config spec
      ∧ Attested client spec s (Event.requests events) (settled (emptyReport config) outcome) := by
  cases h with
  | untargeted htarget => cases eq_ok_of_succeeded hfault
  | observed htarget hmode' hplans => cases hmode.symm.trans hmode'
  | enforced htarget hmode' henforces =>
    exact ⟨_, htarget, henforces.succeeded hverify hrenumbers hfault⟩

theorem Works.verified {outcome : Except Fault Report}
    (h : Works client config signal? files s events outcome s')
    (hverified : (settled (emptyReport config) outcome).verified = true) :
    config.mode = .enforce ∧ config.verifyAfterApply = true
      ∧ (settled (emptyReport config) outcome).fault? = none
      ∧ ∃ spec, Targets files config spec
        ∧ Attested client spec s (Event.requests events) (settled (emptyReport config) outcome) := by
  cases h with
  | untargeted htarget => cases eq_ok_of_verified rfl hverified
  | @observed _ _ found _ htarget hmode hplans =>
    cases found with
    | error e => cases @eq_ok_of_verified _ (.error e) rfl hverified
    | ok drift => cases hverified
  | enforced htarget hmode henforces =>
    obtain ⟨hverify, hfault, hattested⟩ := henforces.verified hverified
    exact ⟨hmode, hverify, hfault, _, htarget, hattested⟩

/--
If an enforcing cycle that verifies what it did reports no fault, then its last listing shows that
the version of the report holds the desired endpoints; and only such a cycle reports that something
was verified. The client may do anything but give a clone the number of the active version.
-/
theorem attested_run (surroundings : Surroundings) (client : Client σ) (config : Config)
    (signal? : Option (Signal σ)) (w : World σ) :
    ∃ report calls,
      (run surroundings client config signal? w).1 = .ok report
        ∧ (run surroundings client config signal? w).2.calls = w.calls ++ calls
        ∧ (config.mode = .enforce → config.verifyAfterApply = true →
          Exchange.Renumbers (client.exchanges w.remote calls) → report.fault? = none →
          ∃ spec, Targets surroundings.files config spec
            ∧ Attested client spec w.remote calls report)
        ∧ (report.verified = true →
          config.mode = .enforce ∧ config.verifyAfterApply = true ∧ report.fault? = none
            ∧ ∃ spec, Targets surroundings.files config spec
              ∧ Attested client spec w.remote calls report) := by
  obtain ⟨events, ⟨outcome, hworks, hreport⟩, htrace⟩ :=
    takes_run surroundings client config signal? w
  refine ⟨_, Event.requests events, hreport, ?_, ?_, hworks.verified⟩
  · rw [World.calls_eq_requests, World.calls_eq_requests, htrace, Event.requests_append]
  · exact hworks.succeeded

/-
A cycle that replaces the only endpoint of a service.
-/
theorem attested_run_of_replacement :
    let octets := "{serviceId: svc-1, endpoints: [{name: b, credential: key}]}".toList.map
      fun c => UInt8.ofNat c.toNat
    let files : Files := { entries := [({ base := .working, names := ["spec"] }, .file octets)] }
    let config : Config := { serviceId := "svc-1", specPath := "spec", mode := .enforce }
    let old : Stored := { serviceId := "svc-1", version := 1, name := "a", credential := "key" }
    let w : World Service := { remote := Service.ofEndpoints "svc-1" 1 [old] 1000 }
    ∃ report calls spec,
      (run { files } (Service.client .unchanged) config none w).1 = .ok report
        ∧ report.version = some 2
        ∧ Attested (Service.client .unchanged) spec w.remote calls report := by
  intro octets files config old w
  obtain ⟨report, calls, hreport, hcalls, hsuccess, -⟩ :=
    attested_run { files } (Service.client .unchanged) config none w
  let new : Declared := { name := "b", credential := "key" }
  have hmade : (run { files } (Service.client .unchanged) config none w).2.calls = [
      .activeVersion "svc-1", .list "svc-1" 1, .clone "svc-1", .delete "svc-1" 2 "a",
      .create "svc-1" 2 new.filled, .activate "svc-1" 2, .list "svc-1" 2] := by
    decide +kernel
  have hfound : ((run { files } (Service.client .unchanged) config none w).1.map
      fun r => (r.fault?, r.version)) = .ok (none, some 2) := by
    decide +kernel
  rw [hreport] at hfound
  obtain ⟨hfault, hversion⟩ := Prod.mk.inj (Except.ok.inj hfound)
  obtain rfl : calls = _ := hcalls.symm.trans hmade
  obtain ⟨spec, -, hattested⟩ := hsuccess rfl rfl (by decide +kernel) hfault
  exact ⟨report, _, spec, hreport, hversion, hattested⟩

end Reconcile

end Converge
