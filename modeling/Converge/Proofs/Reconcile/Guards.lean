import Converge.Proofs.Reconcile.Conclusion

/-!
This module contains what a cycle may do at most. Main statement: a cycle that has no right or no
reason to change something makes no call but the two that read, and any other one clones and
activates at most once and makes no more changes than its configuration admits.
-/

namespace Converge

open List

namespace Fault

def blocked : Fault → Int
  | .limitExceeded count _ => count
  | _ => 0

end Fault

namespace Sync

variable {σ : Type} {client : Client σ} {signal? : Option (Signal σ)} {s s' : σ}
  {events : List Event} {e : Fault}

theorem Stops.blocked_eq_zero {calls : List Request} {failure? : Option Failure}
    (h : Stops calls failure? e) : e.blocked = 0 := by
  cases h <;> rfl

theorem Carries.blocked_eq_zero {drift : Drift}
    (h : Carries client signal? drift s events (.error e) s') : e.blocked = 0 := by
  obtain ⟨clone, failure?, hcarried⟩ := h.carried
  obtain ⟨e', hresult, hstops, -⟩ | ⟨-, -, hresult⟩ := hcarried.ended
  · cases hresult
    exact hstops.blocked_eq_zero
  · cases hresult

end Sync

namespace Reconcile

variable {σ : Type} {client : Client σ} {config : Config} {signal? : Option (Signal σ)}
  {files : Files} {spec : Document.Spec} {s s₁ s' : σ} {events events₁ : List Event}

theorem Incidental.blocked_eq_zero {e : Fault} (h : Incidental e) : e.blocked = 0 := by
  cases h with
  | refused h => cases h <;> rfl
  | _ => rfl

theorem changesBlocked_withFault {r : Report} (hr : r.changesBlocked = 0) (e : Fault) :
    (withFault r e).changesBlocked = e.blocked := by
  cases e with
  | limitExceeded count limit => rfl
  | callFailed call cause? =>
    unfold withFault
    dsimp only
    split <;> exact hr
  | _ => exact hr

theorem changesBlocked_checked {r r' : Report} (hr : r.changesBlocked = 0)
    (hr' : r'.changesBlocked = 0) {serviceId : Text} {version : Int} {desired : List Declared}
    {verdict : Except Fault Unit}
    (h : Verify.Checks client serviceId version desired s events verdict s') :
    (settled r (verdict.map fun () => r')).changesBlocked = 0 := by
  cases verdict with
  | error e => exact (changesBlocked_withFault hr e).trans (incidental_of_checks h).blocked_eq_zero
  | ok => exact hr'

/--
What an enforcing cycle has called and what its report says to be blocked, if planning comes to
`found`.
-/
inductive Confined (limit : Int) (serviceId : Text) (calls : List Request) :
    Except Fault Drift → Int → Prop
  | unplanned {e : Fault} {active : Int} :
    calls <+: Sync.reads serviceId active → Confined limit serviceId calls (.error e) 0
  | exceeded {drift : Drift} {active : Int} :
    limit < drift.changes.length → calls <+: Sync.reads serviceId active →
    Confined limit serviceId calls (.ok drift) drift.changes.length
  | converged {drift : Drift} {active : Int} :
    drift.changes.length ≤ limit → drift.changes = [] → calls <+: Sync.reads serviceId active →
    Confined limit serviceId calls (.ok drift) 0
  | carried {drift : Drift} {clone : Int} :
    drift.changes.length ≤ limit → drift.changes ≠ [] →
    calls <+: Sync.script serviceId drift.version clone drift.changes ++ [.list serviceId clone] →
    Confined limit serviceId calls (.ok drift) 0

theorem Confined.of_changing {limit : Int} {drift : Drift} {clone : Int} {calls : List Request}
    (hlimit : drift.changes.length ≤ limit) (hne : drift.changes ≠ [])
    (h : calls <+: Sync.changing drift.serviceId clone drift.changes
      ++ [.list drift.serviceId clone]) :
    Confined limit drift.serviceId (Sync.reads drift.serviceId drift.version ++ calls) (.ok drift)
      0 :=
  .carried hlimit hne ((prefix_append_right_inj _).2 h)

theorem Enforces.confined {found : Except Fault Drift} {result : Except Fault Report}
    (hplans : Sync.Plans client spec.serviceId spec.endpoints s events₁ found s₁)
    (h : Enforces client config signal? spec s events result s') :
    Confined config.maxChanges spec.serviceId (Event.requests events) found
      (settled (emptyReport config) result).changesBlocked := by
  obtain ⟨active, hreads⟩ := hplans.reads_of
  cases found with
  | error e =>
    cases h with
    | stopped hcourse =>
      obtain ⟨rfl, hresult⟩ := hcourse.of_unplanned hplans
      cases hresult
      rw [settled, changesBlocked_withFault rfl, (incidental_of_plans hplans).blocked_eq_zero]
      exact .unplanned hreads
    | unchecked hcourse hunchanged => cases (hcourse.of_unplanned hplans).2
    | checked hcourse hchanged hverify hchecks => cases (hcourse.of_unplanned hplans).2
  | ok drift =>
    have hplanned := hplans.requests_eq
    have hservice := hplans.sendable.1
    cases h with
    | stopped hcourse =>
      obtain ⟨events', rfl, hfollows⟩ := hcourse.follows hplans
      rw [settled, changesBlocked_withFault rfl]
      cases hfollows with
      | limitExceeded hlimit hlt =>
        cases hlimit
        rw [append_nil]
        exact .exceeded hlt hreads
      | carried hlimit hne hcarries =>
        obtain ⟨clone, failure?, hcarried⟩ := hcarries.carried
        rw [hcarries.blocked_eq_zero, Event.requests_append, hplanned, ← hservice]
        exact .of_changing (hlimit _ rfl) hne (hcarried.follows.trans (prefix_append _ _))
    | unchecked hcourse hunchanged =>
      obtain ⟨events', rfl, hfollows⟩ := hcourse.follows hplans
      cases hfollows with
      | converged hlimit hempty =>
        rw [append_nil]
        exact .converged (hlimit _ rfl) hempty hreads
      | carried hlimit hne hcarries =>
        obtain ⟨clone, failure?, hcarried⟩ := hcarries.carried
        rw [Event.requests_append, hplanned, ← hservice]
        exact .of_changing (hlimit _ rfl) hne (hcarried.follows.trans (prefix_append _ _))
    | checked hcourse hchanged hverify hchecks =>
      obtain ⟨events', rfl, hfollows⟩ := hcourse.follows hplans
      rw [settled, changesBlocked_checked rfl rfl hchecks]
      cases hfollows with
      | converged hlimit hempty => exact absurd rfl (Synced.changed_iff.1 hchanged)
      | carried hlimit hne hcarries =>
        obtain ⟨clone, failure?, hcarried⟩ := hcarries.carried
        have hchecked := hchecks.requests_prefix
        obtain ⟨e, hresult, -⟩ | ⟨-, hall, hresult⟩ := hcarried.ended
        · cases hresult
        · cases hresult
          rw [← hservice] at hchecked
          rw [Event.requests_append, Event.requests_append, hplanned, hall, append_assoc, ← hservice]
          exact .of_changing (hlimit _ rfl) hne ((prefix_append_right_inj _).2 hchecked)

/--
That so many calls are made at most as one convergence of that many changes needs.
-/
structure Bounded (limit : Int) (calls : List Request) : Prop where
  clones : calls.countP (·.operation = .clone) ≤ 1
  activations : calls.countP (·.operation = .activate) ≤ 1
  changes : (calls.countP Request.isChange : Int) ≤ limit

theorem Bounded.of_sublist {limit : Int} {calls calls' : List Request} (h : Bounded limit calls)
    (hsublist : calls' <+ calls) : Bounded limit calls' where
  clones := Nat.le_trans hsublist.countP_le h.clones
  activations := Nat.le_trans hsublist.countP_le h.activations
  changes := Int.le_trans (Int.ofNat_le.2 hsublist.countP_le) h.changes

theorem countP_script (p : Request → Bool) (serviceId : Text) (active clone : Int)
    (changes : List Change) :
    (Sync.script serviceId active clone changes ++ [Request.list serviceId clone]).countP p
      = (changes.map (·.request serviceId clone)).countP p
        + [.activeVersion serviceId, .list serviceId active, .clone serviceId,
          .activate serviceId clone, .list serviceId clone].countP p := by
  simp only [Sync.script, Sync.changing, countP_cons, countP_append, countP_nil, cons_append]
  omega

theorem Bounded.of_script {limit : Int} {changes : List Change} (h : changes.length ≤ limit)
    (serviceId : Text) (active clone : Int) :
    Bounded limit (Sync.script serviceId active clone changes ++ [.list serviceId clone]) := by
  have hothers {o : Operation} (ho : o = .clone ∨ o = .activate) :
      (changes.map (·.request serviceId clone)).countP (·.operation = o) = 0 := by
    rw [countP_eq_zero, forall_mem_map]
    intro c _
    obtain rfl | rfl := ho <;> cases c <;> simp [Change.request, Request.operation]
  have hchanges : (changes.map (·.request serviceId clone)).countP Request.isChange
      = changes.length := by
    rw [countP_map, countP_eq_length]
    exact fun c _ => Change.isChange_request serviceId clone c
  constructor
  · rw [countP_script, hothers (.inl rfl)]
    exact Nat.le_refl 1
  · rw [countP_script, hothers (.inr rfl)]
    exact Nat.le_refl 1
  · rw [countP_script, hchanges]
    exact h

/--
What keeps a cycle from changing anything.
-/
inductive Barred (client : Client σ) (config : Config) (spec : Document.Spec) (w : World σ) : Prop
  | observing : config.mode = .observe → Barred client config spec w
  | duplicate : ¬(spec.endpoints.map Declared.name).Nodup → Barred client config spec w
  | invalid {d : Declared} : d ∈ spec.endpoints → d.check ≠ .ok () → Barred client config spec w
  -- what is to be compared with a desired endpoint cannot be read as one
  | unreadable {active : Int} {observed : List Stored} {s₁ s₂ : σ} {d : Declared} {r : Stored} :
    client (.activeVersion spec.serviceId) w.remote = (.ok active, s₁) →
    client (.list spec.serviceId active) s₁ = (.ok (some observed), s₂) →
    d ∈ spec.endpoints → r ∈ Plan.latest observed → d.name = r.name →
    (∀ e, r.project ≠ .ok e) → Barred client config spec w
  | converged {drift : Drift} :
    (Sync.plan client spec.serviceId spec.endpoints w).1 = .ok drift → drift.changes = [] →
    Barred client config spec w
  | exceeded {drift : Drift} :
    (Sync.plan client spec.serviceId spec.endpoints w).1 = .ok drift →
    config.maxChanges < drift.changes.length → Barred client config spec w

/--
That the plan of an enforcing cycle has `count` changes, and that these are too many.
-/
def Exceeds (client : Client σ) (files : Files) (config : Config) (w : World σ) (count : Nat) :
    Prop :=
  config.mode = .enforce ∧ config.maxChanges < count
    ∧ ∃ spec drift, Targets files config spec
      ∧ (Sync.plan client spec.serviceId spec.endpoints w).1 = .ok drift
      ∧ drift.changes.length = count

/--
What guards the service against a cycle that makes the given calls.
-/
structure Guarded (client : Client σ) (files : Files) (config : Config) (w : World σ)
    (calls : List Request) (r : Report) : Prop where
  untargeted : (∀ spec, ¬Targets files config spec) → calls = []
  barred : ∀ spec, Targets files config spec → Barred client config spec w →
    ∃ active, calls <+: Sync.reads spec.serviceId active
  bounded : Bounded config.maxChanges calls
  limit : 1 ≤ config.maxChanges ∧ config.maxChanges ≤ 1000
  blocked : ∀ count, Exceeds client files config w count → r.changesBlocked = count
  unblocked : (∀ count, ¬Exceeds client files config w count) → r.changesBlocked = 0

theorem limit_of_validate {c : Config} (h : config.validate files = .ok c) :
    1 ≤ config.maxChanges ∧ config.maxChanges ≤ 1000 := by
  unfold Config.validate at h
  split at h
  · next hnone =>
    have hlimit := (append_eq_nil_iff.1 hnone).2
    unfold Config.limitFaults at hlimit
    split at hlimit
    · next hbounds =>
      rw [Bool.and_eq_true, decide_eq_true_iff, decide_eq_true_iff] at hbounds
      exact hbounds
    · cases hlimit
  · cases h

theorem Barred.of_planned {w : World σ} (h : Barred client config spec w)
    (hmode : config.mode = .enforce) {drift : Drift}
    (hplan : (Sync.plan client spec.serviceId spec.endpoints w).1 = .ok drift) :
    drift.changes = [] ∨ config.maxChanges < drift.changes.length := by
  obtain ⟨events, hplans, -⟩ := Sync.takes_plan client spec.serviceId spec.endpoints w
  rw [hplan] at hplans
  generalize (Sync.plan client spec.serviceId spec.endpoints w).2.remote = s' at hplans
  cases hplans with
  | planned hactive hlist hlisting =>
    obtain ⟨observed, rfl, hbetween⟩ := Plan.exists_of_ofListing hlisting
    obtain ⟨wanted, hindex, -⟩ := Plan.between_eq_ok_iff.1 hbetween
    obtain ⟨-, hvalid, hnodup⟩ := Plan.index_eq_ok_iff.1 hindex
    cases h with
    | observing hmode' => cases hmode.symm.trans hmode'
    | duplicate hduplicate => exact absurd hnodup hduplicate
    | invalid hd hinvalid => exact absurd (hvalid _ hd) hinvalid
    | unreadable hactive' hlist' hd hr hname hproject =>
      cases hactive.symm.trans hactive'
      cases hlist.symm.trans hlist'
      obtain ⟨e, he⟩ := Plan.exists_project_of_between hbetween hd hr hname
      exact absurd he (hproject e)
    | converged hplan' hempty =>
      cases hplan.symm.trans hplan'
      exact .inl hempty
    | exceeded hplan' hexceeded =>
      cases hplan.symm.trans hplan'
      exact .inr hexceeded

theorem Confined.reads {limit : Int} {serviceId : Text} {calls : List Request}
    {found : Except Fault Drift} {blocked : Int} (h : Confined limit serviceId calls found blocked)
    (hfound : ∀ drift, found = .ok drift →
      drift.changes = [] ∨ limit < drift.changes.length) :
    ∃ active, calls <+: Sync.reads serviceId active := by
  cases h with
  | unplanned hreads => exact ⟨_, hreads⟩
  | exceeded hlt hcalls => exact ⟨_, hcalls⟩
  | converged hlimit hempty hcalls => exact ⟨_, hcalls⟩
  | carried hlimit hne hcalls =>
    obtain hempty | hlt := hfound _ rfl
    · exact absurd hempty hne
    · exact absurd hlt (Int.not_lt.2 hlimit)

theorem Bounded.of_reads {limit : Int} (h : 0 ≤ limit) {serviceId : Text} {active : Int}
    {calls : List Request} (hreads : calls <+: Sync.reads serviceId active) :
    Bounded limit calls := by
  have hscript : calls <+: Sync.script serviceId active 0 [] ++ [.list serviceId 0] :=
    (hreads.trans (Sync.reads_follow_script serviceId active 0 [])).trans (prefix_append _ _)
  exact (Bounded.of_script h serviceId active 0).of_sublist hscript.sublist

theorem Confined.bounded {limit : Int} {serviceId : Text} {calls : List Request}
    {found : Except Fault Drift} {blocked : Int} (h : Confined limit serviceId calls found blocked)
    (hlimit : 0 ≤ limit) : Bounded limit calls := by
  cases h with
  | unplanned hreads => exact .of_reads hlimit hreads
  | exceeded hlt hcalls => exact .of_reads hlimit hcalls
  | converged hle hempty hcalls => exact .of_reads hlimit hcalls
  | carried hle hne hcalls => exact (Bounded.of_script hle _ _ _).of_sublist hcalls.sublist

theorem Confined.blocked_eq {limit : Int} {serviceId : Text} {calls : List Request}
    {drift : Drift} {blocked : Int} (h : Confined limit serviceId calls (.ok drift) blocked) :
    (limit < drift.changes.length → blocked = drift.changes.length)
      ∧ (drift.changes.length ≤ limit → blocked = 0) := by
  cases h with
  | exceeded hlt hcalls => exact ⟨fun _ => rfl, fun hle => absurd hlt (Int.not_lt.2 hle)⟩
  | converged hle hempty hcalls => exact ⟨fun hlt => absurd hlt (Int.not_lt.2 hle), fun _ => rfl⟩
  | carried hle hne hcalls => exact ⟨fun hlt => absurd hlt (Int.not_lt.2 hle), fun _ => rfl⟩

theorem Targets.unique {spec' : Document.Spec} (h : Targets files config spec)
    (h' : Targets files config spec') : spec = spec' :=
  Except.ok.inj (h.1.symm.trans h'.1)

theorem Works.guarded {w : World σ} {outcome : Except Fault Report}
    (hlimit : 1 ≤ config.maxChanges ∧ config.maxChanges ≤ 1000)
    (h : Works client config signal? files w.remote events outcome s') :
    Guarded client files config w (Event.requests events)
      (settled (emptyReport config) outcome) := by
  have hpositive : 0 ≤ config.maxChanges := by omega
  cases h with
  | @untargeted e htarget =>
    have hnone (spec : Document.Spec) : ¬Targets files config spec := by
      intro htargets
      cases htarget.symm.trans (target_eq_ok_iff.2 htargets)
    constructor
    · exact fun _ => rfl
    · exact fun spec htargets => absurd htargets (hnone spec)
    · exact ⟨Nat.zero_le _, Nat.zero_le _, hpositive⟩
    · exact hlimit
    · rintro count ⟨-, -, spec, -, htargets, -⟩
      exact absurd htargets (hnone spec)
    · intro _
      rw [settled, changesBlocked_withFault rfl, (incidental_of_target htarget).blocked_eq_zero]
  | @observed spec _ found _ htargets hmode hplans =>
    obtain ⟨active, hreads⟩ := hplans.reads_of
    constructor
    · exact fun hnone => absurd htargets (hnone spec)
    · intro spec' htargets' _
      cases htargets.unique htargets'
      exact ⟨active, hreads⟩
    · exact .of_reads hpositive hreads
    · exact hlimit
    · rintro count ⟨hmode', -⟩
      cases hmode.symm.trans hmode'
    · intro _
      cases found with
      | error e =>
        exact (changesBlocked_withFault rfl e).trans (incidental_of_plans hplans).blocked_eq_zero
      | ok drift => rfl
  | @enforced spec _ _ _ htargets hmode henforces =>
    obtain ⟨events₁, hplans, -⟩ := Sync.takes_plan client spec.serviceId spec.endpoints w
    have hconfined := henforces.confined hplans
    constructor
    · exact fun hnone => absurd htargets (hnone spec)
    · intro spec' htargets' hbarred
      cases htargets.unique htargets'
      exact hconfined.reads fun drift => hbarred.of_planned hmode
    · exact hconfined.bounded hpositive
    · exact hlimit
    · rintro count ⟨-, hlt, spec', drift, htargets', hplan, rfl⟩
      cases htargets.unique htargets'
      rw [hplan] at hconfined
      exact hconfined.blocked_eq.1 hlt
    · intro hnone
      cases hplan : (Sync.plan client spec.serviceId spec.endpoints w).1 with
      | error e =>
        rw [hplan] at hconfined
        generalize (settled (emptyReport config) outcome).changesBlocked = blocked at hconfined ⊢
        cases hconfined
        rfl
      | ok drift =>
        rw [hplan] at hconfined
        apply hconfined.blocked_eq.2
        by_contra hlt
        exact hnone _ ⟨hmode, Int.not_le.1 hlt, spec, drift, htargets, hplan, rfl⟩

/--
With any client and any spec, a cycle of a valid configuration keeps within its guards.
-/
theorem guarded_run (atStart : Files) (surroundings : Surroundings) (client : Client σ)
    (config : Config) (signal? : Option (Signal σ)) (w : World σ)
    (hconfig : config.validate atStart = .ok config) :
    ∃ report calls,
      (run surroundings client config signal? w).1 = .ok report
        ∧ (run surroundings client config signal? w).2.calls = w.calls ++ calls
        ∧ Guarded client surroundings.files config w calls report := by
  obtain ⟨events, ⟨outcome, hworks, hreport⟩, htrace⟩ :=
    takes_run surroundings client config signal? w
  refine ⟨_, Event.requests events, hreport, ?_, hworks.guarded (limit_of_validate hconfig)⟩
  rw [World.calls_eq_requests, World.calls_eq_requests, htrace, Event.requests_append]

/-
A cycle that would have to make two changes where one is admitted.
-/
theorem guarded_run_of_two_changes :
    let octets := "{serviceId: svc-1, endpoints: [{name: b, credential: key}]}".toList.map
      fun c => UInt8.ofNat c.toNat
    let files : Files := { entries := [({ base := .working, names := ["spec"] }, .file octets)] }
    let config : Config :=
      { serviceId := "svc-1", specPath := "spec", mode := .enforce, maxChanges := 1 }
    let old : Stored := { serviceId := "svc-1", version := 1, name := "a", credential := "key" }
    let w : World Service := { remote := Service.ofEndpoints "svc-1" 1 [old] 1000 }
    ∃ report, (run { files } (Service.client .unchanged) config none w).1 = .ok report
      ∧ report.changesBlocked = 2 := by
  intro octets files config old w
  let new : Declared := { name := "b", credential := "key" }
  let drift : Drift := {
    serviceId := "svc-1"
    version := 1
    changes := [.delete old, .create new.filled] }
  obtain ⟨report, calls, hreport, -, hguarded⟩ := guarded_run files { files }
    (Service.client .unchanged) config none w (by decide +kernel)
  have hload : Document.loadSpec files "spec" = .ok { serviceId := "svc-1", endpoints := [new] } := by
    decide +kernel
  have hplan : (Sync.plan (Service.client .unchanged) "svc-1" [new] w).1 = .ok drift := by
    decide +kernel
  exact ⟨report, hreport, hguarded.blocked 2 ⟨rfl, by decide, _, drift, ⟨hload, rfl⟩, hplan, rfl⟩⟩

end Reconcile

end Converge
