import Converge.Proofs.Log
import Converge.Proofs.Sync.Script
import Converge.Proofs.Verify
import Converge.Reconcile

/-!
This module contains the courses that a reconciliation cycle can take with any client. Main
statement: every cycle takes one of them and ends with a report, whatever stopped it.
-/

namespace Converge

theorem Synced.changed_iff {synced : Synced} :
    synced.changed = true ↔ synced.version ≠ synced.previousVersion :=
  decide_eq_true_iff

namespace Reconcile

open List

variable {σ : Type} {client : Client σ} {config : Config} {signal? : Option (Signal σ)}
  {files : Files} {spec : Document.Spec} {s s' : σ} {events : List Event}

def observedReport (config : Config) (drift : Drift) : Report :=
  { emptyReport config with
    previousVersion := some drift.version
    version := some drift.version
    changes := drift.changes
    driftFound := drift.isFound }

def settled (r : Report) : Except Fault Report → Report
  | .ok r => r
  | .error e => withFault r e

theorem fault?_withFault (r : Report) (e : Fault) : (withFault r e).fault? = some e := by
  unfold withFault
  split
  · rfl
  · split <;> rfl
  · rfl
  · rfl

theorem verified_withFault (r : Report) (e : Fault) : (withFault r e).verified = r.verified := by
  unfold withFault
  split
  · rfl
  · split <;> rfl
  · rfl
  · rfl

theorem eq_ok_of_succeeded {r : Report} {result : Except Fault Report}
    (h : (settled r result).fault? = none) : result = .ok (settled r result) := by
  cases result with
  | error e =>
    rw [settled, fault?_withFault] at h
    cases h
  | ok report => rfl

theorem eq_ok_of_verified {r : Report} {result : Except Fault Report} (hr : r.verified = false)
    (h : (settled r result).verified = true) : result = .ok (settled r result) := by
  cases result with
  | error e =>
    rw [settled, verified_withFault, hr] at h
    cases h
  | ok report => rfl

def target (files : Files) (config : Config) : Except Fault Document.Spec :=
  match Document.loadSpec files config.specPath with
  | .error e => .error e
  | .ok spec =>
    if spec.serviceId = config.serviceId then .ok spec
    else .error (.setting (.otherService config.specPath spec.serviceId config.serviceId))

/--
That a configuration leads to a spec, and that the spec is about the configured service.
-/
def Targets (files : Files) (config : Config) (spec : Document.Spec) : Prop :=
  Document.loadSpec files config.specPath = .ok spec ∧ spec.serviceId = config.serviceId

theorem target_eq_ok_iff : target files config = .ok spec ↔ Targets files config spec := by
  unfold target Targets
  constructor
  · intro h
    split at h
    · cases h
    · next loaded hload =>
      split at h
      · next hservice =>
        cases h
        exact ⟨hload, hservice⟩
      · cases h
  · rintro ⟨hload, hservice⟩
    rw [hload]
    exact if_pos hservice

/--
Files with nothing but a spec, in the working directory.
-/
def specFile (text : String) : Files where
  entries := [({ base := .working, names := ["spec"] },
    .file (text.toList.map fun c => UInt8.ofNat c.toNat))]

/--
How drift is removed.
-/
inductive Enforces (client : Client σ) (config : Config) (signal? : Option (Signal σ))
    (spec : Document.Spec) (s : σ) : List Event → Except Fault Report → σ → Prop
  | stopped {events : List Event} {e : Fault} {s' : σ} :
    Sync.Course client spec.serviceId spec.endpoints signal? (some config.maxChanges) s events
      (.error e) s' →
    Enforces client config signal? spec s events (.error e) s'
  | unchecked {events : List Event} {synced : Synced} {s' : σ} :
    Sync.Course client spec.serviceId spec.endpoints signal? (some config.maxChanges) s events
      (.ok synced) s' →
    (synced.changed && config.verifyAfterApply) = false →
    Enforces client config signal? spec s events (.ok (syncedReport config synced)) s'
  | checked {events events' : List Event} {synced : Synced} {verdict : Except Fault Unit}
    {s₁ s' : σ} :
    Sync.Course client spec.serviceId spec.endpoints signal? (some config.maxChanges) s events
      (.ok synced) s₁ →
    synced.changed = true → config.verifyAfterApply = true →
    Verify.Checks client spec.serviceId synced.version spec.endpoints s₁ events' verdict s' →
    Enforces client config signal? spec s (events ++ events')
      (.ok (settled (syncedReport config synced)
        (verdict.map fun () => { syncedReport config synced with verified := true }))) s'

/--
What happens in a cycle before its report is made.
-/
inductive Works (client : Client σ) (config : Config) (signal? : Option (Signal σ)) (files : Files)
    (s : σ) : List Event → Except Fault Report → σ → Prop
  | untargeted {e : Fault} :
    target files config = .error e →
    Works client config signal? files s [] (.error e) s
  | observed {spec : Document.Spec} {events : List Event} {result : Except Fault Drift} {s' : σ} :
    Targets files config spec → config.mode = .observe →
    Sync.Plans client spec.serviceId spec.endpoints s events result s' →
    Works client config signal? files s events (result.map (observedReport config)) s'
  | enforced {spec : Document.Spec} {events : List Event} {result : Except Fault Report} {s' : σ} :
    Targets files config spec → config.mode = .enforce →
    Enforces client config signal? spec s events result s' →
    Works client config signal? files s events result s'

theorem takes_observe (client : Client σ) (config : Config) (spec : Document.Spec) (w : World σ) :
    (observe client config spec).Takes w fun events result s =>
      ∃ found, Sync.Plans client spec.serviceId spec.endpoints w.remote events found s
        ∧ result = found.map (observedReport config) := by
  unfold observe
  apply (Sync.takes_plan client spec.serviceId spec.endpoints w).bind
  · intro events e s hplans
    exact ⟨.error e, hplans, rfl⟩
  · intro events drift w₁ hplans
    dsimp only
    split
    all_goals
      apply Run.Takes.bind_log
      apply Run.Takes.pure
      rw [append_nil]
      exact ⟨.ok drift, hplans, rfl⟩

theorem takes_settle (config : Config) (r : Report) (outcome : Except Fault Report) (w : World σ) :
    (settle config r outcome).Takes w fun events result s =>
      events = [] ∧ result = .ok (settled r outcome) ∧ s = w.remote := by
  unfold settle
  cases outcome with
  | ok r => exact .pure ⟨rfl, rfl, rfl⟩
  | error e =>
    dsimp only
    split
    · apply Run.Takes.bind_log
      exact .pure ⟨rfl, rfl, rfl⟩
    · exact .pure ⟨rfl, rfl, rfl⟩

theorem takes_enforce (client : Client σ) (config : Config) (signal? : Option (Signal σ))
    (spec : Document.Spec) (w : World σ) :
    (enforce client config signal? spec).Takes w
      (Enforces client config signal? spec w.remote) := by
  unfold enforce
  apply (Sync.takes_run client spec.serviceId spec.endpoints signal? (some config.maxChanges) w).bind
  · intro events e s hcourse
    exact .stopped hcourse
  · intro events synced w₁ hcourse
    dsimp only
    split
    · next hverify =>
      rw [Bool.and_eq_true] at hverify
      apply (Verify.takes_run client spec.serviceId synced.version spec.endpoints w₁).outcome.bind
      · rintro events' e s ⟨r, hr, -⟩
        cases hr
      · rintro events' verdict w₂ ⟨r, hr, hchecks⟩
        cases hr
        apply (takes_settle config _ _ w₂).mono
        rintro events'' result s ⟨rfl, rfl, rfl⟩
        rw [append_nil]
        exact .checked hcourse hverify.1 hverify.2 hchecks
    · next hverify =>
      apply Run.Takes.pure
      rw [append_nil]
      exact .unchecked hcourse (eq_false_of_ne_true hverify)

theorem takes_loadSpec (files : Files) (path : Text) (w : World σ) :
    (loadSpec files path).Takes w fun events result s =>
      events = [] ∧ result = Document.loadSpec files path ∧ s = w.remote := by
  unfold loadSpec
  cases hload : Document.loadSpec files path with
  | error e => exact ⟨[], ⟨rfl, rfl, rfl⟩, (append_nil _).symm⟩
  | ok spec =>
    apply Run.Takes.bind_lift rfl
    apply Run.Takes.bind_log
    exact .pure ⟨rfl, rfl, rfl⟩

theorem takes_configuredSpec (files : Files) (config : Config) (w : World σ) :
    (configuredSpec files config).Takes w fun events result s =>
      events = [] ∧ result = target files config ∧ s = w.remote := by
  unfold configuredSpec target
  apply (takes_loadSpec files config.specPath w).bind
  · rintro events e s ⟨rfl, hload, rfl⟩
    rw [← hload]
    exact ⟨rfl, rfl, rfl⟩
  · rintro events spec w₁ ⟨rfl, hload, hremote⟩
    rw [← hload]
    dsimp only
    split
    · exact .pure ⟨rfl, rfl, hremote⟩
    · exact .fail ⟨rfl, rfl, hremote⟩

theorem takes_work (client : Client σ) (config : Config) (signal? : Option (Signal σ))
    (files : Files) (w : World σ) :
    (work client config signal? files).Takes w (Works client config signal? files w.remote) := by
  unfold work
  apply (takes_configuredSpec files config w).bind
  · rintro events e s ⟨rfl, htarget, rfl⟩
    exact .untargeted htarget.symm
  · rintro events spec w₁ ⟨rfl, htarget, hremote⟩
    rw [← hremote]
    split
    · next hmode =>
      apply (takes_observe client config spec w₁).mono
      rintro events result s ⟨found, hplans, rfl⟩
      exact .observed (target_eq_ok_iff.1 htarget.symm) hmode hplans
    · next hmode =>
      apply (takes_enforce client config signal? spec w₁).mono
      intro events result s henforces
      exact .enforced (target_eq_ok_iff.1 htarget.symm) hmode henforces

def changeRecords (surroundings : Surroundings) (config : Config) (r : Report) :
    List Log.Record :=
  if r.changesApplied ≠ 0 then
    r.changes.map fun c => (provenance surroundings config r).changeRecord c r.version
  else []

theorem writes_logChanges (p : Provenance) (version : Option Int) (changes : List Change) :
    (logChanges p version changes : Run σ Unit).Writes ()
      (changes.map (p.changeRecord · version)) := by
  induction changes with
  | nil => exact .pure ()
  | cons c rest ih => exact (Run.Writes.log _).bind ih

theorem writes_recordProvenance (surroundings : Surroundings) (config : Config) (r : Report) :
    (recordProvenance surroundings config r : Run σ Unit).Writes ()
      (changeRecords surroundings config r ++ [(provenance surroundings config r).record]) := by
  unfold recordProvenance changeRecords
  dsimp only
  split
  · exact (writes_logChanges _ _ _).bind (.log _)
  · exact .log _

/--
Every cycle ends with a report on the course that it took.
-/
theorem takes_run (surroundings : Surroundings) (client : Client σ) (config : Config)
    (signal? : Option (Signal σ)) (w : World σ) :
    (run surroundings client config signal?).Takes w fun events result s =>
      ∃ outcome, Works client config signal? surroundings.files w.remote events outcome s
        ∧ result = .ok (settled (emptyReport config) outcome) := by
  unfold run
  apply (takes_work client config signal? surroundings.files w).outcome.bind
  · rintro events e s ⟨r, hr, -⟩
    cases hr
  · rintro events outcome w₁ ⟨r, hr, hworks⟩
    cases hr
    apply (takes_settle config (emptyReport config) outcome w₁).bind
    · rintro events' e s ⟨-, hresult, -⟩
      cases hresult
    · rintro events' report w₂ ⟨rfl, hresult, hremote⟩
      cases hresult
      rw [← hremote] at hworks
      have hend (w₃ : World σ) (h : w₃.remote = w₂.remote) :
          (do
            Run.log (resultRecord (settled (emptyReport config) outcome))
            pure (settled (emptyReport config) outcome) : Run σ Report).Takes w₃
          fun events' result s => ∃ outcome,
            Works client config signal? surroundings.files w.remote (events ++ ([] ++ events')) outcome s
              ∧ result = .ok (settled (emptyReport config) outcome) := by
        apply Run.Takes.bind_log
        refine .pure ⟨outcome, ?_, rfl⟩
        rw [nil_append, append_nil, h]
        exact hworks
      dsimp only
      split
      · exact .bind_writes (writes_recordProvenance surroundings config _) hend
      · exact hend w₂ rfl

end Reconcile

end Converge
