import Converge.Cli.Program
import Converge.Proofs.Reconcile.Agreement
import Converge.Proofs.Verify.Acceptance

/-!
This module contains what the commands answer that compare a spec with a snapshot. Main statements: a
plan answers with the changes that the endpoints of the snapshot need, a check with the verdict on
them.
-/

namespace Converge

open List

namespace Cli

variable {σ : Type} {files : Files} {surroundings : Surroundings} {spec observed : Text}
  {document : Document.Spec} {snapshot : Document.Snapshot}

theorem yields_against {α : Type} {x : Run Document.Snapshot α} {result : Except Fault α}
    (h : (x { remote := snapshot }).1 = result) :
    (against snapshot x : Run σ α).Yields result := by
  intro w
  unfold against
  rw [← h]

theorem yields_loadSpec (h : Document.loadSpec files spec = .ok document) :
    (Reconcile.loadSpec files spec : Run σ Document.Spec).Yields (.ok document) := by
  unfold Reconcile.loadSpec
  rw [h]
  exact .bind (.lift _) (.bind (.log _) (.pure _))

theorem yields_loadSnapshot (h : Document.loadSnapshot files observed = .ok snapshot) :
    (Reconcile.loadSnapshot files observed : Run σ Document.Snapshot).Yields (.ok snapshot) := by
  unfold Reconcile.loadSnapshot
  rw [h]
  exact .bind (.lift _) (.bind (.log _) (.pure _))

end Cli

namespace Document.Snapshot

variable {snapshot : Snapshot}

theorem checkService_self (snapshot : Snapshot) :
    snapshot.checkService snapshot.serviceId = .ok () :=
  if_pos rfl

theorem client_activeVersion (snapshot : Snapshot) :
    client (.activeVersion snapshot.serviceId) snapshot = (.ok snapshot.version, snapshot) := by
  change ((snapshot.checkService snapshot.serviceId).map _, snapshot) = _
  rw [checkService_self]
  rfl

theorem client_list (snapshot : Snapshot) :
    client (.list snapshot.serviceId snapshot.version) snapshot
      = (.ok (some snapshot.endpoints), snapshot) := by
  change ((snapshot.checkService snapshot.serviceId).map fun () =>
    some (if snapshot.version = snapshot.version then snapshot.endpoints else []), snapshot) = _
  rw [checkService_self, if_pos rfl]
  rfl

/--
The drift of a snapshot.
-/
def drift (snapshot : Snapshot) (changes : List Change) : Drift where
  serviceId := snapshot.serviceId
  version := snapshot.version
  changes := changes

theorem plans (snapshot : Snapshot) (desired : List Declared) :
    ∃ events, Sync.Plans client snapshot.serviceId desired snapshot events
      ((Plan.between desired snapshot.endpoints).map snapshot.drift) snapshot := by
  have hactive := client_activeVersion snapshot
  have hlist := client_list snapshot
  cases hbetween : Plan.between desired snapshot.endpoints with
  | error e => exact ⟨_, .unplannable hactive hlist hbetween⟩
  | ok changes => exact ⟨_, .planned hactive hlist hbetween⟩

end Document.Snapshot

namespace Cli

variable {σ : Type} {files : Files} {surroundings : Surroundings} {spec observed : Text}
  {document : Document.Spec} {snapshot : Document.Snapshot}

/--
How a plan against a snapshot is configured.
-/
def planConfig (snapshot : Document.Snapshot) (spec : Text) : Config :=
  { serviceId := snapshot.serviceId, specPath := spec, auditLogging := false }

theorem validate_planConfig (files : Files) (spec : Text)
    (hservice : Config.serviceFaults snapshot.serviceId = []) :
    (planConfig snapshot spec).validate files =
      if files.isFile spec then .ok (planConfig snapshot spec)
      else .error (.setting (.rejected [.specMissing spec])) := by
  have hfaults : (planConfig snapshot spec).faults files = Config.specFaults files spec := by
    unfold Config.faults planConfig
    rw [hservice, nil_append]
    exact append_nil _
  unfold Config.validate
  rw [hfaults]
  unfold Config.specFaults
  cases files.isFile spec <;> rfl

/--
What an observing cycle finds in a snapshot.
-/
def found (document : Document.Spec) (snapshot : Document.Snapshot) (spec : Text) :
    Except Fault Report :=
  ((Plan.between document.endpoints snapshot.endpoints).map snapshot.drift).map
    (Reconcile.observedReport (planConfig snapshot spec))

theorem outcome_of_works (hload : Document.loadSpec files spec = .ok document)
    (hid : document.serviceId = snapshot.serviceId) {events : List Event}
    {outcome : Except Fault Report} {s' : Document.Snapshot}
    (h : Reconcile.Works Document.Snapshot.client (planConfig snapshot spec) none files snapshot
      events outcome s') : outcome = found document snapshot spec := by
  have htargets : Reconcile.Targets files (planConfig snapshot spec) document := ⟨hload, hid⟩
  cases h with
  | untargeted htarget =>
    rw [Reconcile.target_eq_ok_iff.2 htargets] at htarget
    cases htarget
  | @observed document' _ _ _ htargets' _ hplans =>
    obtain rfl : document' = document := Except.ok.inj (htargets'.1.symm.trans hload)
    rw [hid] at hplans
    obtain ⟨events', hplans'⟩ := snapshot.plans document'.endpoints
    obtain ⟨-, rfl, -⟩ := hplans.unique hplans'
    rfl
  | enforced _ hmode => cases hmode

theorem start_of_snapshot (hload : Document.loadSpec surroundings.files spec = .ok document)
    (hid : document.serviceId = snapshot.serviceId) (failOnDrift : Bool) :
    let report := Reconcile.settled (Reconcile.emptyReport (planConfig snapshot spec))
      (found document snapshot spec)
    (Reconcile.start surroundings Document.Snapshot.client (planConfig snapshot spec) failOnDrift
      { remote := snapshot }).1 = .ok (report.exitCode failOnDrift, report) := by
  intro report
  let w : World Document.Snapshot := { remote := snapshot }
  obtain ⟨events, ⟨outcome, hworks, hreport⟩, -⟩ := Reconcile.takes_run surroundings
    Document.Snapshot.client (planConfig snapshot spec) none
    { w with log := w.log ++ [Reconcile.startRecord (planConfig snapshot spec)] }
  obtain rfl := outcome_of_works hload hid hworks
  exact congrArg Prod.fst (Reconcile.start_eq hreport)

def heading (snapshot : Document.Snapshot) : Text :=
  "Service " ++ snapshot.serviceId ++ ", active version " ++ Numeral.ofInt snapshot.version

def countLine (changes : List Change) : Text :=
  Numeral.ofNat changes.length ++ " operation(s) needed."

def convergedLine : Text :=
  "✓ No changes. Endpoints are converged."

/--
What is answered to the request for a plan that is to fail on drift.
-/
def planAnswer (snapshot : Document.Snapshot) : Except Fault (List Change) → Answer
  | .error e => complain e
  | .ok [] => { lines := [heading snapshot, convergedLine] }
  | .ok changes =>
    { code := 3, lines := heading snapshot :: changes.map changeLine ++ [countLine changes] }

theorem yields_plan (hfile : surroundings.files.isFile spec = true)
    (hload : Document.loadSpec surroundings.files spec = .ok document)
    (hsnapshot : Document.loadSnapshot surroundings.files observed = .ok snapshot)
    (hid : document.serviceId = snapshot.serviceId)
    (hservice : Config.serviceFaults snapshot.serviceId = []) :
    (plan surroundings spec observed true : Run σ Answer).Yields
      (.ok (planAnswer snapshot (Plan.between document.endpoints snapshot.endpoints))) := by
  unfold plan
  apply (yields_loadSnapshot hsnapshot).bind
  have hvalid := validate_planConfig surroundings.files spec hservice
  rw [if_pos hfile] at hvalid
  unfold planConfig at hvalid
  rw [hvalid]
  apply Run.Yields.bind (.lift _)
  apply (yields_against (start_of_snapshot hload hid true)).bind
  unfold found
  cases Plan.between document.endpoints snapshot.endpoints with
  | error e =>
    have hfault : (Reconcile.settled (Reconcile.emptyReport (planConfig snapshot spec))
        (((Except.error e : Except Fault (List Change)).map snapshot.drift).map
          (Reconcile.observedReport (planConfig snapshot spec)))).fault? = some e :=
      Reconcile.fault?_withFault _ e
    dsimp only
    rw [hfault]
    exact .pure _
  | ok changes => cases changes <;> exact .pure _

/--
A plan is refused where the spec is no regular file, even if it loads.
-/
theorem yields_plan_of_not_isFile (hfile : surroundings.files.isFile spec = false)
    (hsnapshot : Document.loadSnapshot surroundings.files observed = .ok snapshot)
    (hservice : Config.serviceFaults snapshot.serviceId = []) :
    (plan surroundings spec observed true : Run σ Answer).Yields
      (.error (.setting (.rejected [.specMissing spec]))) := by
  unfold plan
  apply (yields_loadSnapshot hsnapshot).bind
  have hvalid := validate_planConfig surroundings.files spec hservice
  rw [if_neg (Bool.eq_false_iff.1 hfile)] at hvalid
  unfold planConfig at hvalid
  rw [hvalid]
  exact Run.Yields.bind_error (.lift _)

/--
What is answered to the request for a check.
-/
def verifyOutcome (version : Int) (spec : Text) : Except Fault Unit → Except Fault Answer
  | .ok () => .ok { lines := ["✓ Version " ++ Numeral.ofInt version ++ " matches " ++ spec] }
  | .error (.notConverged v pending tally) =>
    .ok {
      code := 1
      lines := pending.map changeLine
      complaint? := some ("✗ " ++ (Fault.notConverged v pending tally).message) }
  | .error e => .error e

theorem yields_verify (hfile : files.isFile spec = true)
    (hload : Document.loadSpec files spec = .ok document)
    (hsnapshot : Document.loadSnapshot files observed = .ok snapshot)
    (hid : document.serviceId = snapshot.serviceId) :
    (verify files spec observed none : Run σ Answer).Yields
      (verifyOutcome snapshot.version spec
        (Verify.verdict snapshot.version document.endpoints snapshot.endpoints)) := by
  unfold verify
  apply (yields_loadSpec hload).bind
  rw [Files.drained_of_isFile hfile]
  apply (yields_loadSnapshot hsnapshot).bind
  have hrun : (Run.outcome (Verify.run Document.Snapshot.client document.serviceId snapshot.version
      document.endpoints) { remote := snapshot }).1
        = .ok (Verify.verdict snapshot.version document.endpoints snapshot.endpoints) := by
    rw [hid]
    unfold Run.outcome
    exact congrArg _ (Verify.run_of_listing document.endpoints { remote := snapshot }
      (Document.Snapshot.client_list snapshot))
  apply (yields_against hrun).bind
  cases Verify.verdict snapshot.version document.endpoints snapshot.endpoints with
  | ok => exact .pure _
  | error e =>
    cases e with
    | notConverged v pending tally => exact .pure _
    | _ => exact .fail _

end Cli

end Converge
