import Converge.Proofs.Cli.Answers
import Converge.Proofs.Cli.Ending

/-!
This module contains what the commands say that compare a spec with a snapshot. Main statement: where
the spec is a regular file they agree, although one plans for an observing cycle and the other checks a
version.
-/

namespace Converge.Cli

open List

variable {spec observed : Text} {document : Document.Spec} {snapshot : Document.Snapshot}

/--
That a check and a plan of the same files say the same.
-/
structure Agree (document : Document.Spec) (snapshot : Document.Snapshot) (spec : Text)
    (verified planned : Ending) : Prop where
  converged : verified.code = 0 →
    planned.code = 0 ∧ planned.console.output = printed [heading snapshot, convergedLine]
  -- a plan looks only at the last endpoint of each name, and does not print the path of the spec
  conversely : (Stored.names snapshot.endpoints).Nodup → spec.isWellFormed = true →
    planned.code = 0 → verified.code = 0
  drifted : planned.code = 3 →
    ∃ changes, Plan.between document.endpoints snapshot.endpoints = .ok changes ∧ changes ≠ []
      ∧ planned.console.output
        = printed (heading snapshot :: changes.map changeLine ++ [countLine changes])
      ∧ verified.code = 1 ∧ verified.escaped? = none
      ∧ verified.console.output = printed (changes.map changeLine)
  refused : ∀ e, Plan.between document.endpoints snapshot.endpoints = .error e →
    Plan.Refusal e ∧ Complains verified e ∧ Complains planned e

theorem code_verify_eq_zero_iff (console : Log.Console) (version : Int) (spec : Text)
    (verdict : Except Fault Unit) :
    (finish console (said (verifyOutcome version spec verdict))).code = 0 ↔
      verdict = .ok () ∧ spec.isWellFormed = true := by
  rw [code_finish]
  cases verdict with
  | ok =>
    cases hspec : spec.isWellFormed with
    | true => simp [verifyOutcome, said, Answer.isWellFormed, hspec]
    | false => simp [verifyOutcome, said, Answer.isWellFormed, hspec]
  | error e =>
    simp only [reduceCtorEq, false_and, iff_false]
    split
    · cases e <;> simp [verifyOutcome, said, complain]
    · simp

theorem isWellFormed_planAnswer_nil (hservice : Config.serviceFaults snapshot.serviceId = []) :
    (planAnswer snapshot (.ok [])).isWellFormed = true := by
  have hheading : (heading snapshot).isWellFormed = true := by
    simp [heading, Config.isWellFormed_of_serviceFaults hservice]
  simp [planAnswer, Answer.isWellFormed, hheading, convergedLine]

theorem eq_nil_of_code_plan {console : Log.Console} {result : Except Fault (List Change)}
    (h : (finish console (planAnswer snapshot result)).code = 0) : result = .ok [] := by
  rw [code_finish] at h
  split at h
  · cases result with
    | error e => cases h
    | ok changes =>
      cases changes with
      | nil => rfl
      | cons c rest => cases h
  · cases h

theorem exists_of_code_plan {console : Log.Console} {result : Except Fault (List Change)}
    (hconsole : console.output = .empty)
    (h : (finish console (planAnswer snapshot result)).code = 3) :
    ∃ changes, result = .ok changes ∧ changes ≠ []
      ∧ (changes.map changeLine).all Text.isWellFormed = true
      ∧ (finish console (planAnswer snapshot result)).console.output
        = printed (heading snapshot :: changes.map changeLine ++ [countLine changes]) := by
  rw [code_finish] at h
  split at h
  · next hanswer =>
    cases result with
    | error e => cases h
    | ok changes =>
      cases changes with
      | nil => cases h
      | cons c rest =>
        refine ⟨c :: rest, rfl, cons_ne_nil c rest, ?_, output_finish hanswer hconsole⟩
        rw [Answer.isWellFormed, planAnswer, cons_append, all_cons, all_append, Bool.and_eq_true,
          Bool.and_eq_true] at hanswer
        · exact hanswer.2.1
        · exact cons_ne_nil c rest
  · cases h

theorem ending_of_notConverged {console : Log.Console} {changes : List Change}
    (hconsole : console.output = .empty)
    (hchanges : (changes.map changeLine).all Text.isWellFormed = true) (version : Int) (spec : Text)
    (tally : Tally) :
    let answer := said (verifyOutcome version spec (.error (.notConverged version changes tally)))
    (finish console answer).code = 1 ∧ (finish console answer).escaped? = none
      ∧ (finish console answer).console.output = printed (changes.map changeLine) := by
  intro answer
  have hanswer : answer.isWellFormed = true := hchanges
  refine ⟨?_, ?_, output_finish hanswer hconsole⟩
  · rw [finish_of_isWellFormed hanswer]
    rfl
  · rw [finish_of_isWellFormed hanswer]

theorem verifyOutcome_ne_foreign (version : Int) (spec : Text) (desired : List Declared)
    (observed : List Stored) (f : Foreign) :
    verifyOutcome version spec (Verify.verdict version desired observed) ≠ .error (.foreign f) := by
  cases hbetween : Plan.between desired observed with
  | error e =>
    rw [Verify.verdict_of_error hbetween]
    cases Plan.refusal_of_between hbetween <;> simp [verifyOutcome]
  | ok changes =>
    unfold Verify.verdict
    rw [hbetween]
    dsimp only
    split <;> simp [verifyOutcome]

theorem Complains.of_refusal {e : Fault} (h : Plan.Refusal e) (level : Log.Level) (stamp : Text)
    (log : List Log.Record) (version : Int) :
    Complains (finish (writeLog (.setup false level) stamp log)
      (said (verifyOutcome version spec (.error e)))) e := by
  cases h <;> exact complains_finish level stamp log _

theorem agree_of_isFile (surroundings : Surroundings) (env : Config.Environment) (stamp : Text)
    {verifyArgs planArgs : List Text} {level level' : Log.Level}
    (hverify : readInvocation surroundings.files verifyArgs
      = .ok { command := .verify spec observed none, level })
    (hplan : readInvocation surroundings.files planArgs
      = .ok { command := .plan spec observed true, level := level' })
    (hfile : surroundings.files.isFile spec = true)
    (hload : Document.loadSpec surroundings.files spec = .ok document)
    (hsnapshot : Document.loadSnapshot surroundings.files observed = .ok snapshot)
    (hid : document.serviceId = snapshot.serviceId)
    (hservice : Config.serviceFaults snapshot.serviceId = []) :
    Agree document snapshot spec (run surroundings env stamp verifyArgs)
      (run surroundings env stamp planArgs) := by
  obtain ⟨log, hverified⟩ := exists_run env stamp hverify
    (yields_verify hfile hload hsnapshot hid { remote := () }) (verifyOutcome_ne_foreign _ _ _ _)
  obtain ⟨log', hplanned⟩ := exists_run env stamp hplan
    (yields_plan hfile hload hsnapshot hid hservice { remote := () }) (by simp)
  rw [hverified, hplanned]
  have hzero := code_verify_eq_zero_iff (writeLog (.setup false level) stamp log) snapshot.version
    spec (Verify.verdict snapshot.version document.endpoints snapshot.endpoints)
  rw [Verify.verdict_eq_ok_iff] at hzero
  constructor
  · intro hcode
    dsimp only [said]
    rw [Plan.between_of_matches (hzero.1 hcode).1]
    have hanswer := isWellFormed_planAnswer_nil hservice
    constructor
    · rw [code_finish, if_pos hanswer]
      rfl
    · exact output_finish hanswer (output_writeLog level' stamp log')
  · intro hnames hspec hcode
    exact hzero.2 ⟨Plan.matches_of_between hnames (eq_nil_of_code_plan hcode), hspec⟩
  · intro hcode
    obtain ⟨changes, hbetween, hne, hlines, houtput⟩ :=
      exists_of_code_plan (output_writeLog level' stamp log') hcode
    rw [Verify.verdict_of_changes hbetween fun hnone => hne hnone.2]
    exact ⟨changes, hbetween, hne, houtput,
      ending_of_notConverged (output_writeLog level stamp log) hlines snapshot.version spec _⟩
  · intro e hbetween
    have hrefusal := Plan.refusal_of_between hbetween
    rw [Verify.verdict_of_error hbetween, hbetween]
    exact ⟨hrefusal, .of_refusal hrefusal level stamp log snapshot.version,
      complains_finish level' stamp log' e⟩

theorem complains_of_not_isFile (surroundings : Surroundings) (env : Config.Environment)
    (stamp : Text) {planArgs : List Text} {level : Log.Level}
    (hplan : readInvocation surroundings.files planArgs
      = .ok { command := .plan spec observed true, level })
    (hfile : surroundings.files.isFile spec = false)
    (hsnapshot : Document.loadSnapshot surroundings.files observed = .ok snapshot)
    (hservice : Config.serviceFaults snapshot.serviceId = []) :
    Complains (run surroundings env stamp planArgs) (.setting (.rejected [.specMissing spec])) := by
  obtain ⟨log, hplanned⟩ := exists_run env stamp hplan
    (yields_plan_of_not_isFile hfile hsnapshot hservice { remote := () }) (by simp)
  rw [hplanned]
  exact complains_finish level stamp log _

/--
A check and a plan of the same files agree, if these are about the same service and it is one that can
be configured, where the spec is a regular file. A plan complains of any other spec, although it may
load.
-/
theorem agree_run (surroundings : Surroundings) (env : Config.Environment) (stamp : Text)
    {verifyArgs planArgs : List Text} {level level' : Log.Level}
    (hverify : readInvocation surroundings.files verifyArgs
      = .ok { command := .verify spec observed none, level })
    (hplan : readInvocation surroundings.files planArgs
      = .ok { command := .plan spec observed true, level := level' })
    (hload : Document.loadSpec surroundings.files spec = .ok document)
    (hsnapshot : Document.loadSnapshot surroundings.files observed = .ok snapshot)
    (hid : document.serviceId = snapshot.serviceId)
    (hservice : Config.serviceFaults snapshot.serviceId = []) :
    (surroundings.files.isFile spec = true →
        Agree document snapshot spec (run surroundings env stamp verifyArgs)
          (run surroundings env stamp planArgs))
      ∧ (surroundings.files.isFile spec = false →
        Complains (run surroundings env stamp planArgs)
          (.setting (.rejected [.specMissing spec]))) :=
  ⟨fun hfile => agree_of_isFile surroundings env stamp hverify hplan hfile hload hsnapshot hid hservice,
    fun hfile => complains_of_not_isFile surroundings env stamp hplan hfile hsnapshot hservice⟩

def octetsOf (s : String) : List UInt8 :=
  s.toList.map fun c => UInt8.ofNat c.toNat

/--
Two files in the working directory.
-/
def beside (spec : Text) (entry : Entry) (observed : Text) (octets : List UInt8) : Files :=
  { entries := [
    ({ base := .working, names := [spec] }, entry),
    ({ base := .working, names := [observed] }, .file octets)] }

/-
A spec and a snapshot that differ in two endpoints.
-/
theorem agree_run_of_two_changes :
    let files := beside "spec"
      (.file (octetsOf "{serviceId: svc-1, endpoints: [{name: b, credential: key}]}")) "snap"
      (octetsOf "{serviceId: svc-1, version: 1, endpoints: [{name: a, credential: key}]}")
    let verified := run { files } [] "now" ["verify", "spec", "-o", "snap"]
    let planned := run { files } [] "now" ["plan", "spec", "-o", "snap", "--fail-on-drift"]
    planned.code = 3 ∧ verified.code = 1
      ∧ verified.console.output = printed ["  - delete a", "  + create b"] := by
  intro files verified planned
  let document : Document.Spec := {
    serviceId := "svc-1", endpoints := [{ name := "b", credential := "key" }] }
  let snapshot : Document.Snapshot := {
    serviceId := "svc-1"
    version := 1
    endpoints := [{ serviceId := "svc-1", version := 1, name := "a", credential := "key" }] }
  have hverify : readInvocation files ["verify", "spec", "-o", "snap"]
      = .ok { command := .verify "spec" "snap" none } := by
    decide +kernel
  have hplan : readInvocation files ["plan", "spec", "-o", "snap", "--fail-on-drift"]
      = .ok { command := .plan "spec" "snap" true } := by
    decide +kernel
  have hload : Document.loadSpec files "spec" = .ok document := by decide +kernel
  have hsnapshot : Document.loadSnapshot files "snap" = .ok snapshot := by decide +kernel
  have hagree : Agree document snapshot "spec" verified planned :=
    (agree_run { files } [] "now" hverify hplan hload hsnapshot rfl (by decide)).1
      (by decide +kernel)
  have hcode : planned.code = 3 := by decide +kernel
  have hbetween : Plan.between document.endpoints snapshot.endpoints = .ok [
      .delete { serviceId := "svc-1", version := 1, name := "a", credential := "key" },
      .create { name := "b", credential := "key", formatVersion := some 2 }] := by
    decide +kernel
  obtain ⟨changes, hchanges, -, -, hverified, -, houtput⟩ := hagree.drifted hcode
  rw [hbetween] at hchanges
  cases hchanges
  exact ⟨hcode, hverified, houtput⟩

/--
That the two commands of the same files end with these codes.
-/
structure Ends (files : Files) (spec : Text) (verified planned : Nat) : Prop where
  loads : ∃ document, Document.loadSpec files spec = .ok document
    ∧ document.serviceId = "svc-1"
  snapshot : ∃ snapshot, Document.loadSnapshot files "snap" = .ok snapshot
    ∧ snapshot.serviceId = "svc-1" ∧ (Stored.names snapshot.endpoints).Nodup
  verify : (run { files } [] "now" ["verify", spec, "-o", "snap"]).code = verified
  plan : (run { files } [] "now" ["plan", spec, "-o", "snap", "--fail-on-drift"]).code = planned

/-
A spec that is a stream, and one whose path cannot be printed.
-/
theorem not_agree_run :
    let spec := octetsOf "{serviceId: svc-1, endpoints: []}"
    let snap := octetsOf "{serviceId: svc-1, version: 1, endpoints: []}"
    Config.serviceFaults "svc-1" = []
      ∧ Ends (beside "pipe" (.stream spec) "snap" snap) "pipe" 0 1
      ∧ Ends (beside ⟨[0xDCFF]⟩ (.file spec) "snap" snap) ⟨[0xDCFF]⟩ 1 0 := by
  intro spec snap
  let document : Document.Spec := { serviceId := "svc-1", endpoints := [] }
  let snapshot : Document.Snapshot := { serviceId := "svc-1", version := 1, endpoints := [] }
  refine ⟨by decide, ⟨⟨document, ?_, rfl⟩, ⟨snapshot, ?_, rfl, nodup_nil⟩, ?_, ?_⟩,
    ⟨document, ?_, rfl⟩, ⟨snapshot, ?_, rfl, nodup_nil⟩, ?_, ?_⟩
  all_goals decide +kernel

end Converge.Cli
