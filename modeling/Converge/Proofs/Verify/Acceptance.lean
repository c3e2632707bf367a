import Converge.Proofs.Verify
import Converge.Remote.Behavior

/-!
This module contains which listings the check of a version accepts, whatever client they come from.
Main statement: it accepts exactly the endpoints that match the desired ones, and it rejects all
others with the changes that they need.
-/

namespace Converge.Verify

open List

variable {σ : Type} {client : Client σ} {serviceId : Text} {version : Int} {desired : List Declared}
  {observed : List Stored} {s' : σ}

/--
The counts that a rejection names, which are those of the endpoints if they differ.
-/
def tally (desired : List Declared) (observed : List Stored) : Tally :=
  if observed.length = desired.length then {}
  else ⟨some (desired.length : Int), some (observed.length : Int)⟩

/--
What a check says of the endpoints that are listed.
-/
def verdict (version : Int) (desired : List Declared) (observed : List Stored) :
    Except Fault Unit :=
  match Plan.between desired observed with
  | .error e => .error e
  | .ok changes =>
    if observed.length = desired.length ∧ changes = [] then .ok ()
    else .error (.notConverged version changes (tally desired observed))

theorem tally_of_length_eq (h : observed.length = desired.length) : tally desired observed = {} :=
  if_pos h

theorem tally_of_length_ne (h : observed.length ≠ desired.length) :
    tally desired observed = ⟨some (desired.length : Int), some (observed.length : Int)⟩ :=
  if_neg h

theorem verdict_of_error {e : Fault} (h : Plan.between desired observed = .error e) :
    verdict version desired observed = .error e := by
  unfold verdict
  rw [h]

theorem verdict_of_changes {changes : List Change} (h : Plan.between desired observed = .ok changes)
    (hneed : ¬(observed.length = desired.length ∧ changes = [])) :
    verdict version desired observed
      = .error (.notConverged version changes (tally desired observed)) := by
  unfold verdict
  rw [h]
  exact if_neg hneed

theorem between_of_verdict (h : verdict version desired observed = .ok ()) :
    Plan.between desired observed = .ok [] ∧ observed.length = desired.length := by
  unfold verdict at h
  split at h
  · cases h
  · next changes hbetween =>
    split at h
    · next hnone => exact ⟨by rw [hbetween, hnone.2], hnone.1⟩
    · cases h

theorem verdict_eq_ok_iff :
    verdict version desired observed = .ok () ↔ Matches desired observed := by
  constructor
  · intro h
    obtain ⟨hbetween, hlength⟩ := between_of_verdict h
    -- a plan looks only at the last endpoint of each name, but the count leaves no room for others
    have hnames := Plan.nodup_names_of_between hbetween hlength
    exact Plan.matches_of_between hnames hbetween
  · intro h
    unfold verdict
    rw [Plan.between_of_matches h]
    exact if_pos ⟨h.length_eq, rfl⟩

theorem Checks.eq_verdict {s : σ} {events : List Event} {outcome : Except Fault Unit} {s₁ : σ}
    (h : Checks client serviceId version desired s events outcome s₁)
    (hlist : client (.list serviceId version) s = (.ok (some observed), s')) :
    outcome = verdict version desired observed := by
  cases h with
  | unindexed hindex =>
    refine (verdict_of_error ?_).symm
    unfold Plan.between
    rw [hindex]
  | listFailed hfailed =>
    rw [hlist] at hfailed
    cases hfailed
  | unplannable hlist' hplan =>
    rw [hlist] at hlist'
    cases hlist'
    exact (verdict_of_error hplan).symm
  | miscounted hlist' hbetween hlength =>
    rw [hlist] at hlist'
    cases hlist'
    rw [verdict_of_changes hbetween fun hnone => hlength hnone.1, tally_of_length_ne hlength]
  | unconverged hlist' hbetween hlength hne =>
    rw [hlist] at hlist'
    cases hlist'
    rw [verdict_of_changes hbetween fun hnone => hne hnone.2, tally_of_length_eq hlength]
  | passed hlist' hbetween hlength =>
    rw [hlist] at hlist'
    cases hlist'
    unfold verdict
    rw [hbetween]
    exact (if_pos ⟨hlength, rfl⟩).symm

theorem run_of_listing (desired : List Declared) (w : World σ)
    (hlist : client (.list serviceId version) w.remote = (.ok (some observed), s')) :
    (run client serviceId version desired w).1 = verdict version desired observed := by
  obtain ⟨events, hchecks, -⟩ := takes_run client serviceId version desired w
  exact hchecks.eq_verdict hlist

/--
What the outcome of a check says about the endpoints that were listed.
-/
structure Judges (version : Int) (desired : List Declared) (observed : List Stored)
    (outcome : Except Fault Unit) : Prop where
  accepts_iff : outcome = .ok () ↔ Matches desired observed
  -- although a plan looks only at the last endpoint of each name
  distinct : outcome = .ok () → (Stored.names observed).Nodup
  rejects : ∀ changes, Plan.between desired observed = .ok changes → outcome ≠ .ok () →
    outcome = .error (.notConverged version changes (tally desired observed))
  refuses : ∀ e, Plan.between desired observed = .error e → outcome = .error e

/--
A check accepts exactly the endpoints that match the desired ones. It names the changes that all
others need, with the counts if and only if they differ.
-/
theorem judges_run (client : Client σ) (serviceId : Text) (version : Int) (desired : List Declared)
    (w : World σ) {observed : List Stored} {s' : σ}
    (hlist : client (.list serviceId version) w.remote = (.ok (some observed), s')) :
    Judges version desired observed (run client serviceId version desired w).1 := by
  rw [run_of_listing desired w hlist]
  exact {
    accepts_iff := verdict_eq_ok_iff
    distinct := fun h => (verdict_eq_ok_iff.1 h).nodup_names
    rejects := by
      intro changes hbetween hrejected
      apply verdict_of_changes hbetween
      rintro ⟨hlength, rfl⟩
      apply hrejected
      unfold verdict
      rw [hbetween]
      exact if_pos ⟨hlength, rfl⟩
    refuses := fun e h => verdict_of_error h }

/-
An endpoint that is listed twice needs no change, but it is not accepted.
-/
theorem judges_run_of_doubled_listing :
    let d : Declared := { name := "a", credential := "key" }
    let r : Stored := {
      serviceId := "svc-1", version := 1, name := "a", credential := "key"
      formatVersion := some (.int 2) }
    let service := Service.ofEndpoints "svc-1" 1 [r] 1000
    let client := Behavior.client { listingDoubled := true } .unchanged
    (run client "svc-1" 1 [d] { remote := service }).1
        = .error (.notConverged 1 [] ⟨some 1, some 2⟩)
      ∧ ¬Matches [d] [r, r] := by
  intro d r service client
  have hlist : client (.list "svc-1" 1) service = (.ok (some [r, r]), service) := rfl
  have hjudges := judges_run client "svc-1" 1 [d] { remote := service } hlist
  have hrejected : (run client "svc-1" 1 [d] { remote := service }).1 ≠ .ok () := by decide +kernel
  exact ⟨hjudges.rejects [] (by decide +kernel) hrejected,
    fun h => hrejected (hjudges.accepts_iff.2 h)⟩

end Converge.Verify
