import Converge.Proofs.Plan.Empty
import Converge.Proofs.Sync.Course
import Converge.Verify

/-!
This module contains the courses that the check of a version can take with any client. Main
statement: every check takes one of them.
-/

namespace Converge.Verify

open List

variable {σ : Type} {client : Client σ} {serviceId : Text} {version : Int} {desired : List Declared}
  {s s' : σ} {events : List Event}

/--
How a version is checked.
-/
inductive Checks (client : Client σ) (serviceId : Text) (version : Int) (desired : List Declared)
    (s : σ) : List Event → Except Fault Unit → σ → Prop
  | unindexed {e : Fault} :
    Plan.index desired = .error e →
    Checks client serviceId version desired s [] (.error e) s
  | listFailed {f : Failure} {s' : σ} :
    client (.list serviceId version) s = (.error f, s') →
    Checks client serviceId version desired s [.called (.list serviceId version) false]
      (.error (.callFailed (Request.list serviceId version).site (some f))) s'
  | unplannable {listing : Option (List Stored)} {e : Fault} {s' : σ} :
    client (.list serviceId version) s = (.ok listing, s') →
    Plan.ofListing desired listing = .error e →
    Checks client serviceId version desired s [.called (.list serviceId version) true] (.error e) s'
  | miscounted {observed : List Stored} {changes : List Change} {s' : σ} :
    client (.list serviceId version) s = (.ok (some observed), s') →
    Plan.between desired observed = .ok changes → observed.length ≠ desired.length →
    Checks client serviceId version desired s [.called (.list serviceId version) true]
      (.error (.notConverged version changes
        ⟨some (desired.length : Int), some (observed.length : Int)⟩)) s'
  | unconverged {observed : List Stored} {changes : List Change} {s' : σ} :
    client (.list serviceId version) s = (.ok (some observed), s') →
    Plan.between desired observed = .ok changes → observed.length = desired.length → changes ≠ [] →
    Checks client serviceId version desired s [.called (.list serviceId version) true]
      (.error (.notConverged version changes {})) s'
  | passed {observed : List Stored} {s' : σ} :
    client (.list serviceId version) s = (.ok (some observed), s') →
    Plan.between desired observed = .ok [] → observed.length = desired.length →
    Checks client serviceId version desired s [.called (.list serviceId version) true] (.ok ()) s'

theorem Checks.requests_prefix {verdict : Except Fault Unit}
    (h : Checks client serviceId version desired s events verdict s') :
    Event.requests events <+: [.list serviceId version] := by
  cases h with
  | unindexed hindex => exact nil_prefix
  | _ => exact prefix_rfl

theorem takes_run (client : Client σ) (serviceId : Text) (version : Int) (desired : List Declared)
    (w : World σ) :
    (run client serviceId version desired).Takes w
      (Checks client serviceId version desired w.remote) := by
  unfold run
  cases hindex : Plan.index desired with
  | error e => exact ⟨[], .unindexed hindex, (append_nil _).symm⟩
  | ok expected =>
    have hexpected : expected.length = desired.length := by
      obtain ⟨rfl, -⟩ := Plan.index_eq_ok_iff.1 hindex
      exact length_map _
    apply Run.Takes.bind_lift rfl
    apply Run.Takes.bind_call
    · intro f s hlist
      exact .listFailed hlist
    · intro listing w₁ hlist
      apply (Sync.takes_diff desired listing w₁).bind
      · rintro events e s ⟨rfl, hdiff, rfl⟩
        exact .unplannable hlist hdiff.symm
      · rintro events changes w₂ ⟨rfl, hdiff, hremote⟩
        obtain ⟨observed, rfl, hbetween⟩ := Plan.exists_of_ofListing hdiff.symm
        rw [← hremote] at hlist
        dsimp only [Option.getD_some]
        rw [hexpected]
        split
        · next hlength =>
          apply Run.Takes.bind_log
          exact .fail (.miscounted hlist hbetween (by omega))
        · next hlength =>
          split
          · next hne =>
            apply Run.Takes.bind_log
            exact .fail (.unconverged hlist hbetween (by omega) (by simpa using hne))
          · next hempty =>
            obtain rfl : changes = [] := by simpa using hempty
            exact ⟨[], .passed hlist hbetween (by omega), (append_nil _).symm⟩

end Converge.Verify
