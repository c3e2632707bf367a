import Converge.Proofs.Remote.Overwrite
import Converge.Proofs.Sync.Remains

/-!
This module contains what a convergence does not depend on. Main statement: it makes no difference
to a convergence what the versions of a service hold that are not active.
-/

namespace Converge

open List

namespace Sync

variable {store : Storage} {numbers : List Int} {endpoints : Int → List Stored}
  {signal? : Option (Signal Service)} {serviceId : Text}

def Overlooks (numbers : List Int) (endpoints : Int → List Stored)
    (signal? : Option (Signal Service)) : Prop :=
  ∀ signal, signal? = some signal →
    ∀ n w, signal n (w.mapRemote (·.overwrite numbers endpoints)) = signal n w

theorem commutes_call {r : Request} {w : World Service}
    (hversion : ∀ n, r.version? = some n → n ∉ numbers) (hclone : r.operation ≠ .clone) :
    (Run.call (Service.client store) r).Commutes (·.overwrite numbers endpoints) w :=
  .call (Service.client_overwrite hversion fun h => absurd h hclone)

theorem commutes_applyChange {version : Int} (hversion : version ∉ numbers) (c : Change)
    (w : World Service) :
    (applyChange (Service.client store) serviceId version c).Commutes
      (·.overwrite numbers endpoints) w := by
  have hcall {r : Request} (hr : r.version? = some version) (hclone : r.operation ≠ .clone)
      (w : World Service) :
      (Run.call (Service.client store) r).Commutes (·.overwrite numbers endpoints) w := by
    apply commutes_call _ hclone
    intro n hn
    rw [hr] at hn
    cases hn
    exact hversion
  cases c with
  | delete r => exact hcall rfl (by simp [Request.operation]) w
  | create d =>
    apply Run.Commutes.bind (.lift _)
    intro d' w' _
    exact (hcall rfl (by simp [Request.operation]) w').bind fun _ _ _ => .pure ()
  | update d r fields =>
    apply Run.Commutes.bind (.lift _)
    intro d' w' _
    exact (hcall rfl (by simp [Request.operation]) w').bind fun _ _ _ => .pure ()

theorem number_of_live_markDirty {draft draft' : Version} {w w' : World Service}
    (h : (live draft.markDirty : Run Service Version) w = (.ok draft', w')) :
    draft'.number = draft.number := by
  unfold live Run.lift at h
  cases hdirty : draft.markDirty with
  | error e =>
    rw [hdirty] at h
    cases h
  | ok dirty =>
    rw [hdirty] at h
    cases h
    rw [Version.moveTo_ok hdirty]

theorem commutes_applyAll (hsignal : Overlooks numbers endpoints signal?) (changes : List Change)
    (applied : Nat) {draft : Version} (hdraft : draft.number ∉ numbers) (w : World Service) :
    (applyAll (Service.client store) signal? serviceId applied draft changes).Commutes
      (·.overwrite numbers endpoints) w := by
  induction changes generalizing applied draft w with
  | nil => exact .pure draft
  | cons c rest ih =>
    unfold applyAll
    apply Run.Commutes.bind (.poll _ fun signal h => hsignal signal h _ _)
    intro answer w₁ _
    cases answer with
    | true =>
      rw [if_pos rfl]
      apply Run.Commutes.bind (.log _)
      intro _ w₂ _
      exact .bind (.fail _) fun _ _ h => by cases h
    | false =>
      rw [if_neg Bool.false_ne_true]
      apply Run.Commutes.bind (.lift _)
      intro _ w₂ _
      apply Run.Commutes.bind (.log _)
      intro _ w₃ _
      apply (commutes_applyChange hdraft c w₃).bind
      intro _ w₄ _
      apply Run.Commutes.bind (.lift _)
      intro draft' w₅ hdirty
      apply ih
      rw [number_of_live_markDirty hdirty]
      exact hdraft

theorem number_of_applyAll {changes : List Change} (hchanges : ∀ c ∈ changes, c.Sendable)
    {number : Int} {w w' : World Service} {last : Version}
    (h : applyAll (Service.client store) signal? serviceId 0 { number } changes w = (.ok last, w')) :
    last.number = number := by
  have htakes : (applyAll (Service.client store) signal? serviceId 0 { number } changes).Takes w
      (Applies (Service.client store) signal? serviceId number 0 changes w.remote) :=
    takes_applyAll hchanges 0 { number } rfl w
  obtain ⟨events, happlies, -⟩ := htakes
  rw [h] at happlies
  exact happlies.last_spec.1

theorem commutes_applyPlan (hsignal : Overlooks numbers endpoints signal?) {drift : Drift}
    (hchanges : ∀ c ∈ drift.changes, c.Sendable) (w : World Service)
    (hactive : w.remote.active ∉ numbers) (hnew : w.remote.lastNumber + 1 ∉ numbers) :
    (applyPlan (Service.client store) signal? drift).Commutes
      (·.overwrite numbers endpoints) w := by
  unfold applyPlan
  apply Run.Commutes.bind (.poll _ fun signal h => hsignal signal h _ _)
  intro answer w₁ hpoll
  rw [← Run.remote_of_poll hpoll] at hactive hnew
  cases answer with
  | true =>
    rw [if_pos rfl]
    apply Run.Commutes.bind (.log _)
    intro _ w₂ _
    exact .bind (.fail _) fun _ _ h => by cases h
  | false =>
    rw [if_neg Bool.false_ne_true]
    apply Run.Commutes.bind
    · apply Run.Commutes.call
      exact Service.client_overwrite (fun n hn => by cases hn) fun _ => ⟨hactive, hnew⟩
    · intro cloned w₂ hclone
      obtain ⟨hcloned, -⟩ := (Service.client_clone (Run.remote_of_call hclone)).2 _ rfl
      rw [← hcloned] at hnew
      apply Run.Commutes.bind (.log _)
      intro _ w₃ _
      apply (commutes_applyAll hsignal drift.changes 0 hnew w₃).bind
      intro last w₄ hlast
      rw [number_of_applyAll hchanges hlast]
      apply Run.Commutes.bind (.poll _ fun signal h => hsignal signal h _ _)
      intro answer w₅ _
      cases answer with
      | true =>
        rw [if_pos rfl]
        exact .bind (.fail _) fun _ _ h => by cases h
      | false =>
        rw [if_neg Bool.false_ne_true]
        apply Run.Commutes.bind
        · apply commutes_call
          · intro n hn
            cases hn
            exact hnew
          · simp [Request.operation]
        · intro _ w₆ _
          apply Run.Commutes.bind (.lift _)
          intro _ w₇ _
          exact .bind (.log _) fun _ _ _ => .pure _

theorem commutes_plan (desired : List Declared) (w : World Service)
    (hactive : w.remote.active ∉ numbers) :
    (plan (Service.client store) serviceId desired).Commutes (·.overwrite numbers endpoints) w := by
  unfold plan
  apply Run.Commutes.bind
  · apply commutes_call
    · intro n hn
      cases hn
    · simp [Request.operation]
  · intro active w₁ hcall
    obtain ⟨-, hnumber⟩ := Service.client_activeVersion (Run.remote_of_call hcall)
    rw [hnumber _ rfl]
    apply Run.Commutes.bind
    · apply commutes_call
      · intro n hn
        cases hn
        exact hactive
      · simp [Request.operation]
    · intro listing w₂ _
      apply Run.Commutes.bind
      · unfold diff
        apply Run.Commutes.bind (.lift _)
        intro wanted w₃ _
        cases listing with
        | none => exact .fail _
        | some observed =>
          apply Run.Commutes.bind (.lift _)
          intro changes w₄ _
          exact .bind (.log _) fun _ _ _ => .pure _
      · intro changes w₃ _
        exact .pure _

theorem commutes_checkLimit (count : Int) (limit? : Option Int) (w : World Service) :
    (checkLimit serviceId count limit?).Commutes (·.overwrite numbers endpoints) w := by
  unfold checkLimit
  cases limit? with
  | none => exact .pure ()
  | some limit =>
    dsimp only
    split
    · exact .bind (.log _) fun _ _ _ => .fail _
    · exact .pure ()

/--
It makes no difference to a convergence what inactive versions hold, if it makes none to the signal.
-/
theorem commutes_run (hsignal : Overlooks numbers endpoints signal?) (desired : List Declared)
    (limit? : Option Int) (w : World Service) (hs : w.remote.WellFormed)
    (hactive : w.remote.active ∉ numbers) (hnumbers : ∀ n ∈ numbers, n ∈ w.remote.numbers) :
    (run (Service.client store) serviceId desired signal? limit?).Commutes
      (·.overwrite numbers endpoints) w := by
  have hnew : w.remote.lastNumber + 1 ∉ numbers := fun h => Service.newNumber_notMem (hnumbers _ h)
  unfold run
  apply (commutes_plan desired w hactive).bind
  intro drift w₁ hplan
  obtain ⟨events, hplans, -⟩ := takes_plan (Service.client store) serviceId desired w
  rw [hplan] at hplans
  obtain ⟨hremote, -, -⟩ := hplans.leaves limit? hs
  apply (commutes_checkLimit _ limit? w₁).bind
  intro _ w₂ hadmitted
  unfold carryOut
  split
  · exact .bind (.log _) fun _ _ _ => .pure _
  · rw [← hremote, ← remote_of_checkLimit hadmitted] at hactive hnew
    exact commutes_applyPlan hsignal hplans.sendable.2 w₂ hactive hnew

end Sync

end Converge
