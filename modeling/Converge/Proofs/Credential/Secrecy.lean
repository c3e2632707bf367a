import Converge.Proofs.Credential.Mirror
import Converge.Reconcile
import Mathlib.Logic.Equiv.Basic

/-!
This module contains what an onlooker sees of a computation: its log, the calls that it makes, the
changes that it speaks of and the fault that it stops on. Main statement: no credential shows, for if
the credentials are renamed then all of that is as it was.
-/

namespace Converge

open List

variable {α β : Type} {ρ : Renaming}

theorem World.calls_rename (w : World Service) :
    (w.rename ρ).calls = w.calls.map (·.rename ρ) := by
  unfold calls rename
  rw [filterMap_map, map_filterMap]
  congr 1
  funext event
  cases event <;> rfl

/--
What an onlooker sees of a computation. Of an endpoint that is its name, of a change also its kind
and the names of the fields that change, and of a fault its class and its message.
-/
structure Sight where
  log : List Log.Record
  calls : List (Operation × Option Text)
  changes : List (ChangeKind × Text × List Field)
  fault? : Option (Text × Text)

namespace Run

/--
The changes that an outcome speaks of.
-/
def changesOf (changes : α → List Change) : Except Fault α → List Change
  | .ok a => changes a
  | .error (.notConverged _ pending _) => pending
  | .error _ => []

def sight (changes : α → List Change) (x : Run Service α) (w : World Service) : Sight where
  log := (x w).2.log
  calls := (x w).2.calls.map fun r => (r.operation, r.endpoint?)
  changes := (changesOf changes (x w).1).map fun c => (c.kind, c.name, c.fields)
  fault? :=
    match (x w).1 with
    | .ok _ => none
    | .error e => some (e.className, e.message)

/--
The computation followed by the audit records of the changes that it speaks of, if they are wanted.
-/
def audited (audit? : Option (Provenance × Option Int)) (changes : α → List Change)
    (x : Run Service α) : Run Service α :=
  match audit? with
  | none => x
  | some (p, version) => do
    let outcome ← Run.outcome x
    Reconcile.logChanges p version (changesOf changes outcome)
    Run.lift outcome

theorem changesOf_outcome {f : α → β} {changes : α → List Change} {changes' : β → List Change}
    (h : ∀ a, changes' (f a) = (changes a).map (·.rename ρ)) (result : Except Fault α) :
    changesOf changes' (ρ.outcome f result) = (changesOf changes result).map (·.rename ρ) := by
  cases result with
  | ok a => exact h a
  | error e => cases e <;> rfl

namespace Mirrors

variable {f : α → β} {x : Run Service α} {x' : Run Service β} {changes : α → List Change}
  {changes' : β → List Change}

theorem sight_eq (hx : Mirrors ρ f x x') (h : ∀ a, changes' (f a) = (changes a).map (·.rename ρ))
    (w : World Service) : x'.sight changes' (w.rename ρ) = x.sight changes w := by
  unfold sight
  rw [hx w]
  dsimp only
  rw [World.calls_rename, changesOf_outcome h, map_map, map_map]
  congr 1
  · simp [Function.comp_def]
  · simp [Function.comp_def]
  · cases (x w).1 with
    | ok a => rfl
    | error e => simp [Renaming.outcome]

theorem logChanges (p : Provenance) (version : Option Int) (cs : List Change) :
    Mirrors ρ id (Reconcile.logChanges p version cs)
      (Reconcile.logChanges p version (cs.map (·.rename ρ))) := by
  induction cs with
  | nil => exact .pure id ()
  | cons c rest ih =>
    have hrecord : p.changeRecord (c.rename ρ) version = p.changeRecord c version := by
      simp [Provenance.changeRecord]
    rw [map_cons]
    unfold Reconcile.logChanges Provenance.logChange
    rw [hrecord]
    exact .bind (.log _) fun _ => ih

theorem audited (hx : Mirrors ρ f x x') (h : ∀ a, changes' (f a) = (changes a).map (·.rename ρ))
    (audit? : Option (Provenance × Option Int)) :
    Mirrors ρ f (x.audited audit? changes) (x'.audited audit? changes') := by
  cases audit? with
  | none => exact hx
  | some audit =>
    apply hx.outcome.bind
    intro result
    rw [changesOf_outcome h]
    apply (logChanges audit.1 audit.2 _).bind
    intro _
    exact .lift rfl

end Mirrors

end Run

/--
That no credential shows in a computation, whether or not its changes are audited: what an onlooker
sees is the same with credentials renamed.
-/
structure Conceals (ρ : Renaming) (changes : α → List Change) (x x' : Run Service α) : Prop where
  sight_eq : ∀ audit? w,
    (x'.audited audit? changes).sight changes (w.rename ρ)
      = (x.audited audit? changes).sight changes w
  -- so whatever follows begins where only credentials differ
  after_eq : ∀ audit? w,
    (x'.audited audit? changes (w.rename ρ)).2 = (x.audited audit? changes w).2.rename ρ

theorem Run.Mirrors.conceals {f : α → α} {x x' : Run Service α} {changes : α → List Change}
    (hx : Mirrors ρ f x x') (h : ∀ a, changes (f a) = (changes a).map (·.rename ρ)) :
    Conceals ρ changes x x' where
  sight_eq := fun audit? w => (hx.audited h audit?).sight_eq h w
  after_eq := fun audit? w => by rw [hx.audited h audit? w]

/--
No credential shows in a plan, a convergence or the check of a version, whatever the service holds
and whichever of its calls fail, if the signal gives the same answers.
-/
theorem conceals_runs (ρ : Renaming) (store : Storage) (serviceId : Text) (desired : List Declared)
    (limit? : Option Int) (version : Int) {signal? signal'? : Option (Signal Service)}
    (hsignal : Signal.Alike ρ signal? signal'?) :
    let client := Service.client store
    let renamed := desired.map (·.rename ρ)
    Conceals ρ Drift.changes (Sync.plan client serviceId desired)
        (Sync.plan client serviceId renamed)
      ∧ Conceals ρ Synced.changes (Sync.run client serviceId desired signal? limit?)
        (Sync.run client serviceId renamed signal'? limit?)
      ∧ Conceals ρ (fun _ => []) (Verify.run client serviceId version desired)
        (Verify.run client serviceId version renamed) := by
  intro client renamed
  refine ⟨?_, ?_, ?_⟩
  · exact (Sync.mirrors_plan serviceId desired).conceals fun _ => rfl
  · exact (Sync.mirrors_run hsignal serviceId desired limit?).conceals fun _ => rfl
  · exact (Verify.mirrors_run serviceId version desired).conceals fun _ => rfl

def Renaming.swap (a b : Text) (ha : a ≠ .empty) (hb : b ≠ .empty) : Renaming where
  apply := Equiv.swap a b
  injective := (Equiv.swap a b).injective
  apply_eq_empty_iff := by
    intro t
    rw [Equiv.swap_apply_eq_iff, Equiv.swap_apply_of_ne_of_ne ha.symm hb.symm]

/-
A convergence that fails after it has updated a credential does not show which.
-/
theorem conceals_runs_of_failed_activation :
    let ρ := Renaming.swap "old" "new" (by decide) (by decide)
    let r : Stored := { serviceId := "svc-1", version := 1, name := "a", credential := "old" }
    let d : Declared := { name := "a", credential := "new" }
    let service := (Service.ofEndpoints "svc-1" 1 [r] 1000).failOn .activate none (.remote "down")
    let x := Sync.run (Service.client .unchanged) "svc-1" [d] none none
    let x' := Sync.run (Service.client .unchanged) "svc-1" [d.rename ρ] none none
    (d.rename ρ).credential = "old" ∧ (r.rename ρ).credential = "new"
      ∧ x'.sight Synced.changes { remote := service.rename ρ }
        = x.sight Synced.changes { remote := service } := by
  intro ρ r d service x x'
  have hsignal : Signal.Alike ρ none none := trivial
  obtain ⟨-, hsync, -⟩ := conceals_runs ρ .unchanged "svc-1" [d] none 1 hsignal
  exact ⟨by decide +kernel, by decide +kernel, hsync.sight_eq none { remote := service }⟩

end Converge
