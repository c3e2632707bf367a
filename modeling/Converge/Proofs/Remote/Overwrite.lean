import Converge.Proofs.Remote.Reachable
import Converge.Proofs.Run

/-!
This module contains services some of whose versions are overwritten. Main statement: a call that is
not about such a version, and does not clone one, does not notice and leaves them overwritten.
-/

namespace Converge

open List

namespace HeldVersion

def overwrite (numbers : List Int) (endpoints : Int → List Stored) (v : HeldVersion) :
    HeldVersion :=
  if v.number ∈ numbers then { v with endpoints := endpoints v.number } else v

variable {numbers : List Int} {endpoints : Int → List Stored} {v : HeldVersion}

@[simp]
theorem number_overwrite : (v.overwrite numbers endpoints).number = v.number := by
  unfold overwrite
  split <;> rfl

theorem overwrite_of_notMem (h : v.number ∉ numbers) : v.overwrite numbers endpoints = v :=
  if_neg h

end HeldVersion

namespace Service

def overwrite (numbers : List Int) (endpoints : Int → List Stored) (s : Service) : Service :=
  { s with versions := s.versions.map (·.overwrite numbers endpoints) }

variable {store : Storage} {s : Service} {numbers : List Int} {endpoints : Int → List Stored}
  {n : Int}

theorem version?_overwrite (hn : n ∉ numbers) :
    (s.overwrite numbers endpoints).version? n = s.version? n := by
  unfold version? overwrite
  rw [find?_map]
  have hcomp : (fun v : HeldVersion => decide (v.number = n))
      ∘ HeldVersion.overwrite numbers endpoints = fun v => decide (v.number = n) := by
    funext v
    simp
  rw [hcomp]
  cases hfind : s.versions.find? (fun v => decide (v.number = n)) with
  | none => rfl
  | some v =>
    have hnumber : v.number = n := by simpa using find?_some hfind
    rw [← hnumber] at hn
    rw [Option.map_some, HeldVersion.overwrite_of_notMem hn]

theorem lastNumber_overwrite : (s.overwrite numbers endpoints).lastNumber = s.lastNumber := by
  unfold lastNumber overwrite
  rw [foldl_map]
  simp

theorem activeEndpoints_overwrite (h : s.active ∉ numbers) :
    (s.overwrite numbers endpoints).activeEndpoints = s.activeEndpoints := by
  unfold activeEndpoints
  rw [show (s.overwrite numbers endpoints).active = s.active from rfl, version?_overwrite h]

theorem requireVersion_overwrite (hn : n ∉ numbers) :
    (s.overwrite numbers endpoints).requireVersion n = s.requireVersion n := by
  unfold requireVersion
  rw [version?_overwrite hn]

theorem requireMutable_overwrite (hn : n ∉ numbers) :
    (s.overwrite numbers endpoints).requireMutable n = s.requireMutable n := by
  unfold requireMutable
  rw [requireVersion_overwrite hn]
  rfl

theorem setVersion_overwrite {v : HeldVersion} (h : v.number ∉ numbers) :
    (s.overwrite numbers endpoints).setVersion v
      = (s.setVersion v).overwrite numbers endpoints := by
  unfold setVersion overwrite
  simp only [map_map]
  congr 1
  apply map_congr_left
  intro w _
  simp only [Function.comp_apply, HeldVersion.number_overwrite]
  split
  · rw [HeldVersion.overwrite_of_notMem h]
  · rfl

theorem tick_overwrite :
    (s.overwrite numbers endpoints).tick = s.tick.overwrite numbers endpoints := rfl

theorem countMutation_overwrite :
    (s.overwrite numbers endpoints).countMutation
      = s.countMutation.overwrite numbers endpoints := rfl

theorem stored_overwrite (d : Declared) (createdAt? : Option Timestamp) :
    (s.overwrite numbers endpoints).stored store n d createdAt?
      = s.stored store n d createdAt? := rfl

theorem create_overwrite (hn : n ∉ numbers) (d : Declared) :
    (s.overwrite numbers endpoints).create store n d
      = ((s.create store n d).1, (s.create store n d).2.overwrite numbers endpoints) := by
  unfold Service.create
  rw [requireMutable_overwrite hn]
  cases hrequire : s.requireMutable n with
  | error f => rfl
  | ok v =>
    obtain ⟨-, rfl⟩ := WellFormed.requireMutable_mem hrequire
    dsimp only
    split
    · rfl
    · rw [tick_overwrite, stored_overwrite]
      cases s.tick.stored store v.number d none with
      | error f => rfl
      | ok r =>
        dsimp only
        rw [setVersion_overwrite (v := v.put r) hn, countMutation_overwrite]

theorem update_overwrite (hn : n ∉ numbers) (name : Text) (d : Declared) :
    (s.overwrite numbers endpoints).update store n name d
      = ((s.update store n name d).1, (s.update store n name d).2.overwrite numbers endpoints) := by
  unfold Service.update
  rw [requireMutable_overwrite hn]
  cases hrequire : s.requireMutable n with
  | error f => rfl
  | ok v =>
    obtain ⟨-, rfl⟩ := WellFormed.requireMutable_mem hrequire
    dsimp only
    split
    · rfl
    · next old _ =>
      rw [setVersion_overwrite (v := v.erase name) hn, tick_overwrite, stored_overwrite]
      cases (s.setVersion (v.erase name)).tick.stored store v.number d old.createdAt with
      | error f => rfl
      | ok r =>
        dsimp only
        rw [setVersion_overwrite (v := (v.erase name).put r) hn, countMutation_overwrite]

theorem delete_overwrite (hn : n ∉ numbers) (name : Text) :
    (s.overwrite numbers endpoints).delete n name
      = ((s.delete n name).1, (s.delete n name).2.overwrite numbers endpoints) := by
  unfold Service.delete
  rw [requireMutable_overwrite hn]
  cases hrequire : s.requireMutable n with
  | error f => rfl
  | ok v =>
    obtain ⟨-, rfl⟩ := WellFormed.requireMutable_mem hrequire
    dsimp only
    split
    · rw [setVersion_overwrite (v := v.erase name) hn, countMutation_overwrite]
    · rfl

theorem clone_overwrite (hactive : s.active ∉ numbers) (hnew : s.lastNumber + 1 ∉ numbers) :
    (s.overwrite numbers endpoints).clone
      = (s.clone.1, s.clone.2.overwrite numbers endpoints) := by
  unfold Service.clone
  rw [lastNumber_overwrite, activeEndpoints_overwrite hactive]
  have hroom : (s.overwrite numbers endpoints).maxVersions
      ≤ (s.overwrite numbers endpoints).versions.length ↔ s.maxVersions ≤ s.versions.length := by
    unfold overwrite
    rw [length_map]
  simp only [hroom]
  split
  · rfl
  · simp only [overwrite, map_append, map_singleton, Prod.mk.injEq, true_and]
    rw [HeldVersion.overwrite_of_notMem hnew]

theorem activate_overwrite (hn : n ∉ numbers) :
    (s.overwrite numbers endpoints).activate n
      = ((s.activate n).1, (s.activate n).2.overwrite numbers endpoints) := by
  unfold Service.activate
  rw [requireVersion_overwrite hn]
  cases s.requireVersion n <;> rfl

theorem answer_overwrite {r : Request} (hversion : ∀ n, r.version? = some n → n ∉ numbers)
    (hclone : r.operation = .clone → s.active ∉ numbers ∧ s.lastNumber + 1 ∉ numbers) :
    answer store r (s.overwrite numbers endpoints)
      = ((answer store r s).1, (answer store r s).2.overwrite numbers endpoints) := by
  cases r with
  | activeVersion serviceId => rfl
  | list serviceId n =>
    change (((s.overwrite numbers endpoints).requireVersion n).map _, _) = _
    rw [requireVersion_overwrite (hversion n rfl)]
    rfl
  | create serviceId n d => exact create_overwrite (hversion n rfl) d
  | update serviceId n name d => exact update_overwrite (hversion n rfl) name d
  | delete serviceId n name => exact delete_overwrite (hversion n rfl) name
  | clone serviceId => exact clone_overwrite (hclone rfl).1 (hclone rfl).2
  | activate serviceId n => exact activate_overwrite (hversion n rfl)

/--
A call that is not about an overwritten version, and clones none, does not notice that they are
overwritten.
-/
theorem client_overwrite {r : Request} (hversion : ∀ n, r.version? = some n → n ∉ numbers)
    (hclone : r.operation = .clone → s.active ∉ numbers ∧ s.lastNumber + 1 ∉ numbers) :
    client store r (s.overwrite numbers endpoints)
      = ((client store r s).1, (client store r s).2.overwrite numbers endpoints) := by
  unfold client
  rw [show (s.overwrite numbers endpoints).failure? r = s.failure? r from rfl,
    show (s.overwrite numbers endpoints).serviceId = s.serviceId from rfl]
  cases s.failure? r with
  | some f => rfl
  | none =>
    dsimp only
    split
    · exact answer_overwrite hversion hclone
    · rfl

end Service

end Converge
