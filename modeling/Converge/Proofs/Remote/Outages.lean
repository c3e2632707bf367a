import Converge.Proofs.Remote.Reachable

/-!
This module contains a service that fails now and then, and what becomes of its versions. Main
statement: a call that does not clone or activate, and any call that fails, leaves the service with
the versions that it had and with the same one active.
-/

namespace Converge

open List

namespace Service

variable {store : Storage} {s s₁ s' : Service}

/--
That a service has come to another state with the versions that it had and with the same one active,
whatever has become of their endpoints.
-/
structure SameVersions (s s' : Service) : Prop where
  numbers : s'.numbers = s.numbers
  active : s'.active = s.active

theorem SameVersions.refl (s : Service) : SameVersions s s :=
  ⟨rfl, rfl⟩

theorem SameVersions.trans (h : SameVersions s s₁) (h' : SameVersions s₁ s') :
    SameVersions s s' where
  numbers := h'.numbers.trans h.numbers
  active := h'.active.trans h.active

theorem sameVersions_setVersion (s : Service) (v : HeldVersion) :
    SameVersions s (s.setVersion v) where
  numbers := WellFormed.numbers_setVersion s v
  active := rfl

theorem sameVersions_create (s : Service) (n : Int) (d : Declared) :
    SameVersions s (s.create store n d).2 := by
  unfold create
  split
  · exact .refl s
  · next v _ =>
    split
    · exact .refl s
    · dsimp only
      split
      · exact ⟨rfl, rfl⟩
      · next r _ =>
        have hset := sameVersions_setVersion s.tick (v.put r)
        exact ⟨hset.numbers, hset.active⟩

theorem sameVersions_update (s : Service) (n : Int) (name : Text) (d : Declared) :
    SameVersions s (s.update store n name d).2 := by
  unfold update
  split
  · exact .refl s
  · next v _ =>
    have herase := sameVersions_setVersion s (v.erase name)
    split
    · exact .refl s
    · dsimp only
      split
      · exact ⟨herase.numbers, herase.active⟩
      · next r _ =>
        have hset := sameVersions_setVersion (s.setVersion (v.erase name)).tick
          ((v.erase name).put r)
        exact herase.trans ⟨hset.numbers, hset.active⟩

theorem sameVersions_delete (s : Service) (n : Int) (name : Text) :
    SameVersions s (s.delete n name).2 := by
  unfold delete
  split
  · exact .refl s
  · next v _ =>
    split
    · have hset := sameVersions_setVersion s (v.erase name)
      exact ⟨hset.numbers, hset.active⟩
    · exact .refl s

theorem sameVersions_client {r : Request} {reply : Except Failure r.Reply}
    (h : client store r s = (reply, s'))
    (hkind : r.operation ∉ [Operation.clone, .activate]) : SameVersions s s' := by
  by_cases hblocks : s.Blocks r
  · obtain ⟨f, hcall⟩ := client_of_blocks store hblocks
    cases hcall.symm.trans h
    exact .refl s
  · rw [client_of_not_blocks hblocks] at h
    have hs' : (answer store r s).2 = s' := congrArg Prod.snd h
    rw [← hs']
    cases r with
    | activeVersion serviceId => exact .refl s
    | list serviceId version => exact .refl s
    | create serviceId version d => exact sameVersions_create s version d
    | update serviceId version name d => exact sameVersions_update s version name d
    | delete serviceId version name => exact sameVersions_delete s version name
    | clone serviceId => exact absurd mem_cons_self hkind
    | activate serviceId version => exact absurd (mem_cons_of_mem _ mem_cons_self) hkind

/--
What becomes of the versions of a service when a convergence leaves the given clone behind, if it
leaves one: there is none but the clone that was not there before.
-/
inductive Gains (s : Service) : Option Int → Service → Prop
  | nothing {s' : Service} : SameVersions s s' → Gains s none s'
  | draft {n : Int} {s' : Service} :
    n ∉ s.numbers → s'.numbers = s.numbers ++ [n] → s'.active = s.active → Gains s (some n) s'
  | successor {n : Int} {s' : Service} :
    n ∉ s.numbers → s'.numbers = s.numbers ++ [n] → s'.active = n → Gains s none s'

theorem SameVersions.trans_gains {pending? : Option Int} (h : SameVersions s s₁)
    (h' : Gains s₁ pending? s') : Gains s pending? s' := by
  cases h' with
  | nothing hsame => exact .nothing (h.trans hsame)
  | draft hnew hnumbers hactive =>
    rw [h.numbers] at hnew hnumbers
    exact .draft hnew hnumbers (hactive.trans h.active)
  | successor hnew hnumbers hactive =>
    rw [h.numbers] at hnew hnumbers
    exact .successor hnew hnumbers hactive

theorem Gains.trans_same {pending? : Option Int} (h : Gains s pending? s₁)
    (h' : SameVersions s₁ s') : Gains s pending? s' := by
  cases h with
  | nothing hsame => exact .nothing (hsame.trans h')
  | draft hnew hnumbers hactive =>
    exact .draft hnew (h'.numbers.trans hnumbers) (h'.active.trans hactive)
  | successor hnew hnumbers hactive =>
    exact .successor hnew (h'.numbers.trans hnumbers) (h'.active.trans hactive)

/--
The clone that is left behind is the version that is new and not active.
-/
theorem Gains.eq_some_iff {pending? : Option Int} (h : Gains s pending? s')
    (hs : s.active ∈ s.numbers) {n : Int} :
    pending? = some n ↔ (n ∉ s.numbers ∧ n ∈ s'.numbers) ∧ n ≠ s'.active := by
  cases h with
  | nothing hsame =>
    rw [hsame.numbers]
    simp
  | draft hnew hnumbers hactive =>
    rw [hnumbers, hactive, Option.some_inj, mem_append, mem_singleton]
    constructor
    · rintro rfl
      exact ⟨⟨hnew, .inr rfl⟩, fun heq => hnew (heq ▸ hs)⟩
    · rintro ⟨⟨hn, hmem⟩, -⟩
      exact (hmem.resolve_left hn).symm
  | successor hnew hnumbers hactive =>
    rw [hnumbers, hactive, mem_append, mem_singleton]
    constructor
    · exact nofun
    · rintro ⟨⟨hn, hmem⟩, hne⟩
      exact absurd (hmem.resolve_left hn) hne

theorem Gains.active_eq {n : Int} (h : Gains s (some n) s') : s'.active = s.active := by
  cases h with
  | draft hnew hnumbers hactive => exact hactive

end Service

/--
A service that fails now and then: `outages n` are the failures that its `n`-th call meets, counted
from 0.
-/
structure Unsteady where
  service : Service
  outages : Nat → List ((Operation × Option Text) × Failure)

namespace Unsteady

def client (store : Storage) : Client Unsteady := fun r u =>
  match Service.client store r { u.service with failures := u.outages 0 } with
  | (reply, service) => (reply, { service, outages := fun n => u.outages (n + 1) })

variable {store : Storage} {u u' : Unsteady}

theorem service_of_client {r : Request} {reply : Except Failure r.Reply}
    (h : client store r u = (reply, u')) :
    Service.client store r { u.service with failures := u.outages 0 } = (reply, u'.service) := by
  unfold client at h
  split at h
  next heq =>
    cases h
    exact heq

theorem sameVersions_client {r : Request} {reply : Except Failure r.Reply}
    (h : client store r u = (reply, u')) (hkind : r.operation ∉ [Operation.clone, .activate]) :
    u.service.SameVersions u'.service :=
  have hcall := Service.sameVersions_client (service_of_client h) hkind
  ⟨hcall.numbers, hcall.active⟩

theorem sameVersions_clone {serviceId : Text} {f : Failure}
    (h : client store (.clone serviceId) u = (.error f, u')) :
    u.service.SameVersions u'.service := by
  rw [(Service.client_clone (service_of_client h)).1 f rfl]
  exact ⟨rfl, rfl⟩

theorem gains_clone {serviceId : Text} {n : Int}
    (h : client store (.clone serviceId) u = (.ok n, u')) :
    u.service.Gains (some n) u'.service := by
  obtain ⟨rfl, hservice⟩ := (Service.client_clone (service_of_client h)).2 n rfl
  rw [hservice]
  apply Service.Gains.draft Service.newNumber_notMem
  · unfold Service.numbers Service.withDraft
    rw [map_append, map_singleton]
    rfl
  · rfl

theorem sameVersions_activate {serviceId : Text} {n : Int} {f : Failure}
    (h : client store (.activate serviceId n) u = (.error f, u')) :
    u.service.SameVersions u'.service := by
  rw [(Service.client_activate (service_of_client h)).1 f rfl]
  exact ⟨rfl, rfl⟩

theorem gains_activate {s : Service} {serviceId : Text} {n : Int}
    (hgains : s.Gains (some n) u.service)
    (h : client store (.activate serviceId n) u = (.ok (), u')) : s.Gains none u'.service := by
  rw [(Service.client_activate (service_of_client h)).2 rfl]
  cases hgains with
  | draft hnew hnumbers hactive => exact .successor hnew hnumbers rfl

end Unsteady

end Converge
