import Converge.Proofs.Remote.Calls

/-!
This module contains the states that a service can come to and what holds in all of them. Main
statement: no two versions have the same number, the active one exists, and no version holds two
endpoints of the same name.
-/

namespace Converge

open List

namespace Service

/--
The states that a service comes to by calls of any kind, with any failures injected between them.
-/
inductive Reachable (store : Storage) : Service → Prop
  | start (serviceId : Text) (active : Int) (endpoints : List Stored) (maxVersions : Nat) :
    Reachable store (ofEndpoints serviceId active endpoints maxVersions)
  | call {s : Service} (r : Request) : Reachable store s → Reachable store (client store r s).2
  | inject {s : Service} (failures : List ((Operation × Option Text) × Failure)) :
    Reachable store s → Reachable store { s with failures }

structure WellFormed (s : Service) : Prop where
  numbers_nodup : s.numbers.Nodup
  active_mem : s.active ∈ s.numbers
  names_nodup : ∀ v ∈ s.versions, (Stored.names v.endpoints).Nodup

variable {store : Storage} {s : Service}

theorem mem_of_version? {n : Int} {v : HeldVersion} (h : s.version? n = some v) :
    v ∈ s.versions ∧ v.number = n := by
  unfold version? at h
  exact ⟨mem_of_find?_eq_some h, by simpa using find?_some h⟩

theorem version?_of_requireMutable {n : Int} {v : HeldVersion} (h : s.requireMutable n = .ok v) :
    s.version? n = some v := by
  unfold requireMutable requireVersion at h
  cases hfind : s.version? n with
  | none =>
    rw [hfind] at h
    cases h
  | some w =>
    rw [hfind] at h
    dsimp only at h
    split at h
    · cases h
    · cases h
      rfl

theorem foldl_max_spec (versions : List HeldVersion) (top : Int) :
    let last := versions.foldl (fun n v => max n v.number) top
    top ≤ last ∧ (∀ v ∈ versions, v.number ≤ last)
      ∧ (last = top ∨ ∃ v ∈ versions, v.number = last) := by
  induction versions generalizing top with
  | nil => simp
  | cons v rest ih =>
    obtain ⟨hstart, hrest, hattained⟩ := ih (max top v.number)
    rw [foldl_cons]
    refine ⟨by omega, ?_, ?_⟩
    · rw [forall_mem_cons]
      exact ⟨by omega, hrest⟩
    · obtain hattained | ⟨w, hw, hattained⟩ := hattained
      · by_cases hle : top ≤ v.number
        · exact .inr ⟨v, mem_cons_self, by omega⟩
        · exact .inl (by omega)
      · exact .inr ⟨w, mem_cons_of_mem v hw, hattained⟩

theorem le_lastNumber {n : Int} (h : n ∈ s.numbers) : n ≤ s.lastNumber := by
  obtain ⟨v, hv, rfl⟩ := mem_map.1 h
  exact (foldl_max_spec s.versions s.active).2.1 v hv

theorem lastNumber_mem (h : s.active ∈ s.numbers) : s.lastNumber ∈ s.numbers := by
  obtain heq | ⟨v, hv, heq⟩ := (foldl_max_spec s.versions s.active).2.2
  · unfold lastNumber
    rw [heq]
    exact h
  · unfold lastNumber
    rw [← heq]
    exact mem_map_of_mem hv

theorem newNumber_notMem : s.lastNumber + 1 ∉ s.numbers := by
  intro h
  have := le_lastNumber h
  omega

theorem newNumber_ne_active (h : s.active ∈ s.numbers) : s.lastNumber + 1 ≠ s.active := by
  have := le_lastNumber h
  omega

end Service

namespace HeldVersion

theorem names_putEndpoint (r : Stored) (endpoints : List Stored) :
    Stored.names (putEndpoint r endpoints)
      = if r.name ∈ Stored.names endpoints then Stored.names endpoints
        else Stored.names endpoints ++ [r.name] := by
  induction endpoints with
  | nil => rfl
  | cons q rest ih =>
    unfold putEndpoint
    simp only [Stored.names, map_cons, mem_cons] at ih ⊢
    by_cases hname : q.name = r.name
    · simp [hname]
    · rw [if_neg hname, map_cons, ih]
      by_cases hmem : r.name ∈ map Stored.name rest
      · simp [hmem]
      · simp [hmem, Ne.symm hname]

theorem nodup_names_put {v : HeldVersion} (h : (Stored.names v.endpoints).Nodup) (r : Stored) :
    (Stored.names (v.put r).endpoints).Nodup := by
  unfold put
  rw [names_putEndpoint]
  split
  · exact h
  · next hmem =>
    rw [← concat_eq_append]
    exact h.concat hmem

theorem nodup_names_erase {v : HeldVersion} (h : (Stored.names v.endpoints).Nodup) (name : Text) :
    (Stored.names (v.erase name).endpoints).Nodup :=
  h.sublist (filter_sublist.map Stored.name)

end HeldVersion

namespace Service

namespace WellFormed

variable {store : Storage} {s : Service}

theorem requireMutable_mem {n : Int} {v : HeldVersion} (h : s.requireMutable n = .ok v) :
    v ∈ s.versions ∧ v.number = n :=
  mem_of_version? (version?_of_requireMutable h)

theorem numbers_setVersion (s : Service) (v : HeldVersion) :
    (s.setVersion v).numbers = s.numbers := by
  unfold setVersion numbers
  rw [map_map]
  apply map_congr_left
  intro w _
  rw [Function.comp_apply]
  split
  · next h => exact h.symm
  · rfl

theorem setVersion (h : WellFormed s) {v : HeldVersion} (hv : (Stored.names v.endpoints).Nodup) :
    WellFormed (s.setVersion v) where
  numbers_nodup := by
    rw [numbers_setVersion]
    exact h.numbers_nodup
  active_mem := by
    rw [numbers_setVersion]
    exact h.active_mem
  names_nodup := by
    intro w hw
    obtain ⟨u, hu, rfl⟩ := mem_map.1 hw
    split
    · exact hv
    · exact h.names_nodup u hu

theorem of_eq (h : WellFormed s) {t : Service} (hversions : t.versions = s.versions)
    (hactive : t.active = s.active) : WellFormed t where
  numbers_nodup := by
    unfold numbers
    rw [hversions]
    exact h.numbers_nodup
  active_mem := by
    unfold numbers
    rw [hversions, hactive]
    exact h.active_mem
  names_nodup := by
    rw [hversions]
    exact h.names_nodup

theorem create (h : WellFormed s) (n : Int) (d : Declared) : WellFormed (s.create store n d).2 := by
  unfold Service.create
  split
  · exact h
  · next v hv =>
    have hnames := h.names_nodup v (requireMutable_mem hv).1
    split
    · exact h
    · dsimp only
      split
      · exact h.of_eq rfl rfl
      · next r _ =>
        have htick : WellFormed s.tick := h.of_eq rfl rfl
        exact (htick.setVersion (HeldVersion.nodup_names_put hnames r)).of_eq rfl rfl

theorem update (h : WellFormed s) (n : Int) (name : Text) (d : Declared) :
    WellFormed (s.update store n name d).2 := by
  unfold Service.update
  split
  · exact h
  · next v hv =>
    have hnames := h.names_nodup v (requireMutable_mem hv).1
    have herase := HeldVersion.nodup_names_erase hnames name
    split
    · exact h
    · dsimp only
      have htick : WellFormed (s.setVersion (v.erase name)).tick :=
        (h.setVersion herase).of_eq rfl rfl
      split
      · exact htick
      · next r _ => exact (htick.setVersion (HeldVersion.nodup_names_put herase r)).of_eq rfl rfl

theorem delete (h : WellFormed s) (n : Int) (name : Text) : WellFormed (s.delete n name).2 := by
  unfold Service.delete
  split
  · exact h
  · next v hv =>
    have hnames := h.names_nodup v (requireMutable_mem hv).1
    split
    · exact (h.setVersion (HeldVersion.nodup_names_erase hnames name)).of_eq rfl rfl
    · exact h

theorem nodup_names_activeEndpoints (h : WellFormed s) :
    (Stored.names s.activeEndpoints).Nodup := by
  unfold activeEndpoints
  cases hfind : s.version? s.active with
  | none => exact nodup_nil
  | some v => exact h.names_nodup v (mem_of_version? hfind).1

theorem withDraft (h : WellFormed s) {number : Int} (hnew : number ∉ s.numbers) {x : Draft}
    (hx : (Stored.names x.endpoints).Nodup) : WellFormed (s.withDraft number x) where
  numbers_nodup := by
    unfold Service.withDraft numbers
    rw [map_append, map_singleton, ← concat_eq_append]
    exact h.numbers_nodup.concat hnew
  active_mem := by
    unfold Service.withDraft numbers
    rw [map_append]
    exact mem_append_left _ h.active_mem
  names_nodup := by
    intro v hv
    obtain hv | hv := mem_append.1 hv
    · exact h.names_nodup v hv
    · rw [mem_singleton] at hv
      rw [hv]
      exact hx

theorem clone (h : WellFormed s) : WellFormed s.clone.2 := by
  unfold Service.clone
  split
  · exact h
  · apply h.withDraft (x := s.newDraft (s.lastNumber + 1)) newNumber_notMem
    unfold newDraft
    rw [Stored.names_map_restamp]
    exact h.nodup_names_activeEndpoints

theorem activate (h : WellFormed s) (n : Int) : WellFormed (s.activate n).2 := by
  unfold Service.activate requireVersion
  cases hfind : s.version? n with
  | none => exact h
  | some v =>
    obtain ⟨hv, rfl⟩ := mem_of_version? hfind
    exact { h with active_mem := mem_map_of_mem hv }

theorem client (h : WellFormed s) (r : Request) : WellFormed (Service.client store r s).2 := by
  unfold Service.client
  split
  · exact h
  · split
    · cases r with
      | activeVersion serviceId => exact h
      | list serviceId version => exact h
      | create serviceId version d => exact h.create version d
      | update serviceId version name d => exact h.update version name d
      | delete serviceId version name => exact h.delete version name
      | clone serviceId => exact h.clone
      | activate serviceId version => exact h.activate version
    · exact h

theorem ofEndpoints (serviceId : Text) (active : Int) (endpoints : List Stored)
    (maxVersions : Nat) :
    WellFormed (Service.ofEndpoints serviceId active endpoints maxVersions) := by
  unfold Service.ofEndpoints
  have hput (endpoints : List Stored) (v : HeldVersion) (hnumber : v.number = active)
      (hv : (Stored.names v.endpoints).Nodup) :
      let held := endpoints.foldl (fun v r => v.put { r with serviceId, version := active }) v
      held.number = active ∧ (Stored.names held.endpoints).Nodup := by
    induction endpoints generalizing v with
    | nil => exact ⟨hnumber, hv⟩
    | cons r rest ih => exact ih _ hnumber (HeldVersion.nodup_names_put hv _)
  obtain ⟨hnumber, hnames⟩ := hput endpoints { number := active } rfl nodup_nil
  constructor
  · exact nodup_singleton _
  · simp [numbers, hnumber]
  · simpa using hnames

end WellFormed

theorem Reachable.wellFormed {store : Storage} {s : Service} (h : Reachable store s) :
    WellFormed s := by
  induction h with
  | start serviceId active endpoints maxVersions =>
    exact .ofEndpoints serviceId active endpoints maxVersions
  | call r _ ih => exact ih.client r
  | inject failures _ ih => exact ih.of_eq rfl rfl

end Service

end Converge
