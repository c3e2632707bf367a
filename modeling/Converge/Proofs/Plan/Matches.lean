import Converge.Proofs.Plan.Needed
import Mathlib.Data.Option.Basic

/-!
This module contains what it means that observed endpoints are exactly the desired ones, and what
the plan between two sets of endpoints says about each name.
-/

namespace Converge

open List

namespace Stored

def names (endpoints : List Stored) : List Text :=
  endpoints.map Stored.name

theorem name_of_project {r : Stored} {d : Declared} (h : r.project = .ok d) : d.name = r.name := by
  unfold project projectVersion at h
  split at h
  · cases h
  · split at h
    · cases h
      rfl
    · split at h
      · cases h
        rfl
      · cases h

def seenName? (x : Except Fault Declared) : Option Text :=
  x.toOption.map Declared.name

theorem nodup_map_project {endpoints : List Stored} (hn : (names endpoints).Nodup)
    (h : ∀ r ∈ endpoints, ∃ d, r.project = .ok d) : (endpoints.map Stored.project).Nodup := by
  apply Nodup.map_on _ (Nodup.of_map Stored.name hn)
  intro r hr q hq heq
  obtain ⟨d, hd⟩ := h r hr
  apply inj_on_of_nodup_map hn hr hq
  rw [← name_of_project hd]
  rw [heq] at hd
  exact name_of_project hd

end Stored

/--
Endpoints that are exactly the desired ones: what their user sees of them are the desired endpoints
with defaults filled in, each once.
-/
structure Matches (desired : List Declared) (endpoints : List Stored) : Prop where
  valid : ∀ d ∈ desired, d.check = .ok ()
  nodup : (desired.map Declared.name).Nodup
  perm : endpoints.map Stored.project ~ desired.map fun d => .ok d.filled

namespace Matches

variable {desired : List Declared} {endpoints : List Stored}

theorem of_mem_iff (hvalid : ∀ d ∈ desired, d.check = .ok ())
    (hnodup : (desired.map Declared.name).Nodup) (hnames : (Stored.names endpoints).Nodup)
    (hsound : ∀ r ∈ endpoints, ∃ d ∈ desired, r.project = .ok d.filled)
    (hcomplete : ∀ d ∈ desired, ∃ r ∈ endpoints, r.project = .ok d.filled) :
    Matches desired endpoints where
  valid := hvalid
  nodup := hnodup
  perm := by
    rw [perm_ext_iff_of_nodup]
    · intro e
      constructor
      · intro h
        obtain ⟨r, hr, rfl⟩ := mem_map.1 h
        obtain ⟨d, hd, hproject⟩ := hsound r hr
        rw [hproject]
        exact mem_map_of_mem hd
      · intro h
        obtain ⟨d, hd, rfl⟩ := mem_map.1 h
        obtain ⟨r, hr, hproject⟩ := hcomplete d hd
        rw [← hproject]
        exact mem_map_of_mem hr
    · apply Stored.nodup_map_project hnames
      intro r hr
      obtain ⟨d, -, hproject⟩ := hsound r hr
      exact ⟨d.filled, hproject⟩
    · apply Nodup.map_on _ (Nodup.of_map Declared.name hnodup)
      intro d hd d' hd' heq
      apply inj_on_of_nodup_map hnodup hd hd'
      rw [← Declared.name_filled d, ← Declared.name_filled d', Except.ok.inj heq]

theorem project_of_mem (h : Matches desired endpoints) {r : Stored} (hr : r ∈ endpoints) :
    ∃ d ∈ desired, d.name = r.name ∧ r.project = .ok d.filled := by
  obtain ⟨d, hd, heq⟩ := mem_map.1 (h.perm.subset (mem_map_of_mem hr))
  refine ⟨d, hd, ?_, heq.symm⟩
  rw [← Declared.name_filled]
  exact Stored.name_of_project heq.symm

theorem perm_names (h : Matches desired endpoints) :
    Stored.names endpoints ~ desired.map Declared.name := by
  have hperm := h.perm.map Stored.seenName?
  rw [map_map, map_map] at hperm
  have hobserved : endpoints.map (Stored.seenName? ∘ Stored.project)
      = (Stored.names endpoints).map some := by
    rw [Stored.names, map_map]
    apply map_congr_left
    intro r hr
    obtain ⟨d, -, hname, hproject⟩ := h.project_of_mem hr
    simp only [Function.comp_apply, hproject, Stored.seenName?, Except.toOption, Option.map_some,
      Declared.name_filled, hname]
  rw [hobserved] at hperm
  apply (map_perm_map_iff (Option.some_injective Text)).1
  rw [map_map]
  exact hperm

end Matches

namespace Plan

variable {desired wanted : List Declared} {observed current : List Stored} {changes : List Change}

theorem between_eq_ok_iff :
    between desired observed = .ok changes ↔
      ∃ wanted, index desired = .ok wanted
        ∧ Plan.changes wanted (latest observed) = .ok changes := by
  unfold between
  cases hindex : index desired with
  | error e => simp
  | ok wanted => simp

theorem mem_wanted_iff (h : index desired = .ok wanted) {d : Declared} :
    d ∈ wanted ↔ ∃ d₀ ∈ desired, d₀.check = .ok () ∧ d₀.filled = d := by
  obtain ⟨rfl, hvalid, -⟩ := index_eq_ok_iff.1 h
  rw [mem_map]
  constructor
  · rintro ⟨d₀, hd₀, rfl⟩
    exact ⟨d₀, hd₀, hvalid d₀ hd₀, rfl⟩
  · rintro ⟨d₀, hd₀, -, rfl⟩
    exact ⟨d₀, hd₀, rfl⟩

theorem mem_wanted_of_desired? (hc : (current.map Stored.name).Nodup)
    (h : Plan.changes wanted current = .ok changes) {c : Change} (hmem : c ∈ changes) {d : Declared}
    (hd : c.desired? = some d) : d ∈ wanted := by
  have hneed := (mem_changes_iff hc h).1 hmem
  cases c with
  | delete r => cases hd
  | create d' =>
    cases hd
    exact hneed.1
  | update d' r fields =>
    cases hd
    exact hneed.1

theorem observed_cases (hc : (current.map Stored.name).Nodup)
    (h : Plan.changes wanted current = .ok changes) {r : Stored} (hr : r ∈ current) :
    .delete r ∈ changes
      ∨ ∃ d ∈ wanted, d.name = r.name
        ∧ (r.project = .ok d ∨ ∃ fields, .update d r fields ∈ changes) := by
  by_cases hwanted : ∃ d ∈ wanted, d.name = r.name
  · right
    obtain ⟨d, hd, hname⟩ := hwanted
    refine ⟨d, hd, hname, ?_⟩
    obtain ⟨e, he⟩ := project_of_changes hc h hd hr hname.symm
    by_cases hde : d = e
    · left
      rw [he, hde]
    · right
      refine ⟨d.changedFields e, (mem_changes_iff hc h).2 ?_⟩
      exact ⟨hd, hr, hname.symm, e, he, rfl, hde⟩
  · left
    rw [mem_changes_iff hc h]
    refine ⟨hr, ?_⟩
    intro d hd hname
    exact hwanted ⟨d, hd, hname⟩

theorem name_ne_of_project (hw : (wanted.map Declared.name).Nodup)
    (hc : (current.map Stored.name).Nodup) (h : Plan.changes wanted current = .ok changes)
    {d : Declared} (hd : d ∈ wanted) {r : Stored} (hr : r ∈ current) (hproject : r.project = .ok d)
    {c : Change} (hmem : c ∈ changes) : r.name ≠ c.name := by
  have hname := Stored.name_of_project hproject
  have hneed := (mem_changes_iff hc h).1 hmem
  intro heq
  -- such a change would delete a desired name, create an observed one, or update nothing
  cases c with
  | delete q =>
    apply hneed.2 d hd
    rw [hname]
    exact heq
  | create d' => exact hneed.2 r hr heq
  | update d' q fields =>
    obtain ⟨hd', hq, hqname, e, he, -, hne⟩ := hneed
    have hqr : q = r := inj_on_of_nodup_map hc hq hr (hqname.trans heq.symm)
    have hdd : d' = d := inj_on_of_nodup_map hw hd' hd (heq.symm.trans hname.symm)
    rw [hqr, hproject] at he
    cases he
    exact hne hdd

theorem exists_project_of_between (h : between desired observed = .ok changes) {d : Declared}
    {r : Stored} (hd : d ∈ desired) (hr : r ∈ latest observed) (hname : d.name = r.name) :
    ∃ e, r.project = .ok e := by
  obtain ⟨wanted, hindex, hchanges⟩ := between_eq_ok_iff.1 h
  have hnames := nodup_names_latest observed
  obtain ⟨rfl, -, -⟩ := index_eq_ok_iff.1 hindex
  exact project_of_changes hnames hchanges (mem_map_of_mem hd) hr hname.symm

end Plan

end Converge
