import Converge.Proofs.Plan.Matches

/-!
This module contains what it means that a plan is empty. Main statements: what a plan changes is
different in the desired endpoints; endpoints of distinct names need no change if and only if they
are exactly the desired ones, in whatever order either is given; and if no change is needed, then
endpoints that are as many as the desired ones have distinct names.
-/

namespace Converge

open List

/--
Whether two lists of endpoints hold the same under a name.
-/
def Stored.AgreeAt (name : Text) (endpoints endpoints' : List Stored) : Prop :=
  ∀ r : Stored, r.name = name → (r ∈ endpoints ↔ r ∈ endpoints')

namespace Matches

variable {desired desired' : List Declared} {endpoints : List Stored}

theorem exists_mem (h : Matches desired endpoints) {d : Declared} (hd : d ∈ desired) :
    ∃ r ∈ endpoints, r.project = .ok d.filled :=
  mem_map.1 (h.perm.symm.subset (mem_map_of_mem (f := fun d : Declared => Except.ok d.filled) hd))

theorem length_eq (h : Matches desired endpoints) : endpoints.length = desired.length := by
  have hlength := h.perm.length_eq
  rw [length_map, length_map] at hlength
  exact hlength

theorem nodup_names (h : Matches desired endpoints) : (Stored.names endpoints).Nodup :=
  h.perm_names.nodup_iff.2 h.nodup

theorem of_perm (h : Matches desired endpoints) (hperm : desired' ~ desired) :
    Matches desired' endpoints where
  valid := fun d hd => h.valid d (hperm.subset hd)
  nodup := (hperm.map Declared.name).nodup_iff.2 h.nodup
  perm := h.perm.trans (hperm.symm.map _)

end Matches

namespace Plan

variable {desired wanted : List Declared} {observed current : List Stored} {changes : List Change}

theorem updates_go_of_project (hproject : ∀ r ∈ current, ∃ e, r.project = .ok e)
    (ds : List Declared) : ∃ us, updates.go current ds = .ok us := by
  induction ds with
  | nil => exact ⟨[], rfl⟩
  | cons d ds ih =>
    obtain ⟨us, hus⟩ := ih
    unfold updates.go
    split
    · exact ⟨us, hus⟩
    · next r hfind =>
      obtain ⟨e, he⟩ := hproject r (mem_of_find?_eq_some hfind)
      rw [update?_eq_ok_iff.2 ⟨e, he, rfl⟩, hus]
      split
      · next heq => cases heq
      · exact ⟨us, rfl⟩
      · exact ⟨_, rfl⟩

theorem changes_of_project (wanted : List Declared)
    (hproject : ∀ r ∈ current, ∃ e, r.project = .ok e) :
    ∃ changes, Plan.changes wanted current = .ok changes := by
  obtain ⟨us, hus⟩ := updates_go_of_project hproject (sortDeclared wanted)
  unfold Plan.changes updates
  rw [hus]
  exact ⟨_, rfl⟩

/--
Whatever a plan changes is not yet as it is in endpoints that match the desired ones.
-/
theorem not_agreeAt_of_mem {endpoints : List Stored} (hmatches : Matches desired endpoints)
    (hnames : (Stored.names observed).Nodup) (h : between desired observed = .ok changes)
    {c : Change} (hc : c ∈ changes) : ¬Stored.AgreeAt c.name observed endpoints := by
  obtain ⟨wanted, hindex, hchanges⟩ := between_eq_ok_iff.1 h
  rw [latest_of_nodup hnames] at hchanges
  obtain ⟨rfl, -, -⟩ := index_eq_ok_iff.1 hindex
  have hneed := (mem_changes_iff hnames hchanges).1 hc
  intro hagree
  cases c with
  | delete r =>
    obtain ⟨d, hd, hname, -⟩ := hmatches.project_of_mem ((hagree r rfl).1 hneed.1)
    exact hneed.2 _ (mem_map_of_mem hd) hname
  | create d =>
    obtain ⟨d₀, hd₀, rfl⟩ := mem_map.1 hneed.1
    obtain ⟨r, hr, hproject⟩ := hmatches.exists_mem hd₀
    have hname := (Stored.name_of_project hproject).symm
    exact hneed.2 r ((hagree r hname).2 hr) hname
  | update d r fields =>
    obtain ⟨hd, hr, hname, e, he, -, hne⟩ := hneed
    obtain ⟨d₀, hd₀, rfl⟩ := mem_map.1 hd
    obtain ⟨d₁, hd₁, hname', hproject⟩ := hmatches.project_of_mem ((hagree r hname).1 hr)
    rw [he] at hproject
    cases hproject
    exact hne (congrArg _ (inj_on_of_nodup_map hmatches.nodup hd₀ hd₁ (hname'.trans hname).symm))

theorem between_of_matches (h : Matches desired observed) : between desired observed = .ok [] := by
  have hindex : index desired = .ok (desired.map Declared.filled) :=
    index_eq_ok_iff.2 ⟨rfl, h.valid, h.nodup⟩
  have hproject : ∀ r ∈ observed, ∃ e, r.project = .ok e := by
    intro r hr
    obtain ⟨d, -, -, hproject⟩ := h.project_of_mem hr
    exact ⟨_, hproject⟩
  obtain ⟨changes, hchanges⟩ :=
    changes_of_project (desired.map Declared.filled) hproject
  rw [← latest_of_nodup h.nodup_names] at hchanges
  have hbetween := between_eq_ok_iff.2 ⟨_, hindex, hchanges⟩
  have hnone : changes = [] := by
    rw [eq_nil_iff_forall_not_mem]
    intro c hc
    exact not_agreeAt_of_mem h h.nodup_names hbetween hc fun _ _ => .rfl
  rw [hbetween, hnone]

theorem matches_of_between (hnames : (Stored.names observed).Nodup)
    (h : between desired observed = .ok []) : Matches desired observed := by
  obtain ⟨wanted, hindex, hchanges⟩ := between_eq_ok_iff.1 h
  rw [latest_of_nodup hnames] at hchanges
  obtain ⟨rfl, hvalid, hnodup⟩ := index_eq_ok_iff.1 hindex
  -- what is observed is neither deleted nor updated, so it is already what is desired
  have hkept {r : Stored} (hr : r ∈ observed) :
      ∃ d ∈ desired, d.name = r.name ∧ r.project = .ok d.filled := by
    obtain hdelete | ⟨d, hd, hname, hproject | ⟨fields, hupdate⟩⟩ :=
      observed_cases hnames hchanges hr
    · cases hdelete
    · obtain ⟨d₀, hd₀, rfl⟩ := mem_map.1 hd
      exact ⟨d₀, hd₀, hname, hproject⟩
    · cases hupdate
  apply Matches.of_mem_iff hvalid hnodup hnames
  · intro r hr
    obtain ⟨d, hd, -, hproject⟩ := hkept hr
    exact ⟨d, hd, hproject⟩
  · intro d hd
    by_cases hobserved : ∃ r ∈ observed, r.name = d.name
    · obtain ⟨r, hr, hname⟩ := hobserved
      obtain ⟨d', hd', hname', hproject⟩ := hkept hr
      rw [inj_on_of_nodup_map hnodup hd hd' (hname'.trans hname).symm]
      exact ⟨r, hr, hproject⟩
    · have hcreate : .create d.filled ∈ ([] : List Change) := by
        rw [mem_changes_iff hnames hchanges]
        exact ⟨mem_map_of_mem hd, fun r hr hname => hobserved ⟨r, hr, hname⟩⟩
      cases hcreate

theorem between_latest (desired : List Declared) (observed : List Stored) :
    between desired (latest observed) = between desired observed := by
  unfold between
  rw [latest_of_nodup (nodup_names_latest observed)]

theorem nodup_names_of_between (h : between desired observed = .ok [])
    (hlength : observed.length = desired.length) : (Stored.names observed).Nodup := by
  have hmatches : Matches desired (latest observed) := by
    apply matches_of_between (nodup_names_latest observed)
    rw [between_latest, h]
  -- none is hidden by a later one of its name, or there would be too few
  have hlatest := (sublist_latest observed).eq_of_length (hmatches.length_eq.trans hlength.symm)
  rw [← hlatest]
  exact hmatches.nodup_names

end Plan

end Converge
