import Converge.Proofs.Plan.Index
import Mathlib.Data.List.Perm.Basic

/-!
This module contains which changes a plan is made of. Main statements: a plan consists of exactly
the changes that the desired and the observed endpoints need, and no two of its changes have the
same name.
-/

namespace Converge

open List

namespace Change

def desired? : Change → Option Declared
  | .create desired => some desired
  | .update desired _ _ => some desired
  | .delete _ => none

end Change

namespace Plan

def Needed (wanted : List Declared) (current : List Stored) : Change → Prop
  | .delete r => r ∈ current ∧ ∀ d ∈ wanted, d.name ≠ r.name
  | .create d => d ∈ wanted ∧ ∀ r ∈ current, r.name ≠ d.name
  | .update d r fields =>
    d ∈ wanted ∧ r ∈ current ∧ r.name = d.name
      ∧ ∃ e, r.project = .ok e ∧ fields = d.changedFields e ∧ d ≠ e

variable {wanted : List Declared} {current : List Stored} {changes us : List Change}

theorem mem_deletes_iff {c : Change} :
    c ∈ deletes wanted current ↔ ∃ r, c = .delete r ∧ Needed wanted current c := by
  simp only [deletes, sortStored, mem_map, mem_mergeSort, mem_filter, Bool.not_eq_true',
    any_eq_false, decide_eq_true_eq]
  constructor
  · rintro ⟨r, ⟨hr, hnone⟩, rfl⟩
    exact ⟨r, rfl, hr, hnone⟩
  · rintro ⟨r, rfl, hr, hnone⟩
    exact ⟨r, ⟨hr, hnone⟩, rfl⟩

theorem mem_creates_iff {c : Change} :
    c ∈ creates wanted current ↔ ∃ d, c = .create d ∧ Needed wanted current c := by
  simp only [creates, sortDeclared, mem_map, mem_mergeSort, mem_filter, Bool.not_eq_true',
    any_eq_false, decide_eq_true_eq]
  constructor
  · rintro ⟨d, ⟨hd, hnone⟩, rfl⟩
    exact ⟨d, rfl, hd, hnone⟩
  · rintro ⟨d, rfl, hd, hnone⟩
    exact ⟨d, ⟨hd, hnone⟩, rfl⟩

theorem update?_eq_ok_iff {d : Declared} {r : Stored} {c? : Option Change} :
    update? d r = .ok c? ↔
      ∃ e, r.project = .ok e
        ∧ (if d = e then none else some (.update d r (d.changedFields e))) = c? := by
  unfold update?
  cases hr : r.project with
  | error e => simp
  | ok e =>
    have hnil := Declared.changedFields_eq_nil_iff (a := d) (b := e)
    dsimp only
    split
    · next hfields =>
      simp [hnil.1 hfields]
    · next hfields =>
      have hne : d ≠ e := fun h => hfields (hnil.2 h)
      simp [hne]

theorem find?_name_eq_some_iff (hc : (current.map Stored.name).Nodup) {name : Text} {r : Stored} :
    current.find? (·.name = name) = some r ↔ r ∈ current ∧ r.name = name := by
  constructor
  · intro h
    exact ⟨mem_of_find?_eq_some h, by simpa using find?_some h⟩
  · rintro ⟨hr, rfl⟩
    cases hfind : current.find? (·.name = r.name) with
    | none =>
      rw [find?_eq_none] at hfind
      have := hfind r hr
      simp at this
    | some q =>
      have hname : q.name = r.name := by simpa using find?_some hfind
      rw [inj_on_of_nodup_map hc (mem_of_find?_eq_some hfind) hr hname]

theorem updates_go_cons {d : Declared} {ds : List Declared}
    (h : updates.go current (d :: ds) = .ok us) :
    ∃ rest, updates.go current ds = .ok rest
      ∧ ((current.find? (·.name = d.name) = none ∧ us = rest)
        ∨ ∃ r e, current.find? (·.name = d.name) = some r ∧ r.project = .ok e
          ∧ us = if d = e then rest else .update d r (d.changedFields e) :: rest) := by
  unfold updates.go at h
  split at h
  · next hfind => exact ⟨us, h, .inl ⟨hfind, rfl⟩⟩
  · next r hfind =>
    cases hupdate : update? d r with
    | error e =>
      rw [hupdate] at h
      cases h
    | ok c? =>
      rw [hupdate] at h
      obtain ⟨e, hproject, rfl⟩ := update?_eq_ok_iff.1 hupdate
      by_cases hde : d = e
      · rw [if_pos hde] at h
        refine ⟨us, h, .inr ⟨r, e, hfind, hproject, ?_⟩⟩
        rw [if_pos hde]
      · rw [if_neg hde] at h
        cases hrest : updates.go current ds with
        | error e =>
          rw [hrest] at h
          cases h
        | ok rest =>
          rw [hrest] at h
          cases h
          refine ⟨rest, rfl, .inr ⟨r, e, hfind, hproject, ?_⟩⟩
          rw [if_neg hde]

theorem sublist_updates_go_names {ds : List Declared} (h : updates.go current ds = .ok us) :
    us.map Change.name <+ ds.map Declared.name := by
  induction ds generalizing us with
  | nil =>
    cases h
    exact Sublist.refl _
  | cons d ds ih =>
    rw [map_cons]
    obtain ⟨rest, hrest, ⟨-, rfl⟩ | ⟨r, e, -, -, rfl⟩⟩ := updates_go_cons h
    · exact (ih hrest).cons d.name
    · split
      · exact (ih hrest).cons d.name
      · exact (ih hrest).cons_cons d.name

theorem project_of_updates_go (hc : (current.map Stored.name).Nodup) {ds : List Declared}
    (h : updates.go current ds = .ok us) {d : Declared} (hd : d ∈ ds) {r : Stored}
    (hr : r ∈ current) (hname : r.name = d.name) : ∃ e, r.project = .ok e := by
  induction ds generalizing us with
  | nil => cases hd
  | cons d' ds ih =>
    obtain ⟨rest, hrest, hfirst⟩ := updates_go_cons h
    obtain rfl | hd := mem_cons.1 hd
    · have hfind := (find?_name_eq_some_iff hc).2 ⟨hr, hname⟩
      obtain ⟨hnone, -⟩ | ⟨q, e, hsome, hproject, -⟩ := hfirst
      · rw [hfind] at hnone
        cases hnone
      · rw [hfind] at hsome
        cases hsome
        exact ⟨e, hproject⟩
    · exact ih hrest hd

theorem mem_updates_go_iff (hc : (current.map Stored.name).Nodup) {ds : List Declared}
    (h : updates.go current ds = .ok us) {c : Change} :
    c ∈ us ↔ ∃ d ∈ ds, ∃ r ∈ current, r.name = d.name
      ∧ ∃ e, r.project = .ok e ∧ d ≠ e ∧ c = .update d r (d.changedFields e) := by
  induction ds generalizing us with
  | nil =>
    cases h
    simp
  | cons d ds ih =>
    rw [exists_mem_cons_iff]
    obtain ⟨rest, hrest, ⟨hfind, rfl⟩ | ⟨r, e, hfind, hproject, rfl⟩⟩ := updates_go_cons h
    · rw [ih hrest]
      constructor
      · exact .inr
      · rintro (⟨r, hr, hname, -⟩ | hmem)
        · rw [(find?_name_eq_some_iff hc).2 ⟨hr, hname⟩] at hfind
          cases hfind
        · exact hmem
    · rw [← ih hrest]
      have hfirst : (∃ q ∈ current, q.name = d.name ∧ ∃ e, q.project = .ok e ∧ d ≠ e
          ∧ c = .update d q (d.changedFields e)) ↔ d ≠ e ∧ c = .update d r (d.changedFields e) := by
        constructor
        · rintro ⟨q, hq, hname, e', hproject', hne, rfl⟩
          rw [(find?_name_eq_some_iff hc).2 ⟨hq, hname⟩] at hfind
          cases hfind
          rw [hproject] at hproject'
          cases hproject'
          exact ⟨hne, rfl⟩
        · rintro ⟨hne, rfl⟩
          obtain ⟨hr, hname⟩ := (find?_name_eq_some_iff hc).1 hfind
          exact ⟨r, hr, hname, e, hproject, hne, rfl⟩
      rw [hfirst]
      split
      · next heq => simp [heq]
      · next hne => simp [hne]

theorem mem_sortDeclared {d : Declared} : d ∈ sortDeclared wanted ↔ d ∈ wanted :=
  mem_mergeSort

theorem perm_sortDeclared (wanted : List Declared) : sortDeclared wanted ~ wanted :=
  mergeSort_perm wanted _

theorem perm_sortStored (current : List Stored) : sortStored current ~ current :=
  mergeSort_perm current _

theorem changes_eq_ok (h : Plan.changes wanted current = .ok changes) :
    ∃ us, updates.go current (sortDeclared wanted) = .ok us
      ∧ changes = deletes wanted current ++ creates wanted current ++ us := by
  unfold Plan.changes updates at h
  cases hus : updates.go current (sortDeclared wanted) with
  | error e =>
    rw [hus] at h
    cases h
  | ok us =>
    rw [hus] at h
    cases h
    exact ⟨us, rfl, rfl⟩

/--
A plan consists of exactly the changes that are needed.
-/
theorem mem_changes_iff (hc : (current.map Stored.name).Nodup)
    (h : Plan.changes wanted current = .ok changes) {c : Change} :
    c ∈ changes ↔ Needed wanted current c := by
  obtain ⟨us, hus, rfl⟩ := changes_eq_ok h
  rw [mem_append, mem_append, mem_deletes_iff, mem_creates_iff, mem_updates_go_iff hc hus]
  cases c with
  | delete r => simp
  | create d => simp
  | update d r fields =>
    simp only [reduceCtorEq, false_and, exists_false, false_or, Needed, mem_sortDeclared]
    constructor
    · rintro ⟨d', hd, r', hr, hname, e, hproject, hne, heq⟩
      cases heq
      exact ⟨hd, hr, hname, e, hproject, rfl, hne⟩
    · rintro ⟨hd, hr, hname, e, hproject, rfl, hne⟩
      exact ⟨d, hd, r, hr, hname, e, hproject, hne, rfl⟩

theorem project_of_changes (hc : (current.map Stored.name).Nodup)
    (h : Plan.changes wanted current = .ok changes) {d : Declared} (hd : d ∈ wanted) {r : Stored}
    (hr : r ∈ current) (hname : r.name = d.name) : ∃ e, r.project = .ok e := by
  obtain ⟨us, hus, -⟩ := changes_eq_ok h
  exact project_of_updates_go hc hus (mem_sortDeclared.2 hd) hr hname

theorem refusal_of_updates_go {ds : List Declared} {e : Fault}
    (h : updates.go current ds = .error e) : Refusal e := by
  induction ds with
  | nil => cases h
  | cons d ds ih =>
    unfold updates.go at h
    split at h
    · exact ih h
    · next r hfind =>
      cases hproject : r.project with
      | error e' =>
        simp only [update?, hproject] at h
        cases h
        exact Stored.refusal_of_project hproject
      | ok seen =>
        cases hupdate : update? d r with
        | error e' =>
          unfold update? at hupdate
          rw [hproject] at hupdate
          dsimp only at hupdate
          split at hupdate <;> cases hupdate
        | ok c? =>
          rw [hupdate] at h
          cases c? with
          | none => exact ih h
          | some c =>
            cases hrest : updates.go current ds with
            | error e' =>
              rw [hrest] at h
              cases h
              exact ih hrest
            | ok us =>
              rw [hrest] at h
              cases h

theorem refusal_of_between {desired : List Declared} {observed : List Stored} {e : Fault}
    (h : between desired observed = .error e) : Refusal e := by
  unfold between at h
  cases hindex : index desired with
  | error e' =>
    rw [hindex] at h
    cases h
    exact refusal_of_index_go hindex
  | ok wanted =>
    rw [hindex] at h
    dsimp only at h
    unfold Plan.changes updates at h
    cases hus : updates.go (latest observed) (sortDeclared wanted) with
    | error e' =>
      rw [hus] at h
      cases h
      exact refusal_of_updates_go hus
    | ok us =>
      rw [hus] at h
      cases h

theorem nodup_deletes_names (hc : (current.map Stored.name).Nodup) :
    ((deletes wanted current).map Change.name).Nodup := by
  unfold deletes
  rw [map_map]
  have hperm :=
    (perm_sortStored (current.filter fun r => !wanted.any (·.name = r.name))).map Stored.name
  exact hperm.nodup_iff.2 (hc.sublist (filter_sublist.map Stored.name))

theorem nodup_creates_names (hw : (wanted.map Declared.name).Nodup) :
    ((creates wanted current).map Change.name).Nodup := by
  unfold creates
  rw [map_map]
  have hperm :=
    (perm_sortDeclared (wanted.filter fun d => !current.any (·.name = d.name))).map Declared.name
  exact hperm.nodup_iff.2 (hw.sublist (filter_sublist.map Declared.name))

theorem nodup_changes_names (hw : (wanted.map Declared.name).Nodup)
    (hc : (current.map Stored.name).Nodup) (h : Plan.changes wanted current = .ok changes) :
    (changes.map Change.name).Nodup := by
  obtain ⟨us, hus, rfl⟩ := changes_eq_ok h
  have hupdates : (us.map Change.name).Nodup := by
    apply Nodup.sublist (sublist_updates_go_names hus)
    exact ((perm_sortDeclared wanted).map Declared.name).nodup_iff.2 hw
  rw [map_append, map_append]
  apply Nodup.append
  · apply Nodup.append (nodup_deletes_names hc) (nodup_creates_names hw)
    intro name hdelete hcreate
    obtain ⟨c, hc₁, rfl⟩ := mem_map.1 hdelete
    obtain ⟨c', hc₂, hname⟩ := mem_map.1 hcreate
    obtain ⟨r, rfl, hr, -⟩ := mem_deletes_iff.1 hc₁
    obtain ⟨d, rfl, -, hnone⟩ := mem_creates_iff.1 hc₂
    exact hnone r hr hname.symm
  · exact hupdates
  · intro name hfront hupdate
    obtain ⟨c, hmem, rfl⟩ := mem_map.1 hupdate
    obtain ⟨d, hd, r, hr, hname, e, -, -, rfl⟩ := (mem_updates_go_iff hc hus).1 hmem
    rw [mem_append] at hfront
    obtain hdelete | hcreate := hfront
    · obtain ⟨c', hc₁, hname'⟩ := mem_map.1 hdelete
      obtain ⟨q, rfl, -, hnone⟩ := mem_deletes_iff.1 hc₁
      exact hnone d (mem_sortDeclared.1 hd) hname'.symm
    · obtain ⟨c', hc₂, hname'⟩ := mem_map.1 hcreate
      obtain ⟨d', rfl, -, hnone⟩ := mem_creates_iff.1 hc₂
      exact hnone r hr (hname.trans hname'.symm)

end Plan

end Converge
