import Converge.Plan
import Mathlib.Data.List.Nodup

/-!
This module contains what the index of the desired endpoints and the last observed endpoints hold.
Main statements: an index is made if and only if every desired endpoint is valid and no two share a
name, and the last observed endpoints of each name have distinct names.
-/

namespace Converge

open List

namespace Declared

theorem withDefaults_of_check {d : Declared} (h : d.check = .ok ()) :
    d.withDefaults = .ok d.filled :=
  withDefaults_eq_ok_iff.2 ⟨h, rfl⟩

theorem formatVersion_filled (d : Declared) :
    d.filled.formatVersion = some (d.formatVersion.getD defaultFormatVersion) := rfl

end Declared

inductive Plan.Refusal : Fault → Prop
  -- of a desired endpoint or of one that is listed
  | invalidRecord (field name : Text) (reason? : Option Text) :
    Refusal (.invalidRecord field name reason?)
  | duplicateName (name : Text) : Refusal (.duplicateName name)

theorem refusal_of_checkRequired {name credential : Text} {e : Fault}
    (h : checkRequired name credential = .error e) : Plan.Refusal e := by
  unfold checkRequired at h
  split at h
  · cases h
    exact .invalidRecord _ _ _
  · split at h
    · cases h
      exact .invalidRecord _ _ _
    · cases h

theorem Stored.refusal_of_project {r : Stored} {e : Fault} (h : r.project = .error e) :
    Plan.Refusal e := by
  unfold project projectVersion at h
  split at h
  · next hcheck =>
    cases h
    exact refusal_of_checkRequired hcheck
  · split at h
    · cases h
    · split at h
      · cases h
      · cases h
        exact .invalidRecord _ _ _

namespace Plan

theorem refusal_of_index_go {indexed ds : List Declared} {e : Fault}
    (h : index.go indexed ds = .error e) : Refusal e := by
  induction ds generalizing indexed with
  | nil => cases h
  | cons d rest ih =>
    unfold index.go Declared.withDefaults at h
    cases hd : d.check with
    | error e' =>
      rw [hd] at h
      cases h
      exact refusal_of_checkRequired hd
    | ok =>
      rw [hd] at h
      dsimp only at h
      split at h
      · cases h
        exact .duplicateName _
      · exact ih h

theorem index_go_eq_ok_iff {indexed ds wanted : List Declared} :
    index.go indexed ds = .ok wanted ↔
      wanted = indexed.reverse ++ ds.map Declared.filled
        ∧ (∀ d ∈ ds, d.check = .ok ())
        ∧ (∀ d ∈ ds, ∀ e ∈ indexed, e.name ≠ d.name)
        ∧ (ds.map Declared.name).Nodup := by
  -- `indexed` is what the index holds so far, last first
  induction ds generalizing indexed with
  | nil => simp [index.go, eq_comm]
  | cons d rest ih =>
    unfold index.go
    cases hd : d.check with
    | error e =>
      simp [Declared.withDefaults, hd]
    | ok =>
      rw [Declared.withDefaults_of_check hd]
      dsimp only
      split
      · next hany =>
        rw [any_eq_true] at hany
        obtain ⟨e, he, hname⟩ := hany
        rw [decide_eq_true_eq] at hname
        constructor
        · intro h
          cases h
        · rintro ⟨-, -, hfresh, -⟩
          exact absurd hname (hfresh d mem_cons_self e he)
      · next hany =>
        rw [ih]
        simp only [any_eq_true, not_exists, not_and, Declared.name_filled] at hany
        simp only [reverse_cons, append_assoc, singleton_append, map_cons, mem_cons,
          forall_eq_or_imp, nodup_cons, mem_map, not_exists, not_and, Declared.name_filled, hd, true_and]
        grind

theorem index_eq_ok_iff {desired wanted : List Declared} :
    index desired = .ok wanted ↔
      wanted = desired.map Declared.filled
        ∧ (∀ d ∈ desired, d.check = .ok ())
        ∧ (desired.map Declared.name).Nodup := by
  unfold index
  rw [index_go_eq_ok_iff]
  simp

theorem names_index {desired wanted : List Declared} (h : index desired = .ok wanted) :
    wanted.map Declared.name = desired.map Declared.name := by
  obtain ⟨rfl, -, -⟩ := index_eq_ok_iff.1 h
  rw [map_map]
  rfl

theorem nodup_names_index {desired wanted : List Declared} (h : index desired = .ok wanted) :
    (wanted.map Declared.name).Nodup := by
  rw [names_index h]
  exact (index_eq_ok_iff.1 h).2.2

theorem sublist_latest (observed : List Stored) : latest observed <+ observed := by
  induction observed with
  | nil => exact Sublist.refl _
  | cons r rest ih =>
    unfold latest
    split
    · exact Sublist.cons r ih
    · exact Sublist.cons_cons r ih

theorem nodup_names_latest (observed : List Stored) :
    ((latest observed).map Stored.name).Nodup := by
  induction observed with
  | nil => exact nodup_nil
  | cons r rest ih =>
    unfold latest
    split
    · exact ih
    · next hany =>
      rw [map_cons, nodup_cons]
      refine ⟨?_, ih⟩
      intro hmem
      obtain ⟨q, hq, hname⟩ := mem_map.1 hmem
      apply hany
      rw [any_eq_true]
      exact ⟨q, (sublist_latest rest).subset hq, decide_eq_true hname⟩

theorem latest_of_nodup {observed : List Stored} (h : (observed.map Stored.name).Nodup) :
    latest observed = observed := by
  induction observed with
  | nil => rfl
  | cons r rest ih =>
    rw [map_cons, nodup_cons] at h
    unfold latest
    rw [if_neg, ih h.2]
    intro hany
    rw [any_eq_true] at hany
    obtain ⟨q, hq, hname⟩ := hany
    apply h.1
    rw [← of_decide_eq_true hname]
    exact mem_map_of_mem hq

end Plan

end Converge
