import Converge.Sync
import Mathlib.Logic.Function.Basic

/-!
This module contains what it means to rename credentials, and that a plan does not depend on them:
only on which are empty and which are the same. Main statement: the changes between renamed endpoints
are the renamed changes.
-/

namespace Converge

open List

/--
A renaming of credentials. It keeps apart what was apart and keeps empty what was empty.
-/
structure Renaming where
  apply : Text → Text
  injective : Function.Injective apply
  apply_eq_empty_iff : ∀ t, apply t = .empty ↔ t = .empty

def Declared.rename (ρ : Renaming) (d : Declared) : Declared :=
  { d with credential := ρ.apply d.credential }

def Stored.rename (ρ : Renaming) (r : Stored) : Stored :=
  { r with credential := ρ.apply r.credential }

def Change.rename (ρ : Renaming) : Change → Change
  | .create desired => .create (desired.rename ρ)
  | .update desired observed fields => .update (desired.rename ρ) (observed.rename ρ) fields
  | .delete observed => .delete (observed.rename ρ)

def Fault.rename (ρ : Renaming) : Fault → Fault
  -- no other fault holds an endpoint
  | .notConverged version pending tally => .notConverged version (pending.map (·.rename ρ)) tally
  | e => e

namespace Renaming

variable {α β : Type}

@[simp]
theorem isEmpty_apply (ρ : Renaming) (t : Text) : (ρ.apply t).isEmpty = t.isEmpty := by
  rw [Bool.eq_iff_iff, Text.isEmpty_iff, Text.isEmpty_iff, ρ.apply_eq_empty_iff]

/--
The outcome with credentials renamed, where `f` renames those of a value.
-/
def outcome (ρ : Renaming) (f : α → β) : Except Fault α → Except Fault β
  | .ok a => .ok (f a)
  | .error e => .error (e.rename ρ)

end Renaming

namespace Change

@[simp]
theorem kind_rename (ρ : Renaming) (c : Change) : (c.rename ρ).kind = c.kind := by
  cases c <;> rfl

@[simp]
theorem name_rename (ρ : Renaming) (c : Change) : (c.rename ρ).name = c.name := by
  cases c <;> rfl

@[simp]
theorem fields_rename (ρ : Renaming) (c : Change) : (c.rename ρ).fields = c.fields := by
  cases c <;> rfl

@[simp]
theorem count_rename (ρ : Renaming) (changes : List Change) :
    count (changes.map (·.rename ρ)) = count changes := by
  have hkind (kind : ChangeKind) :
      countKind kind (changes.map (·.rename ρ)) = countKind kind changes := by
    unfold countKind
    rw [countP_map]
    congr 1
    funext c
    rw [Function.comp_apply, kind_rename]
  unfold count
  rw [hkind, hkind, hkind]

end Change

namespace Fault

@[simp]
theorem className_rename (ρ : Renaming) (e : Fault) : (e.rename ρ).className = e.className := by
  cases e <;> rfl

@[simp]
theorem message_rename (ρ : Renaming) (e : Fault) : (e.rename ρ).message = e.message := by
  cases e with
  | notConverged version pending tally => simp [rename, message, Function.comp_def]
  | _ => rfl

end Fault

theorem checkRequired_apply (ρ : Renaming) (name credential : Text) :
    checkRequired name (ρ.apply credential) = ρ.outcome id (checkRequired name credential) := by
  unfold checkRequired
  rw [ρ.isEmpty_apply]
  split
  · rfl
  · split <;> rfl

namespace Declared

theorem withDefaults_rename (ρ : Renaming) (d : Declared) :
    (d.rename ρ).withDefaults = ρ.outcome (·.rename ρ) d.withDefaults := by
  unfold withDefaults check rename
  rw [checkRequired_apply]
  cases checkRequired d.name d.credential <;> rfl

theorem place_rename (ρ : Renaming) (d : Declared) (serviceId : Text) (version : Int) :
    (d.rename ρ).place serviceId version = ρ.outcome (·.rename ρ) (d.place serviceId version) := by
  unfold place
  rw [withDefaults_rename]
  cases d.withDefaults <;> rfl

theorem changedFields_rename (ρ : Renaming) (a b : Declared) :
    (a.rename ρ).changedFields (b.rename ρ) = a.changedFields b := by
  unfold changedFields
  congr 1
  funext f
  cases f with
  | credential => simp [agree, rename, ρ.injective.eq_iff]
  | _ => rfl

end Declared

theorem Stored.project_rename (ρ : Renaming) (r : Stored) :
    (r.rename ρ).project = ρ.outcome (·.rename ρ) r.project := by
  unfold project check projectVersion rename
  rw [checkRequired_apply]
  cases checkRequired r.name r.credential with
  | error e => rfl
  | ok =>
    dsimp only [Renaming.outcome, id]
    cases r.formatVersion with
    | none => rfl
    | some v =>
      dsimp only
      cases v.toInt? <;> rfl

theorem Stored.find?_rename (ρ : Renaming) (rs : List Stored) (name : Text) :
    (rs.map (·.rename ρ)).find? (·.name = name)
      = (rs.find? (·.name = name)).map (·.rename ρ) := by
  rw [find?_map]
  rfl

namespace Plan

theorem index_go_rename (ρ : Renaming) (indexed ds : List Declared) :
    index.go (indexed.map (·.rename ρ)) (ds.map (·.rename ρ))
      = ρ.outcome (map (·.rename ρ)) (index.go indexed ds) := by
  induction ds generalizing indexed with
  | nil =>
    unfold index.go
    rw [map_nil, ← map_reverse]
    rfl
  | cons d rest ih =>
    unfold index.go
    rw [map_cons]
    dsimp only
    rw [Declared.withDefaults_rename]
    cases d.withDefaults with
    | error e => rfl
    | ok d =>
      dsimp only [Renaming.outcome]
      rw [any_map]
      change (if indexed.any (·.name = d.name) then _ else _) = _
      split
      · rfl
      · exact ih (d :: indexed)

theorem index_rename (ρ : Renaming) (desired : List Declared) :
    index (desired.map (·.rename ρ)) = ρ.outcome (map (·.rename ρ)) (index desired) :=
  index_go_rename ρ [] desired

theorem latest_rename (ρ : Renaming) (observed : List Stored) :
    latest (observed.map (·.rename ρ)) = (latest observed).map (·.rename ρ) := by
  induction observed with
  | nil => rfl
  | cons r rest ih =>
    unfold latest
    rw [map_cons]
    dsimp only
    rw [any_map, ih]
    change (if rest.any (·.name = r.name) then _ else _) = _
    split <;> rfl

theorem sortDeclared_rename (ρ : Renaming) (ds : List Declared) :
    sortDeclared (ds.map (·.rename ρ)) = (sortDeclared ds).map (·.rename ρ) := by
  unfold sortDeclared
  rw [map_mergeSort]
  intro a _ b _
  rfl

theorem sortStored_rename (ρ : Renaming) (rs : List Stored) :
    sortStored (rs.map (·.rename ρ)) = (sortStored rs).map (·.rename ρ) := by
  unfold sortStored
  rw [map_mergeSort]
  intro a _ b _
  rfl

theorem deletes_rename (ρ : Renaming) (wanted : List Declared) (current : List Stored) :
    deletes (wanted.map (·.rename ρ)) (current.map (·.rename ρ))
      = (deletes wanted current).map (·.rename ρ) := by
  unfold deletes
  rw [filter_map, sortStored_rename, map_map, map_map]
  congr 3
  funext r
  rw [Function.comp_apply, any_map]
  rfl

theorem creates_rename (ρ : Renaming) (wanted : List Declared) (current : List Stored) :
    creates (wanted.map (·.rename ρ)) (current.map (·.rename ρ))
      = (creates wanted current).map (·.rename ρ) := by
  unfold creates
  rw [filter_map, sortDeclared_rename, map_map, map_map]
  congr 3
  funext r
  rw [Function.comp_apply, any_map]
  rfl

theorem update?_rename (ρ : Renaming) (d : Declared) (r : Stored) :
    update? (d.rename ρ) (r.rename ρ)
      = ρ.outcome (Option.map (·.rename ρ)) (update? d r) := by
  unfold update?
  rw [Stored.project_rename]
  cases r.project with
  | error e => rfl
  | ok current =>
    dsimp only [Renaming.outcome]
    rw [Declared.changedFields_rename]
    cases d.changedFields current <;> rfl

theorem updates_go_rename (ρ : Renaming) (current : List Stored) (ds : List Declared) :
    updates.go (current.map (·.rename ρ)) (ds.map (·.rename ρ))
      = ρ.outcome (map (·.rename ρ)) (updates.go current ds) := by
  induction ds with
  | nil => rfl
  | cons d rest ih =>
    unfold updates.go
    rw [map_cons]
    dsimp only
    rw [show (d.rename ρ).name = d.name from rfl, Stored.find?_rename]
    cases current.find? (·.name = d.name) with
    | none => exact ih
    | some r =>
      dsimp only [Option.map_some]
      rw [update?_rename, ih]
      cases update? d r with
      | error e => rfl
      | ok c? =>
        cases c? with
        | none => rfl
        | some c => cases updates.go current rest <;> rfl

/--
The changes between renamed endpoints are the renamed changes.
-/
theorem changes_rename (ρ : Renaming) (wanted : List Declared) (current : List Stored) :
    changes (wanted.map (·.rename ρ)) (current.map (·.rename ρ))
      = ρ.outcome (map (·.rename ρ)) (changes wanted current) := by
  unfold changes updates
  rw [sortDeclared_rename, updates_go_rename, deletes_rename, creates_rename]
  cases updates.go current (sortDeclared wanted) with
  | error e => rfl
  | ok us =>
    dsimp only [Renaming.outcome, Except.map]
    rw [map_append, map_append]

end Plan

theorem Sync.payload_rename (ρ : Renaming) (d : Declared) (serviceId : Text) (version : Int) :
    payload (d.rename ρ) serviceId version
      = ρ.outcome (·.rename ρ) (payload d serviceId version) := by
  unfold payload
  rw [Declared.place_rename]
  cases d.place serviceId version with
  | error e => rfl
  | ok r => exact r.project_rename ρ

end Converge
