import Converge.Proofs.Plan.Canonical
import Mathlib.Data.List.Induction

/-!
This module contains when there is no plan, and why. Main statement: there is none if and only if a
desired endpoint is invalid or takes the name of an earlier one, or the last observed endpoint of a
desired name cannot be read. The first such desired endpoint is reported, else the observed one with
the smallest name; what else is observed is deleted and never in the way.
-/

namespace Converge

open List

theorem checkRequired_eq_error_iff {name credential : Text} {e : Fault} :
    checkRequired name credential = .error e ↔
      (name = .empty ∧ e = .invalidRecord Field.name.label name none)
        ∨ (name ≠ .empty ∧ credential = .empty
          ∧ e = .invalidRecord Field.credential.label name none) := by
  unfold checkRequired
  simp only [Text.isEmpty_iff]
  split
  · next hname =>
    constructor
    · intro h
      cases h
      exact .inl ⟨hname, rfl⟩
    · rintro (⟨-, rfl⟩ | ⟨hne, -⟩)
      · rfl
      · exact absurd hname hne
  · next hname =>
    split
    · next hcredential =>
      constructor
      · intro h
        cases h
        exact .inr ⟨hname, hcredential, rfl⟩
      · rintro (⟨hempty, -⟩ | ⟨-, -, rfl⟩)
        · exact absurd hempty hname
        · rfl
    · next hcredential =>
      constructor
      · intro h
        cases h
      · rintro (⟨hempty, -⟩ | ⟨-, hempty, -⟩)
        · exact absurd hempty hname
        · exact absurd hempty hcredential

namespace Stored

/--
Why an endpoint with a name cannot be read: the first of these that holds.
-/
inductive Unreadable (r : Stored) : Fault → Prop
  | keyless (hcredential : r.credential = .empty) :
    Unreadable r (.invalidRecord Field.credential.label r.name none)
  | misnumbered (v : FormatVersion) (hcredential : r.credential ≠ .empty)
    (hformat : r.formatVersion = some v) (hnumber : v.toInt? = none) :
    Unreadable r (.invalidRecord Field.formatVersion.label r.name
      (some ("not an integer: " ++ v.toValue.literal)))

/--
That no endpoint after this one has its name.
-/
def IsLast (r : Stored) (observed : List Stored) : Prop :=
  ∃ before after, observed = before ++ r :: after ∧ ∀ q ∈ after, q.name ≠ r.name

variable {r : Stored} {observed : List Stored}

theorem project_eq_error_iff (hname : r.name ≠ .empty) {e : Fault} :
    r.project = .error e ↔ r.Unreadable e := by
  unfold project check
  by_cases hcredential : r.credential = .empty
  · have hcheck : checkRequired r.name r.credential
        = .error (.invalidRecord Field.credential.label r.name none) :=
      checkRequired_eq_error_iff.2 (.inr ⟨hname, hcredential, rfl⟩)
    rw [hcheck]
    constructor
    · intro h
      cases h
      exact .keyless hcredential
    · intro h
      cases h with
      | keyless => rfl
      | misnumbered v hne => exact absurd hcredential hne
  · rw [checkRequired_eq_ok_iff.2 ⟨hname, hcredential⟩]
    unfold projectVersion
    constructor
    · intro h
      dsimp only at h
      split at h
      · cases h
      · next v hformat =>
        split at h
        · cases h
        · next hnumber =>
          cases h
          exact .misnumbered v hcredential hformat hnumber
    · intro h
      cases h with
      | keyless hempty => exact absurd hempty hcredential
      | misnumbered v _ hformat hnumber =>
        rw [hformat]
        dsimp only
        rw [hnumber]
        rfl

theorem isLast_cons_iff {q : Stored} :
    r.IsLast (q :: observed) ↔ (r = q ∧ ∀ p ∈ observed, p.name ≠ r.name) ∨ r.IsLast observed := by
  unfold IsLast
  simp only [cons_eq_append_iff]
  constructor
  · rintro ⟨before, after, ⟨rfl, h⟩ | ⟨tail, rfl, rfl⟩, hnone⟩
    · cases h
      exact .inl ⟨rfl, hnone⟩
    · exact .inr ⟨tail, after, rfl, hnone⟩
  · rintro (⟨rfl, hnone⟩ | ⟨before, after, rfl, hnone⟩)
    · exact ⟨[], observed, .inl ⟨rfl, rfl⟩, hnone⟩
    · exact ⟨q :: before, after, .inr ⟨before, rfl, rfl⟩, hnone⟩

theorem mem_latest_iff : r ∈ Plan.latest observed ↔ r.IsLast observed := by
  induction observed with
  | nil => simp [Plan.latest, IsLast]
  | cons q rest ih =>
    unfold Plan.latest
    rw [isLast_cons_iff, ← ih]
    split
    · next hany =>
      simp only [any_eq_true, decide_eq_true_eq] at hany
      obtain ⟨p, hp, hname⟩ := hany
      constructor
      · exact .inr
      · rintro (⟨rfl, hnone⟩ | hmem)
        · exact absurd hname (hnone p hp)
        · exact hmem
    · next hany =>
      simp only [any_eq_true, decide_eq_true_eq, not_exists, not_and] at hany
      rw [mem_cons]
      constructor
      · rintro (rfl | hmem)
        · exact .inl ⟨rfl, hany⟩
        · exact .inr hmem
      · rintro (⟨rfl, -⟩ | hmem)
        · exact .inl rfl
        · exact .inr hmem

end Stored

namespace Plan

variable {desired ds wanted : List Declared} {observed observed' current : List Stored} {e : Fault}

/--
That all desired endpoints can be indexed.
-/
structure Sound (desired : List Declared) : Prop where
  named : ∀ d ∈ desired, d.name ≠ .empty
  authorized : ∀ d ∈ desired, d.credential ≠ .empty
  distinct : (desired.map Declared.name).Nodup

/--
What is wrong with a desired endpoint where some names are taken: the first of these that holds.
-/
inductive Offends (taken : List Text) (d : Declared) : Fault → Prop
  | unnamed (hname : d.name = .empty) :
    Offends taken d (.invalidRecord Field.name.label d.name none)
  | keyless (hname : d.name ≠ .empty) (hcredential : d.credential = .empty) :
    Offends taken d (.invalidRecord Field.credential.label d.name none)
  | repeated (hname : d.name ≠ .empty) (hcredential : d.credential ≠ .empty)
    (htaken : d.name ∈ taken) : Offends taken d (.duplicateName d.name)

theorem index_of_sound (h : Sound desired) : index desired = .ok (desired.map Declared.filled) := by
  refine index_eq_ok_iff.2 ⟨rfl, ?_, h.distinct⟩
  intro d hd
  exact checkRequired_eq_ok_iff.2 ⟨h.named d hd, h.authorized d hd⟩

theorem sound_of_index (h : index desired = .ok wanted) : Sound desired := by
  obtain ⟨-, hvalid, hdistinct⟩ := index_eq_ok_iff.1 h
  exact {
    named := fun d hd => (checkRequired_eq_ok_iff.1 (hvalid d hd)).1
    authorized := fun d hd => (checkRequired_eq_ok_iff.1 (hvalid d hd)).2
    distinct := hdistinct }

theorem index_go_append (indexed ds rest : List Declared) :
    index.go indexed (ds ++ rest) =
      match index.go indexed ds with
      | .ok wanted => index.go wanted.reverse rest
      | .error e => .error e := by
  induction ds generalizing indexed with
  | nil =>
    rw [index.go, nil_append]
    dsimp only
    rw [reverse_reverse]
  | cons d ds ih =>
    rw [cons_append, index.go, index.go]
    cases d.withDefaults with
    | error e => rfl
    | ok d =>
      dsimp only
      split
      · rfl
      · exact ih (d :: indexed)

theorem index_append_of_sound (h : Sound desired) (rest : List Declared) :
    index (desired ++ rest) = index.go (desired.map Declared.filled).reverse rest := by
  unfold index
  rw [index_go_append, ← index, index_of_sound h]

theorem index_go_of_offends {taken : List Text} {indexed : List Declared} {d : Declared}
    (htaken : ∀ name, indexed.any (·.name = name) = true ↔ name ∈ taken) (h : Offends taken d e)
    (rest : List Declared) : index.go indexed (d :: rest) = .error e := by
  unfold index.go Declared.withDefaults Declared.check
  cases h with
  | unnamed hname => rw [checkRequired_eq_error_iff.2 (.inl ⟨hname, rfl⟩)]
  | keyless hname hcredential =>
    rw [checkRequired_eq_error_iff.2 (.inr ⟨hname, hcredential, rfl⟩)]
  | repeated hname hcredential hmem =>
    rw [checkRequired_eq_ok_iff.2 ⟨hname, hcredential⟩]
    dsimp only
    rw [Declared.name_filled, if_pos ((htaken d.name).2 hmem)]

theorem offends_of_index_go {taken : List Text} {indexed : List Declared} {d : Declared}
    (htaken : ∀ name, indexed.any (·.name = name) = true ↔ name ∈ taken)
    (h : index.go indexed [d] = .error e) : Offends taken d e := by
  unfold index.go Declared.withDefaults Declared.check at h
  cases hcheck : checkRequired d.name d.credential with
  | error e' =>
    rw [hcheck] at h
    cases h
    obtain ⟨hname, rfl⟩ | ⟨hname, hcredential, rfl⟩ := checkRequired_eq_error_iff.1 hcheck
    · exact .unnamed hname
    · exact .keyless hname hcredential
  | ok =>
    rw [hcheck] at h
    obtain ⟨hname, hcredential⟩ := checkRequired_eq_ok_iff.1 hcheck
    dsimp only at h
    split at h
    · next hfound =>
      cases h
      exact .repeated hname hcredential ((htaken d.name).1 hfound)
    · cases h

theorem any_name_filled (desired : List Declared) (name : Text) :
    (desired.map Declared.filled).reverse.any (·.name = name) = true
      ↔ name ∈ desired.map Declared.name := by
  simp only [any_reverse, any_map, any_eq_true, Function.comp_apply, decide_eq_true_eq, mem_map]
  rfl

/--
The desired endpoints cannot be indexed if and only if there is a first one that offends.
-/
theorem index_eq_error_iff :
    index desired = .error e ↔
      ∃ earlier d later, desired = earlier ++ d :: later ∧ Sound earlier
        ∧ Offends (earlier.map Declared.name) d e := by
  constructor
  · intro h
    induction desired using List.reverseRecOn with
    | nil => cases h
    | append_singleton ds d ih =>
      cases hds : index ds with
      | error e' =>
        have herror : index (ds ++ [d]) = .error e' := by
          unfold index at hds ⊢
          rw [index_go_append, hds]
        rw [herror] at h
        cases h
        obtain ⟨earlier, d', later, rfl, hsound, hoffends⟩ := ih hds
        exact ⟨earlier, d', later ++ [d], by simp, hsound, hoffends⟩
      | ok wanted =>
        have hsound := sound_of_index hds
        rw [index_append_of_sound hsound] at h
        exact ⟨ds, d, [], rfl, hsound, offends_of_index_go (any_name_filled ds) h⟩
  · rintro ⟨earlier, d, later, rfl, hsound, hoffends⟩
    rw [index_append_of_sound hsound]
    exact index_go_of_offends (any_name_filled earlier) hoffends later

/--
That an observed endpoint keeps a desired one from being compared.
-/
def Blocked (current : List Stored) (d : Declared) (e : Fault) : Prop :=
  ∃ r, current.find? (·.name = d.name) = some r ∧ r.project = .error e

theorem updates_go_of_blocked {d : Declared} (h : Blocked current d e) :
    updates.go current (d :: ds) = .error e := by
  obtain ⟨r, hfind, hproject⟩ := h
  unfold updates.go update?
  rw [hfind]
  dsimp only
  rw [hproject]

theorem updates_go_of_not_blocked {d : Declared} (h : ∀ e, ¬Blocked current d e) :
    updates.go current (d :: ds) = .error e ↔ updates.go current ds = .error e := by
  rw [updates.go]
  cases hfind : current.find? (·.name = d.name) with
  | none => rfl
  | some r =>
    dsimp only
    cases hproject : r.project with
    | error e' => exact absurd ⟨r, hfind, hproject⟩ (h e')
    | ok seen =>
      rw [update?_eq_ok_iff.2 ⟨seen, hproject, rfl⟩]
      split
      · next heq => cases heq
      · rfl
      · cases updates.go current ds <;> simp [Except.map]

theorem updates_go_eq_error_iff :
    updates.go current ds = .error e ↔
      ∃ before d after, ds = before ++ d :: after
        ∧ (∀ b ∈ before, ∀ f, ¬Blocked current b f) ∧ Blocked current d e := by
  induction ds with
  | nil => simp [updates.go]
  | cons d ds ih =>
    simp only [cons_eq_append_iff]
    by_cases hd : ∃ f, Blocked current d f
    · obtain ⟨f, hf⟩ := hd
      rw [updates_go_of_blocked hf]
      constructor
      · intro h
        cases h
        exact ⟨[], d, ds, .inl ⟨rfl, rfl⟩, forall_mem_nil _, hf⟩
      · rintro ⟨before, d', after, ⟨rfl, h⟩ | ⟨tail, rfl, -⟩, hclear, hblocked⟩
        · cases h
          have hgo : updates.go current (d :: ds) = .error e := updates_go_of_blocked hblocked
          rwa [updates_go_of_blocked hf] at hgo
        · exact absurd hf (hclear d mem_cons_self f)
    · rw [not_exists] at hd
      rw [updates_go_of_not_blocked hd, ih]
      constructor
      · rintro ⟨before, d', after, rfl, hclear, hblocked⟩
        exact ⟨d :: before, d', after, .inr ⟨before, rfl, rfl⟩, forall_mem_cons.2 ⟨hd, hclear⟩,
          hblocked⟩
      · rintro ⟨before, d', after, ⟨rfl, h⟩ | ⟨tail, rfl, rfl⟩, hclear, hblocked⟩
        · cases h
          exact absurd hblocked (hd e)
        · exact ⟨tail, d', after, rfl, (forall_mem_cons.1 hclear).2, hblocked⟩

theorem changes_eq_error_iff_updates :
    Plan.changes wanted current = .error e ↔ updates.go current (sortDeclared wanted) = .error e := by
  unfold Plan.changes updates
  cases updates.go current (sortDeclared wanted) <;> simp [Except.map]

/--
That an observed endpoint is in the way of a plan: it is the last of a desired name and unreadable.
-/
structure Obstructs (desired : List Declared) (observed : List Stored) (r : Stored) (e : Fault) :
    Prop where
  last : r.IsLast observed
  mem : r.name ∈ desired.map Declared.name
  unreadable : r.Unreadable e

theorem obstructs_iff_blocked (hsound : Sound desired) {d : Declared}
    (hd : d ∈ desired.map Declared.filled) {r : Stored} (hname : r.name = d.name) :
    Obstructs desired observed r e ↔
      (latest observed).find? (·.name = d.name) = some r ∧ r.project = .error e := by
  obtain ⟨d, hmem, rfl⟩ := mem_map.1 hd
  have hnamed : r.name ≠ .empty := hname ▸ hsound.named d hmem
  rw [find?_name_eq_some_iff (nodup_names_latest observed), Stored.mem_latest_iff,
    Stored.project_eq_error_iff hnamed]
  constructor
  · intro h
    exact ⟨⟨h.last, hname⟩, h.unreadable⟩
  · rintro ⟨⟨hlast, -⟩, hunreadable⟩
    refine ⟨hlast, ?_, hunreadable⟩
    rw [hname, Declared.name_filled]
    exact mem_map_of_mem hmem

theorem changes_eq_error_iff (hsound : Sound desired) :
    Plan.changes (desired.map Declared.filled) (latest observed) = .error e ↔
      ∃ r, Obstructs desired observed r e
        ∧ ∀ q f, Obstructs desired observed q f → r.name ≤ q.name := by
  have hsorted : (sortDeclared (desired.map Declared.filled)).Pairwise fun a b => a.name < b.name :=
    pairwise_sortDeclared (nodup_names_index (index_of_sound hsound))
  have hmem {q : Stored} {f : Fault} (h : Obstructs desired observed q f) :
      ∃ d ∈ sortDeclared (desired.map Declared.filled), q.name = d.name := by
    obtain ⟨d, hd, hname⟩ := mem_map.1 h.mem
    exact ⟨d.filled, mem_sortDeclared.2 (mem_map_of_mem hd), hname.symm⟩
  rw [changes_eq_error_iff_updates, updates_go_eq_error_iff]
  constructor
  · rintro ⟨before, d, after, hsplit, hclear, r, hfind, hproject⟩
    rw [hsplit] at hsorted hmem
    have hname : r.name = d.name := by simpa using find?_some hfind
    have hd : d ∈ desired.map Declared.filled := by
      rw [← mem_sortDeclared, hsplit]
      exact mem_append_right _ mem_cons_self
    refine ⟨r, (obstructs_iff_blocked hsound hd hname).2 ⟨hfind, hproject⟩, ?_⟩
    intro q f hq
    obtain ⟨b, hb, hqname⟩ := hmem hq
    have hbmem : b ∈ desired.map Declared.filled := by rwa [← mem_sortDeclared, hsplit]
    -- no name before that of `d` is blocked, and the others are not smaller
    obtain hb | hb := mem_append.1 hb
    · exact absurd ⟨q, (obstructs_iff_blocked hsound hbmem hqname).1 hq⟩ (hclear b hb f)
    · rw [hname, hqname]
      obtain rfl | hb := mem_cons.1 hb
      · exact Text.le_refl _
      · exact Text.le_of_lt (rel_of_pairwise_cons (pairwise_append.1 hsorted).2.1 hb)
  · rintro ⟨r, hr, hleast⟩
    obtain ⟨d, hd, hname⟩ := hmem hr
    have hdmem := mem_sortDeclared.1 hd
    obtain ⟨before, after, hsplit⟩ := append_of_mem hd
    refine ⟨before, d, after, hsplit, ?_, r, (obstructs_iff_blocked hsound hdmem hname).1 hr⟩
    rintro b hb f ⟨q, hfind, hproject⟩
    have hbmem : b ∈ desired.map Declared.filled := by
      rw [← mem_sortDeclared, hsplit]
      exact mem_append_left _ hb
    have hqname : q.name = b.name := by simpa using find?_some hfind
    have hle := hleast q f ((obstructs_iff_blocked hsound hbmem hqname).2 ⟨hfind, hproject⟩)
    rw [hsplit] at hsorted
    have hlt : b.name < d.name := (pairwise_append.1 hsorted).2.2 b hb d mem_cons_self
    rw [hname, hqname] at hle
    exact Text.not_lt_of_le hle hlt

/--
When there is no plan between endpoints, and why.
-/
theorem between_eq_error_iff :
    between desired observed = .error e ↔
      (∃ earlier d later, desired = earlier ++ d :: later ∧ Sound earlier
        ∧ Offends (earlier.map Declared.name) d e)
      ∨ (Sound desired ∧ ∃ r, Obstructs desired observed r e
        ∧ ∀ q f, Obstructs desired observed q f → r.name ≤ q.name) := by
  rw [← index_eq_error_iff]
  unfold between
  cases hindex : index desired with
  | error e' =>
    rw [Except.error.injEq, Except.error.injEq]
    constructor
    · exact .inl
    · rintro (h | ⟨hsound, -⟩)
      · exact h
      · rw [index_of_sound hsound] at hindex
        cases hindex
  | ok wanted =>
    have hsound := sound_of_index hindex
    rw [index_of_sound hsound] at hindex
    cases hindex
    dsimp only
    rw [changes_eq_error_iff hsound]
    constructor
    · exact fun h => .inr ⟨hsound, h⟩
    · rintro (h | h)
      · cases h
      · exact h.2

theorem Obstructs.congr
    (h : ∀ r : Stored, r.name ∈ desired.map Declared.name → (r.IsLast observed' ↔ r.IsLast observed))
    (r : Stored) (e : Fault) : Obstructs desired observed' r e ↔ Obstructs desired observed r e := by
  constructor
  · exact fun hr => ⟨(h r hr.mem).1 hr.last, hr.mem, hr.unreadable⟩
  · exact fun hr => ⟨(h r hr.mem).2 hr.last, hr.mem, hr.unreadable⟩

theorem delete_mem_iff {changes : List Change} (h : between desired observed = .ok changes)
    {r : Stored} :
    .delete r ∈ changes ↔ r.IsLast observed ∧ r.name ∉ desired.map Declared.name := by
  obtain ⟨wanted, hindex, hchanges⟩ := between_eq_ok_iff.1 h
  rw [mem_changes_iff (nodup_names_latest observed) hchanges, ← Stored.mem_latest_iff,
    ← names_index hindex]
  simp only [Needed, mem_map, not_exists, not_and]

/--
What the outcome of planning says: a fault is that of the first endpoint in the way, and neither
endpoints of other names nor those that a later one hides are ever in the way.
-/
structure Diagnosed (desired : List Declared) (observed : List Stored)
    (outcome : Except Fault (List Change)) : Prop where
  fails_iff : ∀ e, outcome = .error e ↔
    (∃ earlier d later, desired = earlier ++ d :: later ∧ Sound earlier
      ∧ Offends (earlier.map Declared.name) d e)
    ∨ (Sound desired ∧ ∃ r, Obstructs desired observed r e
      ∧ ∀ q f, Obstructs desired observed q f → r.name ≤ q.name)
  deletes_iff : ∀ changes, outcome = .ok changes → ∀ r : Stored,
    .delete r ∈ changes ↔ r.IsLast observed ∧ r.name ∉ desired.map Declared.name
  indifferent : ∀ observed',
    (∀ r : Stored, r.name ∈ desired.map Declared.name → (r.IsLast observed' ↔ r.IsLast observed)) →
    ∀ e, between desired observed' = .error e ↔ outcome = .error e

/--
There is a plan between any endpoints unless a desired one offends or an observed one obstructs it.
-/
theorem diagnosed_between (desired : List Declared) (observed : List Stored) :
    Diagnosed desired observed (between desired observed) where
  fails_iff := fun _ => between_eq_error_iff
  deletes_iff := fun _ h _ => delete_mem_iff h
  indifferent := by
    intro observed' hlast e
    rw [between_eq_error_iff, between_eq_error_iff]
    simp only [Obstructs.congr hlast]

/-
A repeated name with an empty credential is reported for the credential. Of two unreadable endpoints
the one with the smaller name is reported, and that of a name which is not desired is not.
-/
example :
    let d : Declared := { name := "b", credential := "key" }
    let r : Stored := { serviceId := "svc-1", version := 1, name := "b", credential := .empty }
    between [d, { d with credential := .empty }] [r]
        = .error (.invalidRecord "credential" "b" none)
      ∧ between [d, { d with name := "a" }] [r, { r with name := "a" }, { r with name := "A" }]
        = .error (.invalidRecord "credential" "a" none) := by
  intro d r
  let d' : Declared := { d with name := "a" }
  have hsort : sortDeclared [d.filled, d'.filled] = [d'.filled, d.filled] :=
    sortDeclared_eq_of_pairwise (by decide +kernel) (.swap _ _ [])
  constructor
  · decide +kernel
  · change changes [d.filled, d'.filled] [r, { r with name := "a" }, { r with name := "A" }] = _
    rw [changes, updates, hsort]
    decide +kernel

end Plan

end Converge
