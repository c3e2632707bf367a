import Converge.Proofs.Plan.Matches
import Mathlib.Data.List.Forall2

/-!
This module contains in which order the changes of a plan are, and on what a plan depends. Main
statement: deletes come before creates and creates before updates, each group is sorted by name, and
plans between endpoints of which their user sees the same make the same changes, whatever order the
endpoints are given in.
-/

namespace Converge

open List

/--
Declared endpoints that say the same. One may leave out the default format version where the other
has it.
-/
structure Declared.Alike (d d' : Declared) : Prop where
  name : d.name = d'.name
  credential : d.credential = d'.credential
  format : d.format = d'.format
  formatVersion :
    d.formatVersion.getD defaultFormatVersion = d'.formatVersion.getD defaultFormatVersion
  placement : d.placement = d'.placement
  responseCondition : d.responseCondition = d'.responseCondition

/--
Stored endpoints of which their user sees the same. What only the service knows may differ, and so
may the form in which it keeps the format version.
-/
structure Stored.Alike (r r' : Stored) : Prop where
  name : r.name = r'.name
  credential : r.credential = r'.credential
  format : r.format = r'.format
  formatVersion : r.formatVersion.map FormatVersion.toInt? = r'.formatVersion.map FormatVersion.toInt?
  placement : r.placement = r'.placement
  responseCondition : r.responseCondition = r'.responseCondition

namespace Declared

variable {d d' : Declared} {ds desired desired' : List Declared}

theorem Alike.check_eq (h : d.Alike d') : d.check = d'.check := by
  unfold check
  rw [h.name, h.credential]

theorem Alike.filled_eq (h : d.Alike d') : d.filled = d'.filled := by
  unfold filled
  rw [h.name, h.credential, h.format, h.formatVersion, h.placement, h.responseCondition]

theorem Alike.map_filled (h : Forall₂ Alike ds desired') :
    ds.map filled = desired'.map filled := by
  induction h with
  | nil => rfl
  | cons h _ ih => rw [map_cons, map_cons, h.filled_eq, ih]

theorem Alike.map_name (h : Forall₂ Alike ds desired') :
    ds.map Declared.name = desired'.map Declared.name := by
  induction h with
  | nil => rfl
  | cons h _ ih => rw [map_cons, map_cons, h.name, ih]

theorem Alike.check_of_forall (h : Forall₂ Alike ds desired') (hvalid : ∀ d ∈ ds, d.check = .ok ()) :
    ∀ d ∈ desired', d.check = .ok () := by
  induction h with
  | nil => exact hvalid
  | cons h _ ih =>
    rw [forall_mem_cons] at hvalid ⊢
    exact ⟨h.check_eq ▸ hvalid.1, ih hvalid.2⟩

end Declared

namespace Stored

variable {r r' : Stored} {rs observed observed' : List Stored}

theorem Alike.project (h : r.Alike r') {e : Declared} (he : r.project = .ok e) :
    r'.project = .ok e := by
  have hversion := h.formatVersion
  unfold Stored.project check projectVersion withVersion at he ⊢
  rw [← h.name, ← h.credential, ← h.format, ← h.placement, ← h.responseCondition]
  cases hv : r.formatVersion with
  | none =>
    cases hv' : r'.formatVersion with
    | none => rwa [hv] at he
    | some v' => simp [hv, hv'] at hversion
  | some v =>
    cases hv' : r'.formatVersion with
    | none => simp [hv, hv'] at hversion
    | some v' =>
      rw [hv, hv', Option.map_some, Option.map_some, Option.some_inj] at hversion
      rw [hv] at he
      dsimp only at he ⊢
      rw [← hversion]
      -- both are unreadable, or both are read as the same number
      cases hn : v.toInt? with
      | none =>
        rw [hn] at he
        split at he <;> cases he
      | some n => rwa [hn] at he

theorem Alike.map_name (h : Forall₂ Alike rs observed') : names rs = names observed' := by
  induction h with
  | nil => rfl
  | cons h _ ih => rw [names, names, map_cons, map_cons, h.name, ← names, ih, names]

theorem Alike.exists_mem (h : Forall₂ Alike rs observed') (hr : r ∈ rs) :
    ∃ r' ∈ observed', r.Alike r' := by
  induction h with
  | nil => cases hr
  | cons h _ ih =>
    obtain rfl | hr := mem_cons.1 hr
    · exact ⟨_, mem_cons_self, h⟩
    · obtain ⟨r', hr', halike⟩ := ih hr
      exact ⟨r', mem_cons_of_mem _ hr', halike⟩

end Stored

/--
What a change is, but for what it replaces.
-/
def Change.outline (c : Change) : ChangeKind × Text × Option Declared × List Field :=
  (c.kind, c.name, c.desired?, c.fields)

namespace Plan

section Sorting

variable {α : Type} (name : α → Text) {as bs : List α}

theorem pairwise_mergeSort_name (h : (as.map name).Nodup) :
    (as.mergeSort fun a b => (name a).ble (name b)).Pairwise fun a b => name a < name b := by
  have hle : (as.mergeSort fun a b => (name a).ble (name b)).Pairwise fun a b => name a ≤ name b := by
    simp only [← Text.ble_iff]
    apply pairwise_mergeSort
    · intro a b c hab hbc
      exact Text.ble_iff.2 (Text.le_trans (Text.ble_iff.1 hab) (Text.ble_iff.1 hbc))
    · intro a b
      rw [Bool.or_eq_true, Text.ble_iff, Text.ble_iff]
      exact Text.le_total _ _
  have hne : (as.mergeSort fun a b => (name a).ble (name b)).Pairwise fun a b => name a ≠ name b :=
    pairwise_map.1 (((mergeSort_perm as _).map name).nodup_iff.2 h)
  exact (hle.and hne).imp fun ⟨hle, hne⟩ => Text.lt_of_le_of_ne hle hne

theorem eq_of_pairwise_name (has : as.Pairwise fun a b => name a < name b)
    (hbs : bs.Pairwise fun a b => name a < name b) (h : as ~ bs) : as = bs := by
  apply Perm.eq_of_pairwise _ has hbs h
  intro a b _ _ hab hba
  exact absurd hba (Text.lt_asymm hab)

end Sorting

variable {desired desired' wanted wanted' : List Declared} {observed observed' current current' :
  List Stored} {changes us : List Change}

theorem pairwise_sortDeclared (h : (wanted.map Declared.name).Nodup) :
    (sortDeclared wanted).Pairwise fun a b => a.name < b.name :=
  pairwise_mergeSort_name Declared.name h

theorem pairwise_sortStored (h : (Stored.names current).Nodup) :
    (sortStored current).Pairwise fun a b => a.name < b.name :=
  pairwise_mergeSort_name Stored.name h

theorem sortDeclared_eq_of_pairwise (h : wanted.Pairwise fun a b => a.name < b.name)
    (hperm : wanted' ~ wanted) : sortDeclared wanted' = wanted := by
  have hnodup : (wanted'.map Declared.name).Nodup := by
    rw [(hperm.map Declared.name).nodup_iff]
    refine pairwise_map.2 (h.imp ?_)
    intro a b hlt heq
    rw [heq] at hlt
    exact Text.lt_asymm hlt hlt
  apply eq_of_pairwise_name Declared.name (pairwise_sortDeclared hnodup) h
  exact (perm_sortDeclared wanted').trans hperm

theorem sortDeclared_eq_of_perm (hw : (wanted.map Declared.name).Nodup) (h : wanted ~ wanted') :
    sortDeclared wanted = sortDeclared wanted' := by
  apply sortDeclared_eq_of_pairwise
  · exact pairwise_sortDeclared ((h.map Declared.name).nodup_iff.1 hw)
  · exact h.trans (perm_sortDeclared wanted').symm

theorem names_sortStored_eq_of_perm (hc : (Stored.names current).Nodup)
    (h : Stored.names current ~ Stored.names current') :
    Stored.names (sortStored current) = Stored.names (sortStored current') := by
  apply eq_of_pairwise_name id
  · exact pairwise_map.2 (pairwise_sortStored hc)
  · exact pairwise_map.2 (pairwise_sortStored (h.nodup_iff.1 hc))
  · have hsort (rs : List Stored) : Stored.names (sortStored rs) ~ Stored.names rs :=
      (perm_sortStored rs).map Stored.name
    exact (hsort current).trans (h.trans (hsort current').symm)

/--
A group of changes of one kind that is sorted by name.
-/
structure Group (kind : ChangeKind) (changes : List Change) : Prop where
  kind_eq : ∀ c ∈ changes, c.kind = kind
  sorted : changes.Pairwise fun a b => a.name < b.name

theorem group_deletes (hc : (Stored.names current).Nodup) :
    Group .delete (deletes wanted current) where
  kind_eq := by
    intro c hmem
    obtain ⟨r, rfl, -⟩ := mem_deletes_iff.1 hmem
    rfl
  sorted := by
    unfold deletes
    rw [pairwise_map]
    exact pairwise_sortStored (hc.sublist (filter_sublist.map Stored.name))

theorem group_creates (hw : (wanted.map Declared.name).Nodup) :
    Group .create (creates wanted current) where
  kind_eq := by
    intro c hmem
    obtain ⟨d, rfl, -⟩ := mem_creates_iff.1 hmem
    rfl
  sorted := by
    unfold creates
    rw [pairwise_map]
    exact pairwise_sortDeclared (hw.sublist (filter_sublist.map Declared.name))

theorem group_updates_go (hc : (Stored.names current).Nodup) (hw : (wanted.map Declared.name).Nodup)
    (h : updates.go current (sortDeclared wanted) = .ok us) : Group .update us where
  kind_eq := by
    intro c hmem
    obtain ⟨d, -, r, -, -, e, -, -, rfl⟩ := (mem_updates_go_iff hc h).1 hmem
    rfl
  sorted := by
    have hsorted : ((sortDeclared wanted).map Declared.name).Pairwise (· < ·) :=
      pairwise_map.2 (pairwise_sortDeclared hw)
    exact pairwise_map.1 (hsorted.sublist (sublist_updates_go_names h))

/--
The order of the changes of a plan: deletes, then creates, then updates. No two are of one name.
-/
structure Ordered (changes : List Change) : Prop where
  groups : ∃ ds cs us, changes = ds ++ cs ++ us
    ∧ Group .delete ds ∧ Group .create cs ∧ Group .update us
  nodup : (changes.map Change.name).Nodup

theorem ordered_changes (hw : (wanted.map Declared.name).Nodup) (hc : (Stored.names current).Nodup)
    (h : Plan.changes wanted current = .ok changes) : Ordered changes where
  groups := by
    obtain ⟨us, hus, rfl⟩ := changes_eq_ok h
    exact ⟨_, _, us, rfl, group_deletes hc, group_creates hw, group_updates_go hc hw hus⟩
  nodup := nodup_changes_names hw hc h

theorem any_name_eq_of_perm (h : Stored.names current ~ Stored.names current') (name : Text) :
    current.any (·.name = name) = current'.any (·.name = name) := by
  rw [Bool.eq_iff_iff]
  have hmem := h.mem_iff (a := name)
  simp only [Stored.names, mem_map] at hmem
  simpa only [any_eq_true, decide_eq_true_eq] using hmem

theorem creates_eq_of_perm (hw : (wanted.map Declared.name).Nodup) (hwanted : wanted ~ wanted')
    (hnames : Stored.names current ~ Stored.names current') :
    creates wanted current = creates wanted' current' := by
  unfold creates
  simp only [any_name_eq_of_perm hnames]
  rw [sortDeclared_eq_of_perm (hw.sublist (filter_sublist.map Declared.name)) (hwanted.filter _)]

theorem outline_deletes (wanted : List Declared) (current : List Stored) :
    (deletes wanted current).map Change.outline
      = (Stored.names (sortStored (current.filter fun r => !wanted.any (·.name = r.name)))).map
        fun name => (.delete, name, none, []) := by
  unfold deletes Stored.names
  rw [map_map, map_map]
  rfl

theorem outline_deletes_eq_of_perm (hc : (Stored.names current).Nodup) (hwanted : wanted ~ wanted')
    (hnames : Stored.names current ~ Stored.names current') :
    (deletes wanted current).map Change.outline = (deletes wanted' current').map Change.outline := by
  have hkept (rs : List Stored) (ds : List Declared) :
      Stored.names (rs.filter fun r => !ds.any (·.name = r.name))
        = (Stored.names rs).filter fun name => !ds.any (·.name = name) := by
    unfold Stored.names
    rw [filter_map]
    rfl
  have hany (name : Text) : wanted.any (·.name = name) = wanted'.any (·.name = name) :=
    hwanted.any_eq
  rw [outline_deletes, outline_deletes]
  congr 1
  apply names_sortStored_eq_of_perm
  · rw [hkept]
    exact hc.filter _
  · rw [hkept, hkept]
    simp only [hany]
    exact hnames.filter _

theorem find?_alike (hc : (Stored.names current).Nodup) {rs : List Stored} (hperm : current ~ rs)
    (halike : Forall₂ Stored.Alike rs current') (name : Text) :
    Option.Rel Stored.Alike (current.find? (·.name = name)) (current'.find? (·.name = name)) := by
  have hnames : Stored.names current ~ Stored.names current' :=
    Stored.Alike.map_name halike ▸ hperm.map Stored.name
  have hc' : (Stored.names current').Nodup := hnames.nodup_iff.1 hc
  cases hfind : current.find? (·.name = name) with
  | none =>
    cases hfind' : current'.find? (·.name = name) with
    | none => exact .none
    | some r' =>
      obtain ⟨hr', rfl⟩ := (find?_name_eq_some_iff hc').1 hfind'
      obtain ⟨r, hr, hname⟩ := mem_map.1 (hnames.mem_iff.2 (mem_map_of_mem hr'))
      rw [(find?_name_eq_some_iff hc).2 ⟨hr, hname⟩] at hfind
      cases hfind
  | some r =>
    obtain ⟨hr, rfl⟩ := (find?_name_eq_some_iff hc).1 hfind
    obtain ⟨r', hr', hrr'⟩ := Stored.Alike.exists_mem halike (hperm.mem_iff.1 hr)
    rw [(find?_name_eq_some_iff hc').2 ⟨hr', hrr'.name.symm⟩]
    exact .some hrr'

theorem outline_updates_go
    (halike : ∀ name, Option.Rel Stored.Alike (current.find? (·.name = name))
      (current'.find? (·.name = name)))
    {ds : List Declared} (h : updates.go current ds = .ok us) :
    ∃ us', updates.go current' ds = .ok us' ∧ us'.map Change.outline = us.map Change.outline := by
  induction ds generalizing us with
  | nil =>
    cases h
    exact ⟨[], rfl, rfl⟩
  | cons d ds ih =>
    obtain ⟨rest, hrest, hfirst⟩ := updates_go_cons h
    obtain ⟨rest', hrest', houtline⟩ := ih hrest
    have hd := halike d.name
    unfold updates.go
    obtain ⟨hfind, rfl⟩ | ⟨r, e, hfind, hproject, rfl⟩ := hfirst
    · rw [hfind] at hd
      cases hd' : current'.find? (·.name = d.name) with
      | none => exact ⟨rest', hrest', houtline⟩
      | some r' =>
        rw [hd'] at hd
        cases hd
    · rw [hfind] at hd
      cases hd' : current'.find? (·.name = d.name) with
      | none =>
        rw [hd'] at hd
        cases hd
      | some r' =>
        rw [hd'] at hd
        cases hd with
        | some hrr' =>
          dsimp only
          rw [update?_eq_ok_iff.2 ⟨e, hrr'.project hproject, rfl⟩, hrest']
          by_cases hde : d = e
          · rw [if_pos hde, if_pos hde]
            exact ⟨rest', rfl, houtline⟩
          · rw [if_neg hde, if_neg hde]
            refine ⟨_, rfl, ?_⟩
            rw [map_cons, map_cons, houtline]
            rfl

theorem changes_of_updates_go (h : updates.go current (sortDeclared wanted) = .ok us) :
    Plan.changes wanted current = .ok (deletes wanted current ++ creates wanted current ++ us) := by
  unfold Plan.changes updates
  rw [h]
  rfl

theorem outline_changes (hw : (wanted.map Declared.name).Nodup) (hc : (Stored.names current).Nodup)
    (hwanted : wanted ~ wanted') {rs : List Stored} (hrs : current ~ rs)
    (halike : Forall₂ Stored.Alike rs current') (h : Plan.changes wanted current = .ok changes) :
    ∃ changes', Plan.changes wanted' current' = .ok changes'
      ∧ changes'.map Change.outline = changes.map Change.outline := by
  have hnames : Stored.names current ~ Stored.names current' :=
    Stored.Alike.map_name halike ▸ hrs.map Stored.name
  obtain ⟨us, hus, rfl⟩ := changes_eq_ok h
  obtain ⟨us', hus', houtline⟩ := outline_updates_go (find?_alike hc hrs halike) hus
  rw [sortDeclared_eq_of_perm hw hwanted] at hus'
  refine ⟨_, changes_of_updates_go hus', ?_⟩
  rw [map_append, map_append, map_append, map_append, houtline, creates_eq_of_perm hw hwanted hnames,
    outline_deletes_eq_of_perm hc hwanted hnames]

theorem index_alike (hindex : index desired = .ok wanted) {ds : List Declared} (hds : desired ~ ds)
    (halike : Forall₂ Declared.Alike ds desired') :
    ∃ wanted', index desired' = .ok wanted' ∧ wanted ~ wanted' := by
  obtain ⟨rfl, hvalid, hnodup⟩ := index_eq_ok_iff.1 hindex
  refine ⟨_, index_eq_ok_iff.2 ⟨rfl, ?_, ?_⟩, ?_⟩
  · exact Declared.Alike.check_of_forall halike fun d hd => hvalid d (hds.mem_iff.2 hd)
  · rw [← Declared.Alike.map_name halike]
    exact (hds.map Declared.name).nodup_iff.1 hnodup
  · rw [← Declared.Alike.map_filled halike]
    exact hds.map Declared.filled

/--
The changes of a plan are ordered. They are the same, but for what they replace, if the endpoints are
given in another order or others stand for them of which their user sees the same.
-/
theorem canonical_between {desired : List Declared} {observed : List Stored} {changes : List Change}
    (hnames : (Stored.names observed).Nodup) (h : between desired observed = .ok changes) :
    Ordered changes
      ∧ ∀ ds desired' rs observed', desired ~ ds → Forall₂ Declared.Alike ds desired' →
        observed ~ rs → Forall₂ Stored.Alike rs observed' →
        ∃ changes', between desired' observed' = .ok changes'
          ∧ changes'.map Change.outline = changes.map Change.outline := by
  obtain ⟨wanted, hindex, hchanges⟩ := between_eq_ok_iff.1 h
  rw [latest_of_nodup hnames] at hchanges
  have hw := nodup_names_index hindex
  refine ⟨ordered_changes hw hnames hchanges, ?_⟩
  intro ds desired' rs observed' hds hdesired hrs hobserved
  obtain ⟨wanted', hindex', hwanted⟩ := index_alike hindex hds hdesired
  obtain ⟨changes', hchanges', houtline⟩ := outline_changes hw hnames hwanted hrs hobserved hchanges
  have hnames' : (Stored.names observed').Nodup := by
    rw [← Stored.Alike.map_name hobserved]
    exact (hrs.map Stored.name).nodup_iff.1 hnames
  rw [← latest_of_nodup hnames'] at hchanges'
  exact ⟨changes', between_eq_ok_iff.2 ⟨wanted', hindex', hchanges'⟩, houtline⟩

/-
The same three changes, whether the default format version is written out and whatever form the
service keeps the format versions in.
-/
theorem canonical_between_of_respelled :
    let a : Declared := { name := "a", credential := "key" }
    let b : Declared := { name := "b", credential := "key", placement := some "none" }
    let b' : Stored := {
      serviceId := "svc-1", version := 1, name := "b", credential := "key"
      formatVersion := some (.int 2) }
    let c' : Stored := { b' with name := "c", formatVersion := some (.text "1.5") }
    let desired' := [{ b with formatVersion := some 2 }, { a with formatVersion := some 2 }]
    let observed' := [
      { c' with version := 7, formatVersion := some (.text "x") },
      { b' with serviceId := "svc-2", formatVersion := some (.text " 2.0") }]
    ∃ changes changes', between [a, b] [b', c'] = .ok changes ∧ Ordered changes
      ∧ between desired' observed' = .ok changes'
      ∧ changes'.map Change.outline = changes.map Change.outline
      ∧ changes.map Change.name = ["c", "a", "b"] := by
  intro a b b' c' desired' observed'
  have hsort : sortDeclared [a.filled, b.filled] = [a.filled, b.filled] :=
    sortDeclared_eq_of_pairwise (by decide +kernel) (.refl _)
  have hplan : between [a, b] [b', c']
      = .ok [.delete c', .create a.filled, .update b.filled b' [.placement]] := by
    change changes [a.filled, b.filled] [b', c'] = _
    rw [Plan.changes, updates, hsort]
    decide +kernel
  obtain ⟨hordered, halike⟩ := canonical_between (by decide) hplan
  have hb : b.Alike { b with formatVersion := some 2 } := ⟨rfl, rfl, rfl, rfl, rfl, rfl⟩
  have ha : a.Alike { a with formatVersion := some 2 } := ⟨rfl, rfl, rfl, rfl, rfl, rfl⟩
  have hc' : c'.Alike { c' with version := 7, formatVersion := some (.text "x") } :=
    ⟨rfl, rfl, rfl, by decide +kernel, rfl, rfl⟩
  have hb' : b'.Alike { b' with serviceId := "svc-2", formatVersion := some (.text " 2.0") } :=
    ⟨rfl, rfl, rfl, by decide +kernel, rfl, rfl⟩
  obtain ⟨changes', hplan', houtline⟩ := halike [b, a] desired' [c', b'] observed' (.swap b a [])
    (.cons hb (.cons ha .nil)) (.swap c' b' []) (.cons hc' (.cons hb' .nil))
  exact ⟨_, changes', hplan, hordered, hplan', houtline, by decide⟩

end Plan

end Converge
