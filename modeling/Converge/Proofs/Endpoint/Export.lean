import Converge.Document.Record
import Converge.Proofs.Plan.Empty
import Mathlib.Data.List.Forall2

/-!
This module contains what is left of stored endpoints when they are exported, read again and planned
for. Main statements: exporting fails with the fault of the first endpoint that has one; what is
exported is read again, and a plan from it updates exactly the endpoints that have no format
version, or an empty placement or response condition, and in exactly these fields.
-/

namespace Converge

open List

variable {d e : Declared} {r : Stored} {rs : List Stored} {f : Field} {key : Text}
  {attributes : List (Field × Value)} {maps : List (List (Field × Value))}

theorem Field.label_injective : Function.Injective Field.label := by
  intro f g h
  revert h
  cases f <;> cases g <;> decide

namespace Declared

/--
The entries of a document for what is exported.
-/
def entries (attributes : List (Field × Value)) : Document.Entries :=
  attributes.map fun (f, v) => (f.label, v)

def nonEmpty : Option Text → Option Text
  | some t => if t.isEmpty then none else some t
  | none => none

/--
What is read again of an endpoint that was exported.
-/
def exported (d : Declared) : Declared :=
  { d with placement := nonEmpty d.placement, responseCondition := nonEmpty d.responseCondition }

@[simp]
theorem name_exported (d : Declared) : d.exported.name = d.name := rfl

theorem find?_entries_label (d : Declared) (f : Field) (fs : List Field) :
    Value.find? f.label
        (entries ((fs.map fun f => (f, d.value f)).filter fun (_, v) => !isUnset v)) =
      if f ∈ fs ∧ isUnset (d.value f) = false then some (d.value f) else none := by
  induction fs with
  | nil => rfl
  | cons g fs ih =>
    rw [map_cons, filter_cons]
    by_cases hg : isUnset (d.value g) = true
    · rw [if_neg (by simp [hg]), ih]
      by_cases hfg : f = g
      · simp [hfg, hg]
      · simp [hfg]
    · rw [if_pos (by simp [hg]), entries, map_cons, Value.find?]
      by_cases hfg : f = g
      · rw [if_pos (by rw [hfg]), if_pos (by simp [hfg, hg]), hfg]
      · rw [if_neg fun hlabel => hfg (Field.label_injective hlabel.symm)]
        rw [entries] at ih
        rw [ih]
        simp [hfg]

theorem find?_entries_attributes (d : Declared) (f : Field) :
    Value.find? f.label (entries d.attributes) =
      if isUnset (d.value f) then none else some (d.value f) := by
  rw [attributes, find?_entries_label]
  cases h : isUnset (d.value f) <;> simp [Field.mem_all f]

theorem find?_entries_of_ne (h : ∀ f : Field, f.label ≠ key) :
    Value.find? key (entries attributes) = none := by
  induction attributes with
  | nil => rfl
  | cons a attributes ih =>
    rw [entries, map_cons, Value.find?, if_neg (h a.1)]
    exact ih

theorem firstOf?_attributes (d : Declared) (f : Field) (others : List Text)
    (h : ∀ key ∈ others, ∀ g : Field, g.label ≠ key) :
    Document.firstOf? (entries d.attributes) (others ++ [f.label]) =
      if isUnset (d.value f) then none else some (f.label, d.value f) := by
  induction others with
  | nil =>
    rw [nil_append, Document.firstOf?, find?_entries_attributes]
    cases isUnset (d.value f) <;> rfl
  | cons key others ih =>
    rw [forall_mem_cons] at h
    rw [cons_append, Document.firstOf?, find?_entries_of_ne h.1]
    exact ih h.2

theorem withDefault_attributes {α : Type} {default a : α} {read : Value → Document.Checked α}
    (others : List Text) (h : ∀ key ∈ others, ∀ g : Field, g.label ≠ key)
    (hunset : isUnset (d.value f) = true → default = a)
    (hread : isUnset (d.value f) = false → read (d.value f) = .valid a) :
    Document.withDefault (entries d.attributes) (others ++ [f.label]) default read = .valid a := by
  unfold Document.withDefault
  rw [firstOf?_attributes d f others h]
  cases hvalue : isUnset (d.value f) with
  | true => exact congrArg _ (hunset hvalue)
  | false => exact Document.Checked.within_eq_valid_iff.2 (hread hvalue)

theorem required_attributes {t : Text} (hvalue : d.value f = .text t) (hne : t ≠ .empty) :
    Document.required (entries d.attributes) [f.label] Document.text = .valid t := by
  have hset : isUnset (d.value f) = false := by
    rw [hvalue, isUnset, ← Bool.not_eq_true, Text.isEmpty_iff]
    exact hne
  have hfirst := firstOf?_attributes d f [] (forall_mem_nil _)
  rw [hset, if_neg Bool.false_ne_true, hvalue] at hfirst
  exact Document.required_eq_valid_iff.2 ⟨_, _, hfirst, rfl⟩

theorem nonEmpty_of_isUnset {t? : Option Text} (h : isUnset (value.optional .text t?) = true) :
    none = nonEmpty t? := by
  cases t? with
  | none => rfl
  | some t =>
    have hempty : t.isEmpty = true := h
    rw [nonEmpty, if_pos hempty]

theorem read_of_not_isUnset {t? : Option Text} (h : isUnset (value.optional .text t?) = false) :
    Document.optional Document.text (value.optional .text t?) = .valid (nonEmpty t?) := by
  cases t? with
  | none => cases h
  | some t =>
    have hempty : t.isEmpty = false := h
    rw [nonEmpty, hempty, if_neg Bool.false_ne_true]
    rfl

theorem nonEmpty_ne_iff {t? : Option Text} : nonEmpty t? ≠ t? ↔ t? = some .empty := by
  cases t? with
  | none => simp [nonEmpty]
  | some t =>
    rw [nonEmpty, Option.some_inj, ← Text.isEmpty_iff]
    cases t.isEmpty <;> simp

theorem label_ne (h : key = "formatVersion" ∨ key = "responseCondition") (f : Field) :
    f.label ≠ key := by
  obtain rfl | rfl := h
  · cases f <;> decide
  · cases f <;> decide

theorem declared_entries (h : d.check = .ok ()) :
    Document.declared (.map (entries d.attributes)) = .valid d.exported := by
  obtain ⟨hname, hcredential⟩ := checkRequired_eq_ok_iff.1 h
  have hname : Document.required (entries d.attributes) ["name"] Document.text = .valid d.name :=
    required_attributes (f := .name) rfl hname
  have hcredential :
      Document.required (entries d.attributes) ["credential"] Document.text = .valid d.credential :=
    required_attributes (f := .credential) rfl hcredential
  have hformat :
      Document.withDefault (entries d.attributes) ["format"] .empty Document.text =
        .valid d.format :=
    withDefault_attributes (f := .format) [] (forall_mem_nil _)
      (fun hempty => (Text.isEmpty_iff.1 hempty).symm) fun _ => rfl
  have hformatVersion :
      Document.withDefault (entries d.attributes) Document.formatVersionKeys none
          (Document.optional Document.integer) =
        .valid d.formatVersion := by
    apply withDefault_attributes (f := .formatVersion) ["formatVersion"]
      fun key hkey => label_ne (.inl (mem_singleton.1 hkey))
    · unfold value
      cases d.formatVersion with
      | none => exact fun _ => rfl
      | some n => exact nofun
    · unfold value
      cases d.formatVersion with
      | none => exact nofun
      | some n => exact fun _ => rfl
  have hplacement :
      Document.withDefault (entries d.attributes) ["placement"] none
          (Document.optional Document.text) =
        .valid (nonEmpty d.placement) :=
    withDefault_attributes (f := .placement) [] (forall_mem_nil _) nonEmpty_of_isUnset
      read_of_not_isUnset
  have hcondition :
      Document.withDefault (entries d.attributes) Document.responseConditionKeys none
          (Document.optional Document.text) =
        .valid (nonEmpty d.responseCondition) :=
    withDefault_attributes (f := .responseCondition) ["responseCondition"]
      (fun key hkey => label_ne (.inr (mem_singleton.1 hkey))) nonEmpty_of_isUnset
      read_of_not_isUnset
  simp only [Document.declared, Document.record, hname, hcredential, hformat, hformatVersion,
    hplacement, hcondition, Document.Checked.map, Document.Checked.and]
  rfl

end Declared

namespace Stored

theorem flatten_eq_error_iff {e : Fault} :
    flatten rs = .error e ↔
      ∃ before r after, rs = before ++ r :: after ∧ (∀ q ∈ before, ∃ d, q.project = .ok d)
        ∧ r.project = .error e := by
  induction rs with
  | nil => simp [flatten]
  | cons r rs ih =>
    unfold flatten
    cases hr : r.project with
    | error e' =>
      constructor
      · intro h
        cases h
        exact ⟨[], r, rs, rfl, forall_mem_nil _, hr⟩
      · rintro ⟨_ | ⟨q, before⟩, r', after, heq, hbefore, herror⟩
        · cases heq
          rw [hr] at herror
          cases herror
          rfl
        · cases heq
          obtain ⟨d, hd⟩ := hbefore r mem_cons_self
          rw [hr] at hd
          cases hd
    | ok d =>
      have hmap : (flatten rs).map (d.attributes :: ·) = .error e ↔ flatten rs = .error e := by
        cases flatten rs <;> simp [Except.map]
      rw [hmap, ih]
      constructor
      · rintro ⟨before, r', after, rfl, hbefore, herror⟩
        exact ⟨r :: before, r', after, rfl, forall_mem_cons.2 ⟨⟨d, hr⟩, hbefore⟩, herror⟩
      · rintro ⟨_ | ⟨q, before⟩, r', after, heq, hbefore, herror⟩
        · cases heq
          rw [hr] at herror
          cases herror
        · cases heq
          exact ⟨before, r', after, rfl, (forall_mem_cons.1 hbefore).2, herror⟩

theorem flatten_of_project {locals : List Declared} (h : rs.map project = locals.map .ok) :
    flatten rs = .ok (locals.map Declared.attributes) := by
  induction rs generalizing locals with
  | nil =>
    rw [map_eq_nil_iff.1 h.symm]
    rfl
  | cons r rs ih =>
    obtain ⟨d, locals, rfl, hd, h⟩ := map_eq_cons_iff.1 h.symm
    unfold flatten
    rw [hd.symm, ih h.symm]
    rfl

/--
Whether a field of a stored endpoint is lost when it is exported.
-/
def loses (r : Stored) : Field → Bool
  | .formatVersion => r.formatVersion = none
  | .placement => r.placement = some .empty
  | .responseCondition => r.responseCondition = some .empty
  | _ => false

def lost (r : Stored) : List Field :=
  Field.all.filter r.loses

theorem check_of_project (h : r.project = .ok d) : d.check = .ok () := by
  unfold project at h
  split at h
  · cases h
  · next hcheck =>
    cases hversion : r.projectVersion with
    | error e =>
      rw [hversion] at h
      cases h
    | ok v =>
      rw [hversion] at h
      cases h
      exact hcheck

theorem placement_of_project (h : r.project = .ok d) :
    d.placement = r.placement ∧ d.responseCondition = r.responseCondition
      ∧ (d.formatVersion = none ↔ r.formatVersion = none) := by
  unfold project projectVersion at h
  split at h
  · cases h
  · split at h
    · next hnone =>
      cases h
      exact ⟨rfl, rfl, iff_of_true rfl hnone⟩
    · next hsome =>
      split at h
      · cases h
        exact ⟨rfl, rfl, by simp [withVersion, hsome]⟩
      · cases h

/--
What is read again of an export differs from what is stored in the fields that are lost.
-/
theorem changedFields_of_project (h : r.project = .ok d) :
    d.exported.filled.changedFields d = r.lost := by
  obtain ⟨hplacement, hcondition, hversion⟩ := placement_of_project h
  unfold Declared.changedFields lost
  apply filter_congr
  intro f _
  cases f with
  | name => simp [Declared.agree, loses]
  | credential => simp [Declared.agree, loses, Declared.exported]
  | format => simp [Declared.agree, loses, Declared.filled, Declared.exported]
  | formatVersion =>
    rw [Declared.agree, loses, ← decide_not, decide_eq_decide, ← hversion,
      Declared.formatVersion_filled]
    change ¬some (d.formatVersion.getD defaultFormatVersion) = d.formatVersion ↔ _
    cases d.formatVersion with
    | none => simp
    | some n => simp
  | placement =>
    rw [Declared.agree, loses, ← decide_not, decide_eq_decide, ← hplacement]
    exact Declared.nonEmpty_ne_iff
  | responseCondition =>
    rw [Declared.agree, loses, ← decide_not, decide_eq_decide, ← hcondition]
    exact Declared.nonEmpty_ne_iff

end Stored

/--
What exporting endpoints, reading the export again and planning for it come to.
-/
structure Replanned (rs : List Stored) (locals ds : List Declared) (changes : List Change) :
    Prop where
  projected : rs.map Stored.project = locals.map .ok
  flattened : Stored.flatten rs = .ok (locals.map Declared.attributes)
  accepted : (locals.map Declared.attributes).map (fun attributes =>
    Document.declared (.map (Declared.entries attributes))) = ds.map .valid
  planned : Plan.between ds rs = .ok changes
  updates : ∀ c ∈ changes, ∃ d ∈ ds, ∃ r ∈ rs, d.name = r.name ∧ c = .update d.filled r r.lost
  updated_iff : ∀ r ∈ rs, (∃ c ∈ changes, c.name = r.name) ↔ r.lost ≠ []
  nodup : (changes.map Change.name).Nodup

variable {locals wanted : List Declared} {changes : List Change} {c : Change}

theorem exists_local (h : rs.map Stored.project = locals.map .ok) (hr : r ∈ rs) :
    ∃ d ∈ locals, r.project = .ok d := by
  have hmem : r.project ∈ rs.map Stored.project := mem_map_of_mem hr
  rw [h] at hmem
  obtain ⟨d, hd, heq⟩ := mem_map.1 hmem
  exact ⟨d, hd, heq.symm⟩

theorem exists_stored (h : rs.map Stored.project = locals.map .ok) (hd : d ∈ locals) :
    ∃ r ∈ rs, r.project = .ok d := by
  have hmem : Except.ok d ∈ locals.map (Except.ok (ε := Fault)) := mem_map_of_mem hd
  rw [← h] at hmem
  exact mem_map.1 hmem

theorem project_of_name (h : rs.map Stored.project = locals.map .ok)
    (hnames : (Stored.names rs).Nodup) (hr : r ∈ rs) (hd : d ∈ locals) (hname : d.name = r.name) :
    r.project = .ok d := by
  obtain ⟨q, hq, hproject⟩ := exists_stored h hd
  have hqr : q.name = r.name := (Stored.name_of_project hproject).symm.trans hname
  rw [← inj_on_of_nodup_map hnames hq hr hqr]
  exact hproject

/--
Each endpoint is both wanted and there, so that it is neither created nor deleted.
-/
theorem needed_exported_iff (h : rs.map Stored.project = locals.map .ok)
    (hnames : (Stored.names rs).Nodup) :
    Plan.Needed ((locals.map Declared.exported).map Declared.filled) rs c ↔
      ∃ r ∈ rs, r.lost ≠ [] ∧ ∃ d ∈ locals.map Declared.exported,
        d.name = r.name ∧ c = .update d.filled r r.lost := by
  cases c with
  | delete q =>
    refine iff_of_false ?_ (by simp)
    rintro ⟨hq, hnone⟩
    obtain ⟨d, hd, hproject⟩ := exists_local h hq
    have hname : d.name = q.name := Stored.name_of_project hproject
    exact hnone d.exported.filled (mem_map_of_mem (mem_map_of_mem hd)) hname
  | create e =>
    refine iff_of_false ?_ (by simp)
    rintro ⟨he, hnone⟩
    obtain ⟨_, hd', rfl⟩ := mem_map.1 he
    obtain ⟨d, hd, rfl⟩ := mem_map.1 hd'
    obtain ⟨r, hr, hproject⟩ := exists_stored h hd
    exact hnone r hr (Stored.name_of_project hproject).symm
  | update e q fields =>
    constructor
    · rintro ⟨he, hq, hname, d', hproject, rfl, hne⟩
      obtain ⟨_, hd', rfl⟩ := mem_map.1 he
      obtain ⟨d, hd, rfl⟩ := mem_map.1 hd'
      have hlocal := project_of_name h hnames hq hd hname.symm
      have hfields := Stored.changedFields_of_project hlocal
      rw [hlocal] at hproject
      cases hproject
      refine ⟨q, hq, ?_, _, hd', hname.symm, by rw [hfields]⟩
      rw [← hfields]
      exact mt Declared.changedFields_eq_nil_iff.1 hne
    · rintro ⟨r, hr, hlost, _, he, hname, heq⟩
      cases heq
      obtain ⟨d, hd, rfl⟩ := mem_map.1 he
      have hproject := project_of_name h hnames hr hd hname
      have hfields := Stored.changedFields_of_project hproject
      refine ⟨mem_map_of_mem he, hr, hname.symm, d, hproject, hfields.symm, ?_⟩
      rw [← hfields] at hlost
      exact mt Declared.changedFields_eq_nil_iff.2 hlost

theorem exists_locals (h : ∀ r ∈ rs, ∃ d, r.project = .ok d) :
    ∃ locals : List Declared, rs.map Stored.project = locals.map .ok := by
  induction rs with
  | nil => exact ⟨[], rfl⟩
  | cons r rs ih =>
    rw [forall_mem_cons] at h
    obtain ⟨⟨d, hd⟩, h⟩ := h
    obtain ⟨locals, hlocals⟩ := ih h
    exact ⟨d :: locals, by rw [map_cons, map_cons, hd, hlocals]⟩

theorem names_locals (h : rs.map Stored.project = locals.map .ok) :
    locals.map Declared.name = Stored.names rs := by
  induction rs generalizing locals with
  | nil =>
    rw [map_eq_nil_iff.1 h.symm]
    rfl
  | cons r rs ih =>
    obtain ⟨d, locals, rfl, hd, h⟩ := map_eq_cons_iff.1 h.symm
    rw [map_cons, ih h.symm, Stored.name_of_project hd.symm]
    rfl

theorem replanned_of_project (hnames : (Stored.names rs).Nodup)
    (hproject : ∀ r ∈ rs, ∃ d, r.project = .ok d) :
    ∃ locals ds changes, Replanned rs locals ds changes := by
  obtain ⟨locals, hlocals⟩ := exists_locals hproject
  have hvalid : ∀ d ∈ locals, d.check = .ok () := by
    intro d hd
    obtain ⟨r, -, hr⟩ := exists_stored hlocals hd
    exact Stored.check_of_project hr
  have hindex : Plan.index (locals.map Declared.exported) =
      .ok ((locals.map Declared.exported).map Declared.filled) := by
    refine Plan.index_eq_ok_iff.2 ⟨rfl, forall_mem_map.2 hvalid, ?_⟩
    rw [map_map]
    change (locals.map Declared.name).Nodup
    rw [names_locals hlocals]
    exact hnames
  obtain ⟨changes, hchanges⟩ :=
    Plan.changes_of_project ((locals.map Declared.exported).map Declared.filled) hproject
  refine ⟨locals, locals.map Declared.exported, changes, ?_⟩
  constructor
  case projected => exact hlocals
  case flattened => exact Stored.flatten_of_project hlocals
  case accepted =>
    rw [map_map, map_map]
    exact map_congr_left fun d hd => Declared.declared_entries (hvalid d hd)
  case planned =>
    rw [Plan.between_eq_ok_iff, Plan.latest_of_nodup hnames]
    exact ⟨_, hindex, hchanges⟩
  case updates =>
    intro c hc
    rw [Plan.mem_changes_iff hnames hchanges, needed_exported_iff hlocals hnames] at hc
    obtain ⟨r, hr, -, d, hd, hname, hupdate⟩ := hc
    exact ⟨d, hd, r, hr, hname, hupdate⟩
  case updated_iff =>
    intro r hr
    constructor
    · rintro ⟨c, hc, hname⟩
      rw [Plan.mem_changes_iff hnames hchanges, needed_exported_iff hlocals hnames] at hc
      obtain ⟨q, hq, hlost, d, -, hdname, rfl⟩ := hc
      rw [inj_on_of_nodup_map hnames hr hq (hname.symm.trans hdname)]
      exact hlost
    · intro hlost
      obtain ⟨d, hd, hr'⟩ := exists_local hlocals hr
      have hname : d.name = r.name := Stored.name_of_project hr'
      refine ⟨.update d.exported.filled r r.lost, ?_, hname⟩
      rw [Plan.mem_changes_iff hnames hchanges, needed_exported_iff hlocals hnames]
      exact ⟨r, hr, hlost, _, mem_map_of_mem hd, hname, rfl⟩
  case nodup => exact Plan.nodup_changes_names (Plan.nodup_names_index hindex) hnames hchanges

/--
Exporting fails with the fault of the first endpoint that has one. What is exported is read again,
and the plan from it updates the endpoints that have lost something, in exactly what they have lost.
-/
theorem flatten_eq_error_iff_and_replanned (rs : List Stored) :
    (∀ e, Stored.flatten rs = .error e ↔
        ∃ before r after, rs = before ++ r :: after ∧ (∀ q ∈ before, ∃ d, q.project = .ok d)
          ∧ r.project = .error e)
      ∧ ((Stored.names rs).Nodup → (∀ r ∈ rs, ∃ d, r.project = .ok d) →
        ∃ locals ds changes, Replanned rs locals ds changes) :=
  ⟨fun _ => Stored.flatten_eq_error_iff, replanned_of_project⟩

/- An empty placement is lost, and one that is unset is not. -/
theorem replanned_empty_placement :
    let r : Stored :=
      { serviceId := "svc-1", version := 1, name := "a", credential := "key",
        placement := some .empty }
    let q : Stored :=
      { serviceId := "svc-1", version := 1, name := "b", credential := "key",
        formatVersion := some (.text "2.0") }
    (∃ locals ds changes, Replanned [r, q] locals ds changes)
      ∧ r.lost = [.formatVersion, .placement] ∧ q.lost = [] := by
  intro r q
  refine ⟨(flatten_eq_error_iff_and_replanned [r, q]).2 (by decide) ?_, by decide, by decide⟩
  rw [forall_mem_cons, forall_mem_singleton]
  exact ⟨⟨r.withVersion none, by decide +kernel⟩, ⟨q.withVersion (some 2), by decide +kernel⟩⟩

end Converge
