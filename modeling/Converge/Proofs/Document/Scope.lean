import Converge.Proofs.Document.Load
import Converge.Proofs.Yaml.Keys
import Converge.Value.Equality
import Mathlib.Data.List.Forall2

/-!
This module contains what the endpoints of a snapshot get from it. Main statement: a snapshot loads to
what it is meant to hold if and only if each of its endpoints spells its service `serviceId`, or the
snapshot does and the endpoint is of the same service. A service that is spelled `service_id` is not
passed on, and that of an endpoint gives way to the one of its snapshot.
-/

namespace Converge.Document

open List

variable {entries entries' entry : Entries} {keys : List Text} {e e' : Stored} {α : Type}
  {files : Files} {path : Text} {items : List Value} {s s' : Snapshot} {v : Value} {a : α}

/--
The fields of an endpoint that are its own, in whatever snapshot it stands.
-/
structure OwnFields (entries : Entries) (e : Stored) : Prop where
  name : required entries ["name"] text = .valid e.name
  credential : required entries ["credential"] text = .valid e.credential
  format : withDefault entries ["format"] .empty text = .valid e.format
  formatVersion : withDefault entries formatVersionKeys none (optional storedFormatVersion) =
    .valid e.formatVersion
  placement : withDefault entries ["placement"] none (optional text) = .valid e.placement
  responseCondition : withDefault entries responseConditionKeys none (optional text) =
    .valid e.responseCondition
  createdAt : withDefault entries ["createdAt", "created_at"] none (optional timestamp) =
    .valid e.createdAt
  updatedAt : withDefault entries ["updatedAt", "updated_at"] none (optional timestamp) =
    .valid e.updatedAt

/--
That a value is a mapping that stands for an endpoint of this snapshot. The endpoint has the service
and the version that it carries, in either spelling, and else those of the snapshot.
-/
inductive HoldsEndpoint (s : Snapshot) : Value → Stored → Prop
  | map {entry : Entries} {e : Stored}
    (hid : withDefault entry serviceIdKeys s.serviceId text = .valid e.serviceId)
    (hversion : withDefault entry ["version"] s.version integer = .valid e.version)
    (hown : OwnFields entry e) : HoldsEndpoint s (.map entry) e

/--
That a mapping stands for a snapshot, and the list `items` in it for the endpoints.
-/
structure Holds (entries : Entries) (items : List Value) (s : Snapshot) : Prop where
  serviceId : required entries serviceIdKeys nonEmptyText = .valid s.serviceId
  version : required entries ["version"] versionNumber = .valid s.version
  list : Value.find? "endpoints" entries = some (.list items)
    ∨ Value.find? "endpoints" entries = none ∧ items = []
  endpoints : Forall₂ (HoldsEndpoint s) items s.endpoints

/--
Whether a value is a mapping that spells its service `serviceId`.
-/
def spellsService : Value → Bool
  | .map entries => (Value.find? "serviceId" entries).isSome
  | _ => false

/--
An endpoint as it is loaded: of the service of its snapshot unless it spells its own `serviceId`.
-/
def inherited (s : Snapshot) (v : Value) (e : Stored) : Stored :=
  if spellsService v then e else { e with serviceId := s.serviceId }

theorem firstOf?_congr (h : ∀ key ∈ keys, Value.find? key entries = Value.find? key entries') :
    firstOf? entries keys = firstOf? entries' keys := by
  induction keys with
  | nil => rfl
  | cons key keys ih =>
    have ⟨hkey, hkeys⟩ := forall_mem_cons.mp h
    rw [firstOf?, firstOf?, hkey, ih hkeys]

theorem required_congr (read : Value → Checked α)
    (h : ∀ key ∈ keys, Value.find? key entries = Value.find? key entries') :
    required entries keys read = required entries' keys read := by
  unfold required
  rw [firstOf?_congr h]

theorem withDefault_congr (default : α) (read : Value → Checked α)
    (h : ∀ key ∈ keys, Value.find? key entries = Value.find? key entries') :
    withDefault entries keys default read = withDefault entries' keys default read := by
  unfold withDefault
  rw [firstOf?_congr h]

def scopeKeys : List Text :=
  "version" :: serviceIdKeys

/--
That two mappings have the same entries but for the service and the version.
-/
def Agree (entries entries' : Entries) : Prop :=
  ∀ key ∉ scopeKeys, Value.find? key entries = Value.find? key entries'

theorem Agree.symm (h : Agree entries entries') : Agree entries' entries :=
  fun key hkey => (h key hkey).symm

theorem Agree.required {read : Value → Checked α} (h : Agree entries entries')
    (hkeys : ∀ key ∈ keys, key ∉ scopeKeys) (hread : required entries keys read = .valid a) :
    required entries' keys read = .valid a := by
  rwa [← required_congr read fun key hkey => h key (hkeys key hkey)]

theorem Agree.withDefault {default : α} {read : Value → Checked α} (h : Agree entries entries')
    (hkeys : ∀ key ∈ keys, key ∉ scopeKeys)
    (hread : withDefault entries keys default read = .valid a) :
    withDefault entries' keys default read = .valid a := by
  rwa [← withDefault_congr default read fun key hkey => h key (hkeys key hkey)]

theorem OwnFields.of_agree (h : Agree entries entries') (hown : OwnFields entries e) :
    OwnFields entries' e where
  name := h.required (by decide) hown.name
  credential := h.required (by decide) hown.credential
  format := h.withDefault (by decide) hown.format
  formatVersion := h.withDefault (by decide) hown.formatVersion
  placement := h.withDefault (by decide) hown.placement
  responseCondition := h.withDefault (by decide) hown.responseCondition
  createdAt := h.withDefault (by decide) hown.createdAt
  updatedAt := h.withDefault (by decide) hown.updatedAt

theorem ownFields_iff (h : OwnFields entries e) :
    OwnFields entries e' ↔ e' = { e with serviceId := e'.serviceId, version := e'.version } := by
  constructor
  · intro h'
    cases e'
    simp only [Stored.mk.injEq, true_and]
    exact ⟨Checked.valid.inj (h'.name.symm.trans h.name),
      Checked.valid.inj (h'.credential.symm.trans h.credential),
      Checked.valid.inj (h'.format.symm.trans h.format),
      Checked.valid.inj (h'.formatVersion.symm.trans h.formatVersion),
      Checked.valid.inj (h'.placement.symm.trans h.placement),
      Checked.valid.inj (h'.responseCondition.symm.trans h.responseCondition),
      Checked.valid.inj (h'.createdAt.symm.trans h.createdAt),
      Checked.valid.inj (h'.updatedAt.symm.trans h.updatedAt)⟩
  · intro he
    rw [he]
    exact ⟨h.name, h.credential, h.format, h.formatVersion, h.placement, h.responseCondition,
      h.createdAt, h.updatedAt⟩

theorem stored_map_eq_valid_iff :
    stored (.map entries) = .valid e ↔
      required entries serviceIdKeys text = .valid e.serviceId
        ∧ required entries ["version"] integer = .valid e.version ∧ OwnFields entries e := by
  constructor
  · intro h
    obtain ⟨_, _, h₁, hupdated, rfl⟩ := Checked.and_eq_valid_iff.mp h
    obtain ⟨_, _, h₂, hcreated, rfl⟩ := Checked.and_eq_valid_iff.mp h₁
    obtain ⟨_, _, h₃, hcondition, rfl⟩ := Checked.and_eq_valid_iff.mp h₂
    obtain ⟨_, _, h₄, hplacement, rfl⟩ := Checked.and_eq_valid_iff.mp h₃
    obtain ⟨_, _, h₅, hformatVersion, rfl⟩ := Checked.and_eq_valid_iff.mp h₄
    obtain ⟨_, _, h₆, hformat, rfl⟩ := Checked.and_eq_valid_iff.mp h₅
    obtain ⟨_, _, h₇, hcredential, rfl⟩ := Checked.and_eq_valid_iff.mp h₆
    obtain ⟨_, _, h₈, hname, rfl⟩ := Checked.and_eq_valid_iff.mp h₇
    obtain ⟨_, _, h₉, hversion, rfl⟩ := Checked.and_eq_valid_iff.mp h₈
    obtain ⟨_, hid, rfl⟩ := Checked.map_eq_valid_iff.mp h₉
    exact ⟨hid, hversion, hname, hcredential, hformat, hformatVersion, hplacement, hcondition,
      hcreated, hupdated⟩
  · rintro ⟨hid, hversion, hown⟩
    simp only [stored, record, hid, hversion, hown.name, hown.credential, hown.format,
      hown.formatVersion, hown.placement, hown.responseCondition, hown.createdAt, hown.updatedAt,
      Checked.map, Checked.and]

/-!
What an endpoint has when the service and the version of its snapshot are put before its own entries.
-/

/--
The service and the version that the entries of an endpoint are put after.
-/
def scope (entries : Entries) : Entries :=
  [("serviceId", (Value.find? "serviceId" entries).getD .null),
    ("version", (Value.find? "version" entries).getD .null)]

theorem find?_scope_of_not_mem {key : Text} (h : key ∉ scopeKeys) :
    Value.find? key (scope entries) = none := by
  refine Value.find?_eq_none fun hmem => h ?_
  simp only [scope, map_cons, map_nil, mem_cons, not_mem_nil, or_false] at hmem
  rcases hmem with rfl | rfl
  · decide
  · decide

theorem agree_putAll_scope (h : (entry.map Prod.fst).Nodup) :
    Agree (Value.putAll (scope entries) entry) entry := by
  intro key hkey
  rw [Value.find?_putAll h, find?_scope_of_not_mem hkey, Option.or_none]

def withScope (entries : Entries) : Value → Value
  | .map entry => .map (Value.putAll (scope entries) entry)
  | v => v

theorem Holds.text_of_find? (h : Holds entries items s)
    (hv : Value.find? "serviceId" entries = some v) : text v = .valid s.serviceId := by
  obtain ⟨_, _, hfirst, hread⟩ := required_eq_valid_iff.mp h.serviceId
  unfold serviceIdKeys firstOf? at hfirst
  rw [hv] at hfirst
  cases hfirst
  exact (nonEmptyText_eq_valid_iff.mp hread).1

theorem Holds.integer_version (h : Holds entries items s) :
    integer ((Value.find? "version" entries).getD .null) = .valid s.version := by
  obtain ⟨_, v, hfirst, hread⟩ := required_eq_valid_iff.mp h.version
  unfold firstOf? at hfirst
  split at hfirst
  next hv =>
    cases hfirst
    rw [hv]
    exact (versionNumber_eq_valid_iff.mp hread).1
  next => cases hfirst

/--
The version of an endpoint that stands after its snapshot's is the one that it carries or else that
of the snapshot.
-/
theorem required_version_iff (h : Holds entries items s) (hd : (entry.map Prod.fst).Nodup)
    {n : Int} :
    required (Value.putAll (scope entries) entry) ["version"] integer = .valid n ↔
      withDefault entry ["version"] s.version integer = .valid n := by
  unfold required withDefault firstOf?
  rw [Value.find?_putAll_of_find? hd rfl]
  cases hv : Value.find? "version" entry with
  | none => simp [firstOf?, Checked.within_eq_valid_iff, h.integer_version]
  | some v => simp [Checked.within_eq_valid_iff]

theorem required_serviceId_iff (hd : (entry.map Prod.fst).Nodup) {t : Text} :
    required (Value.putAll (scope entries) entry) serviceIdKeys text = .valid t ↔
      text ((Value.find? "serviceId" entry).getD ((Value.find? "serviceId" entries).getD .null)) =
        .valid t := by
  unfold required serviceIdKeys firstOf?
  rw [Value.find?_putAll_of_find? hd rfl]
  exact Checked.within_eq_valid_iff

/--
The service of an endpoint that stands after its snapshot's.
-/
theorem text_serviceId_iff (h : Holds entries items s) {t t' : Text}
    (ht : withDefault entry serviceIdKeys s.serviceId text = .valid t) :
    text ((Value.find? "serviceId" entry).getD ((Value.find? "serviceId" entries).getD .null)) =
        .valid t' ↔
      (spellsService (.map entries) ∨ spellsService (.map entry))
        ∧ t' = if spellsService (.map entry) then t else s.serviceId := by
  cases hown : Value.find? "serviceId" entry with
  | some v =>
    have hread : text v = .valid t := by
      unfold withDefault serviceIdKeys firstOf? at ht
      rw [hown] at ht
      exact Checked.within_eq_valid_iff.mp ht
    have hspells : spellsService (.map entry) = true := by
      rw [spellsService, hown, Option.isSome_some]
    rw [Option.getD_some, hread, hspells, if_pos rfl]
    constructor
    · intro heq
      exact ⟨.inr rfl, (Checked.valid.inj heq).symm⟩
    · rintro ⟨-, rfl⟩
      rfl
  | none =>
    have hspells : spellsService (.map entry) = false := by
      rw [spellsService, hown, Option.isSome_none]
    rw [Option.getD_none, hspells, if_neg Bool.false_ne_true]
    cases htop : Value.find? "serviceId" entries with
    | some v =>
      rw [Option.getD_some, h.text_of_find? htop]
      constructor
      · intro heq
        exact ⟨.inl (by rw [spellsService, htop, Option.isSome_some]), (Checked.valid.inj heq).symm⟩
      · rintro ⟨-, rfl⟩
        rfl
    | none => simp [spellsService, htop, text, Checked.issue]

/--
An endpoint loads if it or its snapshot spells `serviceId`, and is then as it is inherited.
-/
theorem stored_withScope_iff (h : Holds entries items s) (hd : v.Distinct)
    (he : HoldsEndpoint s v e) :
    stored (withScope entries v) = .valid e' ↔
      (spellsService (.map entries) ∨ spellsService v) ∧ e' = inherited s v e := by
  cases he with
  | @map entry _ hid hversion hown =>
    -- what stands after the scope replaces it, and the other keys are not in the scope
    have hagree : Agree (Value.putAll (scope entries) entry) entry := agree_putAll_scope hd.nodup
    have hfields : OwnFields (Value.putAll (scope entries) entry) e' ↔
        e' = { e with serviceId := e'.serviceId, version := e'.version } := by
      rw [← ownFields_iff hown]
      exact ⟨.of_agree hagree, .of_agree hagree.symm⟩
    rw [withScope, stored_map_eq_valid_iff, required_version_iff h hd.nodup,
      required_serviceId_iff hd.nodup, text_serviceId_iff h hid, hversion, hfields]
    constructor
    · rintro ⟨⟨hspells, hid'⟩, hversion', hown'⟩
      refine ⟨hspells, ?_⟩
      rw [hown', hid', ← Checked.valid.inj hversion', inherited]
      split
      · rfl
      · rfl
    · rintro ⟨hspells, rfl⟩
      unfold inherited
      split
      · exact ⟨⟨hspells, rfl⟩, rfl, rfl⟩
      · exact ⟨⟨hspells, rfl⟩, rfl, rfl⟩

theorem stored_withScope_list_iff {items' : List Value} {es es' : List Stored}
    (h : Holds entries items s) (hd : ∀ v ∈ items', v.Distinct)
    (hes : Forall₂ (HoldsEndpoint s) items' es) :
    (items'.map (withScope entries)).map stored = es'.map .valid ↔
      (∀ v ∈ items', spellsService (.map entries) ∨ spellsService v)
        ∧ es' = zipWith (inherited s) items' es := by
  induction hes generalizing es' with
  | nil => cases es' <;> simp
  | cons he hrest ih =>
    have ⟨hd, hdrest⟩ := forall_mem_cons.mp hd
    cases es' with
    | nil => simp
    | cons e' es' =>
      rw [map_cons, map_cons, map_cons, cons.injEq, stored_withScope_iff h hd he, ih hdrest,
        forall_mem_cons, zipWith_cons_cons, cons.injEq, and_and_and_comm]

theorem inherit_eq_of_list (h : Value.find? "endpoints" entries = some (.list items)) :
    inherit entries =
      Value.put "endpoints" (.list (items.map (withScope entries))) entries := by
  unfold inherit
  rw [h]
  rfl

theorem inherit_eq_of_none (h : Value.find? "endpoints" entries = none) :
    inherit entries = entries := by
  unfold inherit
  rw [h]

theorem Holds.find?_inherit (h : Holds entries items s) {key : Text} (hkey : key ≠ "endpoints") :
    Value.find? key (inherit entries) = Value.find? key entries := by
  obtain hlist | ⟨hnone, -⟩ := h.list
  · rw [inherit_eq_of_list hlist, Value.find?_put_of_ne _ _ hkey]
  · rw [inherit_eq_of_none hnone]

theorem Holds.required_inherit (h : Holds entries items s) (read : Value → Checked α)
    (hkeys : ("endpoints" : Text) ∉ keys) :
    required (inherit entries) keys read = required entries keys read := by
  refine required_congr read fun key hkey => h.find?_inherit ?_
  rintro rfl
  exact hkeys hkey

theorem Holds.endpoints_inherit_iff (h : Holds entries items s) {es : List Stored} :
    withDefault (inherit entries) ["endpoints"] [] (Document.list stored) = .valid es ↔
      (items.map (withScope entries)).map stored = es.map .valid := by
  obtain hlist | ⟨hnone, rfl⟩ := h.list
  · rw [inherit_eq_of_list hlist, withDefault, firstOf?, Value.find?_put_self]
    exact Checked.within_eq_valid_iff.trans Checked.list_eq_valid_iff
  · rw [inherit_eq_of_none hnone, withDefault, firstOf?, hnone, firstOf?]
    cases es <;> simp

theorem Holds.snapshot_inherit_iff (h : Holds entries items s) :
    snapshot (.map (inherit entries)) = .valid s' ↔
      s'.serviceId = s.serviceId ∧ s'.version = s.version
        ∧ (items.map (withScope entries)).map stored = s'.endpoints.map .valid := by
  have hid := (h.required_inherit nonEmptyText (by decide)).trans h.serviceId
  have hversion := (h.required_inherit versionNumber (by decide)).trans h.version
  rw [snapshot_map_eq_valid_iff, h.endpoints_inherit_iff, hid, hversion, Checked.valid.injEq,
    Checked.valid.injEq, eq_comm, eq_comm (a := s.version)]

theorem distinct_of_readMapping {kind : DocumentKind}
    (h : readMapping kind files path = .ok entries) : Value.Distinct (.map entries) := by
  unfold readMapping at h
  split at h
  · cases h
  · split at h
    · cases h
    · cases h
    next v hv =>
      have hd := Yaml.distinct_of_read hv
      unfold mapping at h
      split at h
      · split at h
        next hsection =>
          cases h
          exact hd.find? hsection
        · cases h
        · cases h
          exact hd
      · cases h

theorem Holds.distinct (h : Holds entries items s) (hd : Value.Distinct (.map entries)) :
    ∀ v ∈ items, v.Distinct := by
  intro v hv
  obtain hlist | ⟨-, rfl⟩ := h.list
  · exact (hd.find? hlist).of_mem_list hv
  · cases hv

/--
What a snapshot loads to: it needs that it or each of its endpoints spells `serviceId`.
-/
theorem loadSnapshot_eq_ok_iff (hread : readMapping .snapshot files path = .ok entries)
    (h : Holds entries items s) :
    loadSnapshot files path = .ok s' ↔
      (∀ v ∈ items, spellsService (.map entries) ∨ spellsService v)
        ∧ s' = { s with endpoints := zipWith (inherited s) items s.endpoints } := by
  rw [loadSnapshot_eq, hread, Except.bind, accept_eq_ok_iff, h.snapshot_inherit_iff,
    stored_withScope_list_iff h (h.distinct (distinct_of_readMapping hread)) h.endpoints]
  constructor
  · rintro ⟨hid, hversion, hspells, hendpoints⟩
    refine ⟨hspells, ?_⟩
    rw [← hid, ← hversion, ← hendpoints]
  · rintro ⟨hspells, rfl⟩
    exact ⟨rfl, rfl, hspells, rfl⟩

theorem eq_inherited_iff :
    e = inherited s v e ↔ spellsService v ∨ e.serviceId = s.serviceId := by
  unfold inherited
  split
  next hspells => simp [hspells]
  next hspells =>
    rw [or_iff_right hspells]
    constructor
    · intro he
      rw [he]
    · intro hid
      rw [← hid]

theorem forall₂_inherited_iff {es : List Stored} {Q : Value → Prop} (h : items.length = es.length) :
    (∀ v ∈ items, Q v) ∧ es = zipWith (inherited s) items es ↔
      Forall₂ (fun v e => Q v ∧ (spellsService v ∨ e.serviceId = s.serviceId)) items es := by
  induction items generalizing es with
  | nil =>
    cases eq_nil_of_length_eq_zero h.symm
    simp
  | cons v items ih =>
    cases es with
    | nil => cases h
    | cons e es =>
      rw [forall_mem_cons, zipWith_cons_cons, cons.injEq, and_and_and_comm, eq_inherited_iff,
        ih (Nat.succ.inj h), forall₂_cons]

/--
A snapshot that stands for `s` loads to `s` if and only if each of its endpoints spells `serviceId`,
or the snapshot does and the endpoint is of its service. Whether it loads at all, and to what, hangs
on nothing but these spellings.
-/
theorem loadSnapshot_eq_held_iff (hread : readMapping .snapshot files path = .ok entries)
    (h : Holds entries items s) :
    (loadSnapshot files path = .ok s ↔
      Forall₂ (fun v e => spellsService v
        ∨ spellsService (.map entries) ∧ e.serviceId = s.serviceId) items s.endpoints)
      ∧ ∀ s', loadSnapshot files path = .ok s' ↔
        (∀ v ∈ items, spellsService (.map entries) ∨ spellsService v)
          ∧ s' = { s with endpoints := zipWith (inherited s) items s.endpoints } := by
  refine ⟨?_, fun s' => loadSnapshot_eq_ok_iff hread h⟩
  have heq : s = { s with endpoints := zipWith (inherited s) items s.endpoints } ↔
      s.endpoints = zipWith (inherited s) items s.endpoints := by
    constructor
    · intro hs
      exact congrArg Snapshot.endpoints hs
    · intro hs
      rw [← hs]
  rw [loadSnapshot_eq_ok_iff hread h, heq, forall₂_inherited_iff h.endpoints.length_eq]
  simp only [or_comm (a := spellsService (.map entries) = true), or_and_left]

/-
Three endpoints: the first takes both from the snapshot, the second has both of its own, and the third
spells the service of the snapshot the other way.
-/
theorem loadSnapshot_mixed_spellings :
    let files := Files.write "f.yaml" (("serviceId: svc-1\nversion: 4\nendpoints:\n" ++
      "  - \x7bname: a, credential: t\x7d\n" ++
      "  - \x7bname: b, credential: t, serviceId: svc-2, version: 3\x7d\n" ++
      "  - \x7bname: c, credential: t, service_id: svc-1\x7d\n").toList.map
        fun c => UInt8.ofNat c.toNat) {}
    let items : List Value := [
      .map [("name", .text "a"), ("credential", .text "t")],
      .map [("name", .text "b"), ("credential", .text "t"), ("serviceId", .text "svc-2"),
        ("version", .int 3)],
      .map [("name", .text "c"), ("credential", .text "t"), ("service_id", .text "svc-1")]]
    let entries : Entries :=
      [("serviceId", .text "svc-1"), ("version", .int 4), ("endpoints", .list items)]
    let s : Snapshot := { serviceId := "svc-1", version := 4, endpoints := [
      { serviceId := "svc-1", version := 4, name := "a", credential := "t" },
      { serviceId := "svc-2", version := 3, name := "b", credential := "t" },
      { serviceId := "svc-1", version := 4, name := "c", credential := "t" }] }
    readMapping .snapshot files "f.yaml" = .ok entries ∧ Holds entries items s
      ∧ loadSnapshot files "f.yaml" = .ok s := by
  intro files items entries s
  have hread : readMapping .snapshot files "f.yaml" = .ok entries := by decide +kernel
  have hholds : Holds entries items s := {
    serviceId := rfl
    version := rfl
    list := .inl rfl
    endpoints := .cons (.map rfl rfl ⟨rfl, rfl, rfl, rfl, rfl, rfl, rfl, rfl⟩) <|
      .cons (.map rfl rfl ⟨rfl, rfl, rfl, rfl, rfl, rfl, rfl, rfl⟩) <|
      .cons (.map rfl rfl ⟨rfl, rfl, rfl, rfl, rfl, rfl, rfl, rfl⟩) .nil
  }
  refine ⟨hread, hholds, (loadSnapshot_eq_held_iff hread hholds).1.2 ?_⟩
  exact .cons (.inr ⟨rfl, rfl⟩) (.cons (.inl rfl) (.cons (.inr ⟨rfl, rfl⟩) .nil))

/-
The service of an endpoint that spells it `service_id` gives way to that of its snapshot, and a
snapshot that spells it so is refused for the service that its endpoint lacks.
-/
theorem loadSnapshot_ne_held :
    let file (text : String) : Files :=
      Files.write "f.yaml" (text.toList.map fun c => UInt8.ofNat c.toNat) {}
    let own := file ("serviceId: svc-1\nversion: 4\nendpoints:\n" ++
      "  - \x7bname: a, credential: t, service_id: other\x7d\n")
    let top := file ("service_id: svc-1\nversion: 4\nendpoints:\n" ++
      "  - \x7bname: a, credential: t\x7d\n")
    let holding (serviceId : Text) : Snapshot := {
      serviceId := "svc-1"
      version := 4
      endpoints := [{ serviceId, version := 4, name := "a", credential := "t" }]
    }
    (∃ entries items, readMapping .snapshot own "f.yaml" = .ok entries
      ∧ Holds entries items (holding "other")
      ∧ loadSnapshot own "f.yaml" = .ok (holding "svc-1"))
      ∧ ∃ entries items, readMapping .snapshot top "f.yaml" = .ok entries
        ∧ Holds entries items (holding "svc-1")
        ∧ loadSnapshot top "f.yaml" =
          .error (.load (.invalid "f.yaml" [⟨["endpoints", "0", "serviceId"], .notText⟩])) := by
  intro file own top holding
  let topItem : Entries := [("name", .text "a"), ("credential", .text "t")]
  let ownItem : Entries :=
    [("name", .text "a"), ("credential", .text "t"), ("service_id", .text "other")]
  let endpoints (item : Entries) : Text × Value := ("endpoints", .list [.map item])
  constructor
  · refine ⟨[("serviceId", .text "svc-1"), ("version", .int 4), endpoints ownItem], [.map ownItem],
      by decide +kernel, ?_, by decide +kernel⟩
    exact ⟨rfl, rfl, .inl rfl, .cons (.map rfl rfl ⟨rfl, rfl, rfl, rfl, rfl, rfl, rfl, rfl⟩) .nil⟩
  · refine ⟨[("service_id", .text "svc-1"), ("version", .int 4), endpoints topItem], [.map topItem],
      by decide +kernel, ?_, by decide +kernel⟩
    exact ⟨rfl, rfl, .inl rfl, .cons (.map rfl rfl ⟨rfl, rfl, rfl, rfl, rfl, rfl, rfl, rfl⟩) .nil⟩

end Converge.Document
