import Converge.Proofs.Plan.Matches
import Converge.Remote.Service

/-!
This module contains drafts, the endpoints of an inactive version while changes are made to it, and
what a list of changes makes of them. Main statement: the changes of a plan turn the endpoints that
it was found against into exactly the desired ones.
-/

namespace Converge

open List

namespace Storage

def kept (store : Storage) (n : Int) : Option FormatVersion :=
  match store n with
  | .ok v? => v?
  | .error _ => none

def Accepts (store : Storage) (n : Int) : Prop :=
  ∃ v?, store n = .ok v?

/--
Whether what is kept of `n` reads back as `n`.
-/
def Keeps (store : Storage) (n : Int) : Prop :=
  (store.kept n).bind FormatVersion.toInt? = some n

def write (store : Storage) (serviceId : Text) (version : Int) (clock : Nat) (d : Declared)
    (createdAt? : Option Timestamp) : Stored :=
  let now : Timestamp := .ofSeconds (Service.epoch + clock) 0
  {
    serviceId := serviceId
    version := version
    name := d.name
    credential := d.credential
    format := d.format
    formatVersion := d.formatVersion.bind store.kept
    placement := d.placement
    responseCondition := d.responseCondition
    createdAt := some (createdAt?.getD now)
    updatedAt := some now
  }

theorem kept_of_eq_ok {store : Storage} {n : Int} {v? : Option FormatVersion}
    (h : store n = .ok v?) : store.kept n = v? := by
  unfold kept
  rw [h]

theorem Keeps.accepts {store : Storage} {n : Int} (h : store.Keeps n) : store.Accepts n := by
  unfold Keeps kept at h
  cases hstore : store n with
  | ok v? => exact ⟨v?, hstore⟩
  | error f =>
    rw [hstore] at h
    cases h

@[simp]
theorem name_write (store : Storage) (serviceId : Text) (version : Int) (clock : Nat) (d : Declared)
    (createdAt? : Option Timestamp) :
    (store.write serviceId version clock d createdAt?).name = d.name := rfl

theorem project_write {store : Storage} {serviceId : Text} {version : Int} {clock : Nat}
    {d : Declared} {createdAt? : Option Timestamp} {n : Int} (hcheck : d.check = .ok ())
    (hversion : d.formatVersion = some n) (hkeeps : store.Keeps n) :
    (store.write serviceId version clock d createdAt?).project = .ok d := by
  obtain ⟨name, credential, format, formatVersion, placement, responseCondition⟩ := d
  unfold Keeps at hkeeps
  dsimp only at hversion
  subst hversion
  unfold Declared.check at hcheck
  dsimp only at hcheck
  simp only [Stored.project, Stored.check, Stored.projectVersion, write, Option.bind_some, hcheck]
  cases hkept : store.kept n with
  | none =>
    rw [hkept] at hkeeps
    cases hkeeps
  | some v =>
    rw [hkept, Option.bind_some] at hkeeps
    simp [hkeeps, Except.map, Stored.withVersion]

end Storage

namespace Stored

def restamp (r : Stored) (version : Int) : Stored :=
  { r with version }

theorem names_map_restamp (endpoints : List Stored) (version : Int) :
    names (endpoints.map (·.restamp version)) = names endpoints := by
  unfold names
  rw [map_map]
  rfl

end Stored

/--
An inactive version while changes are made to it, with the counters of its service.
-/
structure Draft where
  endpoints : List Stored
  clock : Nat
  mutations : Nat

namespace Draft

def edit (store : Storage) (serviceId : Text) (version : Int) (x : Draft) : Change → Draft
  | .delete r =>
    { x with endpoints := x.endpoints.filter (·.name ≠ r.name), mutations := x.mutations + 1 }
  -- what is written goes to the end
  | .create d => {
      endpoints := x.endpoints ++ [store.write serviceId version (x.clock + 1) d none]
      clock := x.clock + 1
      mutations := x.mutations + 1
    }
  | .update d r _ =>
    -- the time of creation outlives the endpoint
    let createdAt? := (x.endpoints.find? (·.name = r.name)).bind (·.createdAt)
    {
      endpoints := x.endpoints.filter (·.name ≠ r.name)
        ++ [store.write serviceId version (x.clock + 1) d createdAt?]
      clock := x.clock + 1
      mutations := x.mutations + 1
    }

theorem edit_update_of_find? {store : Storage} {serviceId : Text} {version : Int} {x : Draft}
    {r old : Stored} (h : x.endpoints.find? (·.name = r.name) = some old) (d : Declared)
    (fields : List Field) :
    x.edit store serviceId version (.update d r fields) = {
      endpoints := x.endpoints.filter (·.name ≠ r.name)
        ++ [store.write serviceId version (x.clock + 1) d old.createdAt]
      clock := x.clock + 1
      mutations := x.mutations + 1
    } := by
  simp only [edit, h, Option.bind_some]

def editAll (store : Storage) (serviceId : Text) (version : Int) (x : Draft)
    (changes : List Change) : Draft :=
  changes.foldl (edit store serviceId version) x

theorem editAll_cons (store : Storage) (serviceId : Text) (version : Int) (x : Draft) (c : Change)
    (rest : List Change) :
    x.editAll store serviceId version (c :: rest)
      = (x.edit store serviceId version c).editAll store serviceId version rest := rfl

end Draft

namespace Change

def Fits (names : List Text) : Change → Prop
  | .delete r => r.name ∈ names
  | .create d => d.name ∉ names
  | .update d r _ => r.name = d.name ∧ d.name ∈ names

def Kept (store : Storage) (c : Change) : Prop :=
  ∀ d, c.desired? = some d → ∀ n, d.formatVersion = some n → store.Keeps n

def Wrote (store : Storage) (serviceId : Text) (version : Int) (c : Change) (q : Stored) : Prop :=
  ∃ d clock createdAt?, c.desired? = some d ∧ q = store.write serviceId version clock d createdAt?

theorem name_of_desired? {c : Change} {d : Declared} (h : c.desired? = some d) :
    d.name = c.name := by
  cases c with
  | delete r => cases h
  | create d' =>
    cases h
    rfl
  | update d' r fields =>
    cases h
    rfl

theorem name_of_wrote {store : Storage} {serviceId : Text} {version : Int} {c : Change} {q : Stored}
    (h : c.Wrote store serviceId version q) : q.name = c.name := by
  obtain ⟨d, clock, createdAt?, hd, rfl⟩ := h
  rw [Storage.name_write, name_of_desired? hd]

end Change

namespace Draft

variable {store : Storage} {serviceId : Text} {version : Int} {x : Draft} {c : Change} {q : Stored}

theorem mem_of_mem_edit (hfits : c.Fits (Stored.names x.endpoints))
    (h : q ∈ (x.edit store serviceId version c).endpoints) :
    (q ∈ x.endpoints ∧ q.name ≠ c.name) ∨ c.Wrote store serviceId version q := by
  cases c with
  | delete r =>
    simp only [edit, mem_filter, decide_eq_true_eq] at h
    exact .inl h
  | create d =>
    simp only [edit, mem_append, mem_singleton] at h
    obtain h | h := h
    · left
      refine ⟨h, ?_⟩
      intro hname
      apply hfits
      change q.name = d.name at hname
      rw [← hname]
      exact mem_map_of_mem h
    · exact .inr ⟨d, _, _, rfl, h⟩
  | update d r fields =>
    simp only [edit, mem_append, mem_filter, decide_eq_true_eq, mem_singleton] at h
    obtain ⟨h, hname⟩ | h := h
    · left
      rw [hfits.1] at hname
      exact ⟨h, hname⟩
    · exact .inr ⟨d, _, _, rfl, h⟩

theorem mem_edit_of_mem (hfits : c.Fits (Stored.names x.endpoints)) (hq : q ∈ x.endpoints)
    (hname : q.name ≠ c.name) : q ∈ (x.edit store serviceId version c).endpoints := by
  cases c with
  | delete r =>
    simp only [edit, mem_filter, decide_eq_true_eq]
    exact ⟨hq, hname⟩
  | create d =>
    simp only [edit, mem_append]
    exact .inl hq
  | update d r fields =>
    simp only [edit, mem_append, mem_filter, decide_eq_true_eq]
    rw [hfits.1]
    exact .inl ⟨hq, hname⟩

theorem exists_wrote_of_desired? {d : Declared} (hd : c.desired? = some d) :
    ∃ q ∈ (x.edit store serviceId version c).endpoints, c.Wrote store serviceId version q := by
  cases c with
  | delete r => cases hd
  | create d' =>
    refine ⟨_, mem_append_right _ (mem_singleton_self _), ?_⟩
    exact ⟨d', _, _, rfl, rfl⟩
  | update d' r fields =>
    refine ⟨_, mem_append_right _ (mem_singleton_self _), ?_⟩
    exact ⟨d', _, _, rfl, rfl⟩

theorem mem_names_edit_iff (hfits : c.Fits (Stored.names x.endpoints)) {name : Text}
    (hname : name ≠ c.name) :
    name ∈ Stored.names (x.edit store serviceId version c).endpoints
      ↔ name ∈ Stored.names x.endpoints := by
  constructor
  · intro h
    obtain ⟨q, hq, rfl⟩ := mem_map.1 h
    obtain ⟨hq, -⟩ | hwrote := mem_of_mem_edit hfits hq
    · exact mem_map_of_mem hq
    · exact absurd (Change.name_of_wrote hwrote) hname
  · intro h
    obtain ⟨q, hq, rfl⟩ := mem_map.1 h
    exact mem_map_of_mem (mem_edit_of_mem hfits hq hname)

theorem nodup_edit (hfits : c.Fits (Stored.names x.endpoints))
    (hx : (Stored.names x.endpoints).Nodup) :
    (Stored.names (x.edit store serviceId version c).endpoints).Nodup := by
  have hkept (name : Text) : (Stored.names (x.endpoints.filter (·.name ≠ name))).Nodup :=
    hx.sublist (filter_sublist.map Stored.name)
  cases c with
  | delete r => exact hkept r.name
  | create d =>
    simp only [edit, Stored.names, map_append, map_singleton, Storage.name_write]
    rw [← concat_eq_append]
    exact hx.concat hfits
  | update d r fields =>
    simp only [edit, Stored.names, map_append, map_singleton, Storage.name_write]
    rw [← concat_eq_append]
    apply (hkept r.name).concat
    intro h
    obtain ⟨q, hq, hname⟩ := mem_map.1 h
    rw [mem_filter, decide_eq_true_eq, hfits.1] at hq
    exact hq.2 hname

theorem fits_edit (hfits : c.Fits (Stored.names x.endpoints)) {c' : Change}
    (hfits' : c'.Fits (Stored.names x.endpoints)) (hname : c'.name ≠ c.name) :
    c'.Fits (Stored.names (x.edit store serviceId version c).endpoints) := by
  cases c' with
  | delete r => exact (mem_names_edit_iff hfits hname).2 hfits'
  | create d => exact fun h => hfits' ((mem_names_edit_iff hfits hname).1 h)
  | update d r fields => exact ⟨hfits'.1, (mem_names_edit_iff hfits hname).2 hfits'.2⟩

variable {changes : List Change}

theorem fits_editAll_tail (hnodup : ((c :: changes).map Change.name).Nodup)
    (hfits : ∀ c' ∈ c :: changes, c'.Fits (Stored.names x.endpoints)) :
    ∀ c' ∈ changes, c'.Fits (Stored.names (x.edit store serviceId version c).endpoints) := by
  intro c' hc'
  rw [map_cons, nodup_cons] at hnodup
  apply fits_edit (hfits c mem_cons_self) (hfits c' (mem_cons_of_mem c hc'))
  intro hname
  apply hnodup.1
  rw [← hname]
  exact mem_map_of_mem hc'

theorem nodup_editAll (hnodup : (changes.map Change.name).Nodup)
    (hfits : ∀ c ∈ changes, c.Fits (Stored.names x.endpoints))
    (hx : (Stored.names x.endpoints).Nodup) :
    (Stored.names (x.editAll store serviceId version changes).endpoints).Nodup := by
  induction changes generalizing x with
  | nil => exact hx
  | cons c rest ih =>
    apply ih (nodup_cons.1 hnodup).2 (fits_editAll_tail hnodup hfits)
    exact nodup_edit (hfits c mem_cons_self) hx

theorem mem_of_mem_editAll (hnodup : (changes.map Change.name).Nodup)
    (hfits : ∀ c ∈ changes, c.Fits (Stored.names x.endpoints))
    (h : q ∈ (x.editAll store serviceId version changes).endpoints) :
    (q ∈ x.endpoints ∧ ∀ c ∈ changes, q.name ≠ c.name)
      ∨ ∃ c ∈ changes, c.Wrote store serviceId version q := by
  induction changes generalizing x with
  | nil => exact .inl ⟨h, by simp⟩
  | cons c rest ih =>
    obtain ⟨hq, hrest⟩ | ⟨c', hc', hwrote⟩ :=
      ih (nodup_cons.1 hnodup).2 (fits_editAll_tail hnodup hfits) h
    · obtain ⟨hq, hname⟩ | hwrote := mem_of_mem_edit (hfits c mem_cons_self) hq
      · left
        refine ⟨hq, ?_⟩
        rw [forall_mem_cons]
        exact ⟨hname, hrest⟩
      · exact .inr ⟨c, mem_cons_self, hwrote⟩
    · exact .inr ⟨c', mem_cons_of_mem c hc', hwrote⟩

theorem mem_editAll_of_mem (hnodup : (changes.map Change.name).Nodup)
    (hfits : ∀ c ∈ changes, c.Fits (Stored.names x.endpoints)) (hq : q ∈ x.endpoints)
    (hnames : ∀ c ∈ changes, q.name ≠ c.name) :
    q ∈ (x.editAll store serviceId version changes).endpoints := by
  induction changes generalizing x with
  | nil => exact hq
  | cons c rest ih =>
    rw [forall_mem_cons] at hnames
    apply ih (nodup_cons.1 hnodup).2 (fits_editAll_tail hnodup hfits) _ hnames.2
    exact mem_edit_of_mem (hfits c mem_cons_self) hq hnames.1

theorem exists_wrote_editAll (hnodup : (changes.map Change.name).Nodup)
    (hfits : ∀ c ∈ changes, c.Fits (Stored.names x.endpoints)) (hc : c ∈ changes) {d : Declared}
    (hd : c.desired? = some d) :
    ∃ q ∈ (x.editAll store serviceId version changes).endpoints,
      c.Wrote store serviceId version q := by
  induction changes generalizing x with
  | nil => cases hc
  | cons c' rest ih =>
    rw [editAll_cons]
    obtain ⟨hhead, htail⟩ := nodup_cons.1 hnodup
    obtain rfl | hc := mem_cons.1 hc
    · obtain ⟨q, hq, hwrote⟩ := exists_wrote_of_desired? (x := x) hd
      refine ⟨q, mem_editAll_of_mem htail (fits_editAll_tail hnodup hfits) hq ?_, hwrote⟩
      intro c'' hc'' hname
      rw [Change.name_of_wrote hwrote] at hname
      apply hhead
      rw [hname]
      exact mem_map_of_mem hc''
    · exact ih htail (fits_editAll_tail hnodup hfits) hc

variable {desired wanted : List Declared} {current : List Stored}

theorem fits_of_mem_changes (hc : (current.map Stored.name).Nodup)
    (h : Plan.changes wanted current = .ok changes) (hmem : c ∈ changes) :
    c.Fits (Stored.names current) := by
  have hneed := (Plan.mem_changes_iff hc h).1 hmem
  cases c with
  | delete r => exact mem_map_of_mem hneed.1
  | create d =>
    intro hname
    obtain ⟨r, hr, heq⟩ := mem_map.1 hname
    exact hneed.2 r hr heq
  | update d r fields =>
    obtain ⟨-, hr, hname, -⟩ := hneed
    refine ⟨hname, ?_⟩
    rw [← hname]
    exact mem_map_of_mem hr

theorem fits_restamped (hc : (current.map Stored.name).Nodup)
    (h : Plan.changes wanted current = .ok changes)
    (hx : x.endpoints = current.map (·.restamp version)) :
    ∀ c ∈ changes, c.Fits (Stored.names x.endpoints) := by
  intro c hmem
  rw [hx, Stored.names_map_restamp]
  exact fits_of_mem_changes hc h hmem

theorem project_of_wrote (hindex : Plan.index desired = .ok wanted)
    (hc : (current.map Stored.name).Nodup) (h : Plan.changes wanted current = .ok changes)
    (hmem : c ∈ changes) (hkeeps : c.Kept store)
    (hwrote : c.Wrote store serviceId version q) :
    ∃ d ∈ wanted, q.project = .ok d ∧ c.desired? = some d := by
  obtain ⟨d, clock, createdAt?, hd, rfl⟩ := hwrote
  have hwanted := Plan.mem_wanted_of_desired? hc h hmem hd
  obtain ⟨d₀, -, hcheck, rfl⟩ := (Plan.mem_wanted_iff hindex).1 hwanted
  refine ⟨d₀.filled, hwanted, ?_, hd⟩
  exact Storage.project_write hcheck d₀.formatVersion_filled (hkeeps _ hd _ d₀.formatVersion_filled)

theorem exists_wanted_of_mem_editAll (hindex : Plan.index desired = .ok wanted)
    (hc : (current.map Stored.name).Nodup) (h : Plan.changes wanted current = .ok changes)
    (hkeeps : ∀ c ∈ changes, c.Kept store)
    (hx : x.endpoints = current.map (·.restamp version))
    (hq : q ∈ (x.editAll store serviceId version changes).endpoints) :
    ∃ d ∈ wanted, q.project = .ok d := by
  have hnames := Plan.nodup_changes_names (Plan.nodup_names_index hindex) hc h
  obtain ⟨hq, hfree⟩ | ⟨c, hmem, hwrote⟩ := mem_of_mem_editAll hnames (fits_restamped hc h hx) hq
  -- no change has the name of `q`, so it is neither deleted nor updated
  · rw [hx] at hq
    obtain ⟨r, hr, rfl⟩ := mem_map.1 hq
    obtain hdelete | ⟨d, hd, hname, hproject | ⟨fields, hupdate⟩⟩ := Plan.observed_cases hc h hr
    · exact absurd rfl (hfree _ hdelete)
    · exact ⟨d, hd, hproject⟩
    · exact absurd hname.symm (hfree _ hupdate)
  · obtain ⟨d, hd, hproject, -⟩ := project_of_wrote hindex hc h hmem (hkeeps c hmem) hwrote
    exact ⟨d, hd, hproject⟩

theorem exists_mem_editAll_of_desired? (hindex : Plan.index desired = .ok wanted)
    (hc : (current.map Stored.name).Nodup) (h : Plan.changes wanted current = .ok changes)
    (hkeeps : ∀ c ∈ changes, c.Kept store)
    (hx : x.endpoints = current.map (·.restamp version)) (hmem : c ∈ changes) {d : Declared}
    (hd : c.desired? = some d) :
    ∃ q ∈ (x.editAll store serviceId version changes).endpoints, q.project = .ok d := by
  have hnames := Plan.nodup_changes_names (Plan.nodup_names_index hindex) hc h
  obtain ⟨q, hq, hwrote⟩ := exists_wrote_editAll hnames (fits_restamped hc h hx) hmem hd
  obtain ⟨d', -, hproject, hd'⟩ := project_of_wrote hindex hc h hmem (hkeeps c hmem) hwrote
  rw [hd] at hd'
  cases hd'
  exact ⟨q, hq, hproject⟩

theorem exists_mem_editAll_of_wanted (hindex : Plan.index desired = .ok wanted)
    (hc : (current.map Stored.name).Nodup) (h : Plan.changes wanted current = .ok changes)
    (hkeeps : ∀ c ∈ changes, c.Kept store)
    (hx : x.endpoints = current.map (·.restamp version)) {d : Declared} (hd : d ∈ wanted) :
    ∃ q ∈ (x.editAll store serviceId version changes).endpoints, q.project = .ok d := by
  have hw := Plan.nodup_names_index hindex
  by_cases hobserved : ∃ r ∈ current, r.name = d.name
  · obtain ⟨r, hr, hname⟩ := hobserved
    obtain hdelete | ⟨d', hd', hname', hproject⟩ := Plan.observed_cases hc h hr
    · have hneed := (Plan.mem_changes_iff hc h).1 hdelete
      exact absurd hname.symm (hneed.2 d hd)
    · obtain rfl : d' = d := inj_on_of_nodup_map hw hd' hd (hname'.trans hname)
      obtain hproject | ⟨fields, hupdate⟩ := hproject
      -- what is observed as it should be is in no change's way
      · refine ⟨r.restamp version, ?_, hproject⟩
        apply mem_editAll_of_mem (Plan.nodup_changes_names hw hc h) (fits_restamped hc h hx)
        · rw [hx]
          exact mem_map_of_mem hr
        · intro c hmem
          exact Plan.name_ne_of_project hw hc h hd hr hproject hmem
      · exact exists_mem_editAll_of_desired? hindex hc h hkeeps hx hupdate rfl
  · have hcreate : .create d ∈ changes := by
      rw [Plan.mem_changes_iff hc h]
      refine ⟨hd, ?_⟩
      intro r hr hname
      exact hobserved ⟨r, hr, hname⟩
    exact exists_mem_editAll_of_desired? hindex hc h hkeeps hx hcreate rfl

/--
The changes of a plan turn the endpoints that it was found against into exactly the desired ones.
-/
theorem matches_editAll (hindex : Plan.index desired = .ok wanted)
    (hc : (current.map Stored.name).Nodup) (h : Plan.changes wanted current = .ok changes)
    (hkeeps : ∀ c ∈ changes, c.Kept store)
    (hx : x.endpoints = current.map (·.restamp version)) :
    Matches desired (x.editAll store serviceId version changes).endpoints := by
  have hnames := Plan.nodup_changes_names (Plan.nodup_names_index hindex) hc h
  obtain ⟨-, hvalid, hdesired⟩ := Plan.index_eq_ok_iff.1 hindex
  apply Matches.of_mem_iff hvalid hdesired
  · apply nodup_editAll hnames (fits_restamped hc h hx)
    rw [hx, Stored.names_map_restamp]
    exact hc
  · intro q hq
    obtain ⟨d, hd, hproject⟩ := exists_wanted_of_mem_editAll hindex hc h hkeeps hx hq
    obtain ⟨d₀, hd₀, -, rfl⟩ := (Plan.mem_wanted_iff hindex).1 hd
    exact ⟨d₀, hd₀, hproject⟩
  · intro d₀ hd₀
    apply exists_mem_editAll_of_wanted hindex hc h hkeeps hx
    exact (Plan.mem_wanted_iff hindex).2 ⟨d₀, hd₀, hvalid d₀ hd₀, rfl⟩

end Draft

end Converge
