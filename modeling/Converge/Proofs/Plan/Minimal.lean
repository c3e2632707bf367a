import Converge.Proofs.Plan.Empty
import Converge.Proofs.Remote.Reachable

/-!
This module contains what a call to change an endpoint leaves alone, and how many such calls it takes
to converge a version. Main statement: no calls that make a version match the desired endpoints are
fewer than the changes of the plan.
-/

namespace Converge

open List

namespace Stored.AgreeAt

variable {name : Text} {endpoints endpoints' endpoints'' : List Stored}

theorem refl (name : Text) (endpoints : List Stored) : AgreeAt name endpoints endpoints :=
  fun _ _ => .rfl

theorem trans (h : AgreeAt name endpoints endpoints') (h' : AgreeAt name endpoints' endpoints'') :
    AgreeAt name endpoints endpoints'' :=
  fun r hr => (h r hr).trans (h' r hr)

theorem of_perm (h : endpoints ~ endpoints') (name : Text) : AgreeAt name endpoints endpoints' :=
  fun _ _ => h.mem_iff

end Stored.AgreeAt

namespace HeldVersion

theorem agreeAt_putEndpoint (r : Stored) {name : Text} (h : r.name ≠ name)
    (endpoints : List Stored) : Stored.AgreeAt name endpoints (putEndpoint r endpoints) := by
  induction endpoints with
  | nil =>
    intro q hq
    have hne : q ≠ r := fun heq => h (by rw [← heq, hq])
    simp [putEndpoint, hne]
  | cons q rest ih =>
    intro t ht
    have hne : t ≠ r := fun heq => h (by rw [← heq, ht])
    unfold putEndpoint
    split
    · next hname =>
      -- the endpoint that is replaced has the name of the new one
      have hne' : t ≠ q := fun heq => h (by rw [← hname, ← heq, ht])
      rw [mem_cons, mem_cons, or_iff_right hne, or_iff_right hne']
    · rw [mem_cons, mem_cons, ih t ht]

theorem agreeAt_erase (v : HeldVersion) {name name' : Text} (h : name' ≠ name) :
    Stored.AgreeAt name v.endpoints (v.erase name').endpoints := by
  intro r hr
  have hne : r.name ≠ name' := fun heq => h (heq.symm.trans hr)
  simp [erase, hne]

end HeldVersion

namespace Request

/--
A call that changes endpoints of a version. An update keeps the name.
-/
def Edits (number : Int) : Request → Prop
  | .create _ version _ => version = number
  | .update _ version name record => version = number ∧ record.name = name
  | .delete _ version _ => version = number
  | _ => False

end Request

namespace Service

variable {store : Storage} {s s' : Service} {number : Int} {v : HeldVersion}

theorem version?_setVersion (h : s.version? number = some v) (v' : HeldVersion)
    (hnumber : v'.number = number) : (s.setVersion v').version? number = some v' := by
  subst hnumber
  unfold version? setVersion at *
  dsimp only
  rw [find?_map]
  have hpredicate : (fun w : HeldVersion => decide (w.number = v'.number))
        ∘ (fun w => if w.number = v'.number then v' else w)
      = fun w => decide (w.number = v'.number) := by
    funext w
    rw [Function.comp_apply]
    split
    · next hw => simp [hw]
    · rfl
  rw [hpredicate, h, Option.map_some, if_pos (by simpa using find?_some h)]

theorem name_of_stored {d : Declared} {createdAt? : Option Timestamp} {r : Stored}
    (h : s.stored store number d createdAt? = .ok r) : r.name = d.name := by
  unfold stored at h
  cases hversion : d.formatVersion with
  | none =>
    rw [hversion] at h
    cases h
    rfl
  | some n =>
    rw [hversion] at h
    dsimp only at h
    cases hstore : store n with
    | error f =>
      rw [hstore] at h
      cases h
    | ok formatVersion =>
      rw [hstore] at h
      cases h
      rfl

/--
That a version still holds what it held, but for the endpoints of one name.
-/
def Keeps (s' : Service) (number : Int) (v : HeldVersion) (name' : Text) : Prop :=
  ∃ v', s'.version? number = some v'
    ∧ ∀ name, name ≠ name' → Stored.AgreeAt name v.endpoints v'.endpoints

theorem keeps_create {d : Declared} {reply : Stored}
    (h : s.create store number d = (.ok reply, s')) (hv : s.version? number = some v) :
    s'.Keeps number v d.name := by
  unfold create at h
  split at h
  · cases h
  · next w hmutable =>
    obtain rfl := Option.some.inj (hv.symm.trans (version?_of_requireMutable hmutable))
    split at h
    · cases h
    · dsimp only at h
      split at h
      · cases h
      · next r hstored =>
        cases h
        have htick : s.tick.version? number = some v := hv
        refine ⟨v.put reply, version?_setVersion htick _ (mem_of_version? hv).2, ?_⟩
        intro name hname
        apply HeldVersion.agreeAt_putEndpoint
        rw [name_of_stored hstored]
        exact hname.symm

theorem keeps_update {d : Declared} {reply : Stored}
    (h : s.update store number d.name d = (.ok reply, s')) (hv : s.version? number = some v) :
    s'.Keeps number v d.name := by
  unfold update at h
  split at h
  · cases h
  · next w hmutable =>
    obtain rfl := Option.some.inj (hv.symm.trans (version?_of_requireMutable hmutable))
    split at h
    · cases h
    · dsimp only at h
      split at h
      · cases h
      · next r hstored =>
        cases h
        have hnumber := (mem_of_version? hv).2
        have herased : (s.setVersion (v.erase d.name)).tick.version? number
            = some (v.erase d.name) := version?_setVersion hv _ hnumber
        refine ⟨(v.erase d.name).put reply, version?_setVersion herased _ hnumber, ?_⟩
        intro name hname
        apply (HeldVersion.agreeAt_erase v hname.symm).trans
        apply HeldVersion.agreeAt_putEndpoint
        rw [name_of_stored hstored]
        exact hname.symm

theorem keeps_delete {name' : Text} (h : s.delete number name' = (.ok (), s'))
    (hv : s.version? number = some v) : s'.Keeps number v name' := by
  unfold delete at h
  split at h
  · cases h
  · next w hmutable =>
    obtain rfl := Option.some.inj (hv.symm.trans (version?_of_requireMutable hmutable))
    split at h
    · cases h
      refine ⟨v.erase name', version?_setVersion hv _ (mem_of_version? hv).2, ?_⟩
      exact fun name hname => HeldVersion.agreeAt_erase v hname.symm
    · cases h

/--
A call that changes a version and succeeds leaves alone what the version holds under other names.
-/
theorem keeps_client {r : Request} (hr : r.Edits number) {reply : r.Reply}
    (h : client store r s = (.ok reply, s')) (hv : s.version? number = some v) :
    ∃ name, r.endpoint? = some name ∧ s'.Keeps number v name := by
  have hfree : ¬s.Blocks r := by
    intro hblocks
    obtain ⟨f, hcall⟩ := client_of_blocks store hblocks
    rw [hcall] at h
    cases h
  rw [client_of_not_blocks hfree] at h
  cases r with
  | create serviceId version d =>
    obtain rfl : version = number := hr
    exact ⟨_, rfl, keeps_create h hv⟩
  | update serviceId version name d =>
    obtain ⟨rfl, rfl⟩ : version = number ∧ d.name = name := hr
    exact ⟨_, rfl, keeps_update h hv⟩
  | delete serviceId version name =>
    obtain rfl : version = number := hr
    exact ⟨_, rfl, keeps_delete h hv⟩
  | activeVersion => cases hr
  | list => cases hr
  | clone => cases hr
  | activate => cases hr

/--
What becomes of a service by calls that are made one after the other until one fails.
-/
def serve (store : Storage) : List Request → Service → Except Failure Service
  | [], s => .ok s
  | r :: rest, s =>
    match client store r s with
    | (.ok _, s) => serve store rest s
    | (.error f, _) => .error f

theorem agreeAt_serve {calls : List Request} (hcalls : ∀ r ∈ calls, r.Edits number)
    (h : serve store calls s = .ok s') (hv : s.version? number = some v) :
    ∃ v', s'.version? number = some v'
      ∧ ∀ name, name ∉ calls.filterMap Request.endpoint? →
        Stored.AgreeAt name v.endpoints v'.endpoints := by
  induction calls generalizing s v with
  | nil =>
    cases h
    exact ⟨v, hv, fun name _ => .refl name _⟩
  | cons r rest ih =>
    rw [forall_mem_cons] at hcalls
    unfold serve at h
    split at h
    · next reply s₁ hcall =>
      obtain ⟨name', hname', v₁, hv₁, hfirst⟩ := keeps_client hcalls.1 hcall hv
      obtain ⟨v', hv', hrest⟩ := ih hcalls.2 h hv₁
      refine ⟨v', hv', ?_⟩
      intro name hname
      rw [filterMap_cons_some hname', mem_cons, not_or] at hname
      exact (hfirst name hname.1).trans (hrest name hname.2)
    · cases h

end Service

namespace Plan

/--
No calls that make a version match the desired endpoints are fewer than the changes of the plan,
whatever they do on the way and however the service represents format versions.
-/
theorem length_le_of_serve {desired : List Declared} {observed : List Stored}
    {changes : List Change} (hplan : between desired observed = .ok changes)
    (hnames : (Stored.names observed).Nodup) {store : Storage} {s s' : Service} {number : Int}
    {v v' : HeldVersion} (hv : s.version? number = some v) (hheld : v.endpoints ~ observed)
    {calls : List Request} (hcalls : ∀ r ∈ calls, r.Edits number)
    (hserve : Service.serve store calls s = .ok s') (hv' : s'.version? number = some v')
    (hmatches : Matches desired v'.endpoints) : changes.length ≤ calls.length := by
  obtain ⟨w, hw, hagree⟩ := Service.agreeAt_serve hcalls hserve hv
  obtain rfl := Option.some.inj (hv'.symm.trans hw)
  -- each change is of a name of its own, and some call is about that name
  have hsubset : changes.map Change.name ⊆ calls.filterMap Request.endpoint? := by
    intro name hname
    obtain ⟨c, hc, rfl⟩ := mem_map.1 hname
    by_contra hnone
    apply not_agreeAt_of_mem hmatches hnames hplan hc
    exact (Stored.AgreeAt.of_perm hheld.symm _).trans (hagree _ hnone)
  have hnodup : (changes.map Change.name).Nodup := by
    obtain ⟨wanted, hindex, hchanges⟩ := between_eq_ok_iff.1 hplan
    exact nodup_changes_names (nodup_names_index hindex) (nodup_names_latest observed) hchanges
  calc changes.length
      = (changes.map Change.name).length := (length_map _).symm
    _ ≤ (calls.filterMap Request.endpoint?).length := (subperm_of_subset hnodup hsubset).length_le
    _ ≤ calls.length := length_filterMap_le _ _

/-
A replacement takes two changes, and a detour takes no fewer calls.
-/
theorem length_le_of_serve_after_detour :
    let old : Stored := { serviceId := "svc-1", version := 1, name := "a", credential := "key" }
    let new : Declared := { name := "b", credential := "key", formatVersion := some 2 }
    let s : Service := (Service.ofEndpoints "svc-1" 1 [old] 1000).clone.2
    let calls : List Request := [
      .create "svc-1" 2 { new with credential := "none" }, .delete "svc-1" 2 "a",
      .update "svc-1" 2 "b" new]
    ∃ changes s', between [new] [{ old with version := 2 }] = .ok changes
      ∧ Service.serve .unchanged calls s = .ok s'
      ∧ changes.length = 2 ∧ changes.length ≤ calls.length := by
  intro old new s calls
  have hplan : between [new] [{ old with version := 2 }]
      = .ok [.delete { old with version := 2 }, .create new] := by
    decide +kernel
  have hcalls : ∀ r ∈ calls, r.Edits 2 := by
    simp [calls, Request.Edits, new]
  let s' := (Service.serve .unchanged calls s).toOption.getD s
  have hserve : Service.serve .unchanged calls s = .ok s' := rfl
  let stored := Storage.unchanged.write "svc-1" 2 2 new (some (.ofSeconds (Service.epoch + 1) 0))
  have hv' : s'.version? 2 = some { number := 2, endpoints := [stored] } := by decide +kernel
  have hmatches : Matches [new] [stored] :=
    ⟨by decide, by decide, .of_eq (by decide +kernel)⟩
  exact ⟨_, s', hplan, hserve, rfl,
    length_le_of_serve hplan (by decide) rfl (.refl _) hcalls hserve hv' hmatches⟩

end Plan

end Converge
