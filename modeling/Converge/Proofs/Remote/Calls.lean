import Converge.Proofs.Remote.Draft

/-!
This module contains what a service answers to the calls that a convergence makes of it. Main
statement: the call for a change either leaves the service as it was, or edits the draft, or is
stopped in the middle because a format version cannot be stored.
-/

namespace Converge

open List

namespace Change

def request (serviceId : Text) (version : Int) : Change → Request
  | .delete r => .delete serviceId version r.name
  | .create d => .create serviceId version d
  | .update d r _ => .update serviceId version r.name d

@[simp]
theorem serviceId_request (serviceId : Text) (version : Int) (c : Change) :
    (c.request serviceId version).serviceId = serviceId := by
  cases c <;> rfl

def SameName : Change → Prop
  | .update d r _ => r.name = d.name
  | _ => True

def Accepted (store : Storage) (c : Change) : Prop :=
  ∀ d, c.desired? = some d → ∀ n, d.formatVersion = some n → store.Accepts n

end Change

namespace HeldVersion

theorem putEndpoint_of_notMem {r : Stored} {endpoints : List Stored}
    (h : r.name ∉ Stored.names endpoints) : putEndpoint r endpoints = endpoints ++ [r] := by
  induction endpoints with
  | nil => rfl
  | cons q rest ih =>
    rw [Stored.names, map_cons, mem_cons, not_or] at h
    unfold putEndpoint
    rw [if_neg (Ne.symm h.1), ih h.2]
    rfl

theorem hasEndpoint_iff {v : HeldVersion} {name : Text} :
    v.hasEndpoint name = true ↔ name ∈ Stored.names v.endpoints := by
  simp [hasEndpoint, Stored.names]

end HeldVersion

namespace Service

def numbers (s : Service) : List Int :=
  s.versions.map HeldVersion.number

def withDraft (s : Service) (number : Int) (x : Draft) : Service :=
  { s with
    versions := s.versions ++ [{ number, endpoints := x.endpoints }]
    clock := x.clock
    mutations := x.mutations }

def withActive (s : Service) (number : Int) : Service :=
  { s with active := number }

def newDraft (s : Service) (number : Int) : Draft where
  endpoints := s.activeEndpoints.map (·.restamp number)
  clock := s.clock
  mutations := s.mutations

variable {store : Storage} {s : Service} {number : Int} {x : Draft}

theorem version?_eq_none_iff {n : Int} : s.version? n = none ↔ n ∉ s.numbers := by
  simp only [version?, numbers, find?_eq_none, decide_eq_true_eq, mem_map, not_exists, not_and]

theorem version?_withDraft (hnew : number ∉ s.numbers) :
    (s.withDraft number x).version? number = some { number, endpoints := x.endpoints } := by
  rw [← version?_eq_none_iff] at hnew
  unfold version? at hnew ⊢
  unfold withDraft
  rw [find?_append, hnew]
  simp

theorem requireMutable_withDraft (hnew : number ∉ s.numbers) (hactive : number ≠ s.active) :
    (s.withDraft number x).requireMutable number = .ok { number, endpoints := x.endpoints } := by
  unfold requireMutable requireVersion
  rw [version?_withDraft hnew]
  exact if_neg hactive

theorem setVersion_withDraft (hnew : number ∉ s.numbers) (endpoints : List Stored) :
    (s.withDraft number x).setVersion { number, endpoints }
      = s.withDraft number { x with endpoints } := by
  unfold setVersion withDraft
  have hkept : s.versions.map (fun w => if w.number = number then { number, endpoints } else w)
      = s.versions := by
    conv => rhs; rw [← map_id s.versions]
    apply map_congr_left
    intro w hw
    apply if_neg
    intro hnumber
    apply hnew
    rw [← hnumber]
    exact mem_map_of_mem hw
  simp [hkept]

theorem tick_withDraft :
    (s.withDraft number x).tick = s.withDraft number { x with clock := x.clock + 1 } := rfl

theorem stored_withDraft (store : Storage) (s : Service) (number : Int) (x : Draft) (d : Declared)
    (createdAt? : Option Timestamp) :
    ((s.withDraft number x).stored store number d createdAt?
        = .ok (store.write s.serviceId number x.clock d createdAt?)
      ∧ ∀ n, d.formatVersion = some n → store.Accepts n)
    ∨ ((∃ f, (s.withDraft number x).stored store number d createdAt? = .error f)
      ∧ ∃ n, d.formatVersion = some n ∧ ¬store.Accepts n) := by
  cases hversion : d.formatVersion with
  | none =>
    left
    simp [stored, Storage.write, hversion, Except.map, withDraft, now]
  | some n =>
    cases hstore : store n with
    | ok v? =>
      left
      refine ⟨?_, ?_⟩
      · simp [stored, Storage.write, hversion, hstore, Except.map, withDraft, now, Storage.kept]
      · intro m hm
        cases hm
        exact ⟨v?, hstore⟩
    | error f =>
      right
      refine ⟨⟨f, ?_⟩, n, rfl, ?_⟩
      · simp [stored, hversion, hstore, Except.map]
      · rintro ⟨v?, hv⟩
        rw [hstore] at hv
        cases hv

/--
What a call for a change comes to on a service that has the draft `x` as its newest version. It
may be `blocked` before the service looks at the change.
-/
inductive Answered {α : Type} (store : Storage) (s : Service) (number : Int) (x : Draft)
    (c : Change) (blocked : Prop) : Except Failure α × Service → Prop
  | done (reply : α) : ¬blocked → c.Fits (Stored.names x.endpoints) → c.Accepted store →
    Answered store s number x c blocked
      (.ok reply, s.withDraft number (x.edit store s.serviceId number c))
  | refused (f : Failure) : blocked ∨ ¬c.Fits (Stored.names x.endpoints) →
    Answered store s number x c blocked (.error f, s.withDraft number x)
  | unstorable (f : Failure) (x' : Draft) : ¬c.Accepted store →
    Answered store s number x c blocked (.error f, s.withDraft number x')

theorem not_accepted {c : Change} {d : Declared} (hd : c.desired? = some d)
    (h : ∃ n, d.formatVersion = some n ∧ ¬store.Accepts n) : ¬c.Accepted store := by
  obtain ⟨n, hn, hstore⟩ := h
  intro haccepted
  exact hstore (haccepted d hd n hn)

theorem accepted_of_desired? {c : Change} {d : Declared} (hd : c.desired? = some d)
    (h : ∀ n, d.formatVersion = some n → store.Accepts n) : c.Accepted store := by
  intro d' hd'
  rw [hd] at hd'
  cases hd'
  exact h

theorem answered_delete (hnew : number ∉ s.numbers) (hactive : number ≠ s.active) (r : Stored) :
    Answered store s number x (.delete r) False ((s.withDraft number x).delete number r.name) := by
  unfold Service.delete
  rw [requireMutable_withDraft hnew hactive]
  dsimp only
  split
  · next hhas =>
    rw [HeldVersion.hasEndpoint_iff] at hhas
    have hset := setVersion_withDraft (x := x) hnew (x.endpoints.filter (·.name ≠ r.name))
    unfold HeldVersion.erase
    rw [hset]
    apply Answered.done ()
    · exact not_false
    · exact hhas
    · intro d hd
      cases hd
  · next hhas =>
    rw [HeldVersion.hasEndpoint_iff] at hhas
    exact .refused _ (.inr hhas)

theorem answered_create (hnew : number ∉ s.numbers) (hactive : number ≠ s.active) (d : Declared) :
    Answered store s number x (.create d) False ((s.withDraft number x).create store number d) := by
  unfold Service.create
  rw [requireMutable_withDraft hnew hactive]
  dsimp only
  split
  · next hhas =>
    rw [HeldVersion.hasEndpoint_iff] at hhas
    exact .refused _ (.inr (not_not_intro hhas))
  · next hhas =>
    rw [HeldVersion.hasEndpoint_iff] at hhas
    rw [tick_withDraft]
    obtain ⟨hstored, haccepts⟩ | ⟨⟨f, hstored⟩, hrejects⟩ :=
      stored_withDraft store s number { x with clock := x.clock + 1 } d none
    · rw [hstored]
      dsimp only
      unfold HeldVersion.put
      rw [HeldVersion.putEndpoint_of_notMem hhas, setVersion_withDraft hnew]
      exact .done _ not_false hhas (accepted_of_desired? rfl haccepts)
    · rw [hstored]
      exact .unstorable f { x with clock := x.clock + 1 } (not_accepted rfl hrejects)

theorem answered_update (hnew : number ∉ s.numbers) (hactive : number ≠ s.active) (d : Declared)
    (r : Stored) (fields : List Field) (hname : r.name = d.name) :
    Answered store s number x (.update d r fields) False
      ((s.withDraft number x).update store number r.name d) := by
  unfold Service.update
  rw [requireMutable_withDraft hnew hactive]
  dsimp only
  split
  · next hfind =>
    apply Answered.refused _ (.inr _)
    rintro ⟨-, hmem⟩
    obtain ⟨q, hq, hqname⟩ := mem_map.1 hmem
    rw [find?_eq_none] at hfind
    apply hfind q hq
    rw [decide_eq_true_eq, hqname, hname]
  · next old hfind =>
    have hfits : Change.Fits (Stored.names x.endpoints) (.update d r fields) := by
      refine ⟨hname, ?_⟩
      have hold := find?_some hfind
      rw [decide_eq_true_eq] at hold
      rw [← hname, ← hold]
      exact mem_map_of_mem (mem_of_find?_eq_some hfind)
    have herased : d.name ∉ Stored.names (x.endpoints.filter (·.name ≠ r.name)) := by
      intro hmem
      obtain ⟨q, hq, hqname⟩ := mem_map.1 hmem
      rw [mem_filter, decide_eq_true_eq, hname] at hq
      exact hq.2 hqname
    unfold HeldVersion.erase
    rw [setVersion_withDraft hnew, tick_withDraft]
    obtain ⟨hstored, haccepts⟩ | ⟨⟨f, hstored⟩, hrejects⟩ :=
      stored_withDraft store s number
        { x with endpoints := x.endpoints.filter (·.name ≠ r.name), clock := x.clock + 1 } d
        old.createdAt
    · rw [hstored]
      dsimp only
      unfold HeldVersion.put
      rw [HeldVersion.putEndpoint_of_notMem herased, setVersion_withDraft hnew]
      have hdone : Answered store s number x (.update d r fields) False
          (.ok (store.write s.serviceId number (x.clock + 1) d old.createdAt),
            s.withDraft number (x.edit store s.serviceId number (.update d r fields))) :=
        .done _ not_false hfits (accepted_of_desired? rfl haccepts)
      rw [Draft.edit_update_of_find? hfind] at hdone
      exact hdone
    · rw [hstored]
      exact .unstorable f _ (not_accepted rfl hrejects)

theorem Answered.unblocked {α : Type} {c : Change} {blocked : Prop} {p : Except Failure α × Service}
    (hfree : ¬blocked) (h : Answered store s number x c False p) :
    Answered store s number x c blocked p := by
  cases h with
  | done reply _ hfits haccepted => exact .done reply hfree hfits haccepted
  | refused f hwhy => exact .refused f (.inr (hwhy.resolve_left not_false))
  | unstorable f x' hrejected => exact .unstorable f x' hrejected

def Blocks (s : Service) (r : Request) : Prop :=
  s.failure? r ≠ none ∨ r.serviceId ≠ s.serviceId

theorem client_of_blocks (store : Storage) {r : Request} (h : s.Blocks r) :
    ∃ f, client store r s = (.error f, s) := by
  unfold client
  cases hfailure : s.failure? r with
  | some f => exact ⟨f, rfl⟩
  | none =>
    obtain h | h := h
    · exact absurd hfailure h
    · dsimp only
      rw [if_neg h]
      exact ⟨_, rfl⟩

theorem client_of_not_blocks {r : Request} (h : ¬s.Blocks r) :
    client store r s = answer store r s := by
  unfold Blocks at h
  rw [not_or, not_not, not_not] at h
  unfold client
  rw [h.1]
  dsimp only
  rw [if_pos h.2]

/--
The call for a change leaves the service as it was, edits the draft, or is stopped in the middle
because a format version cannot be stored.
-/
theorem answered_request (store : Storage) (hnew : number ∉ s.numbers) (hactive : number ≠ s.active)
    (serviceId : Text) {c : Change} (hc : c.SameName) :
    Answered store s number x c (s.Blocks (c.request serviceId number))
      (client store (c.request serviceId number) (s.withDraft number x)) := by
  by_cases hblocks : s.Blocks (c.request serviceId number)
  · have hdraft : (s.withDraft number x).Blocks (c.request serviceId number) := hblocks
    obtain ⟨f, hcall⟩ := client_of_blocks store hdraft
    rw [hcall]
    exact .refused f (.inl hblocks)
  · have hdraft : ¬(s.withDraft number x).Blocks (c.request serviceId number) := hblocks
    rw [client_of_not_blocks hdraft]
    apply Answered.unblocked hblocks
    cases c with
    | delete r => exact answered_delete hnew hactive r
    | create d => exact answered_create hnew hactive d
    | update d r fields => exact answered_update hnew hactive d r fields hc

theorem client_activeVersion {serviceId : Text} {result : Except Failure Int} {s' : Service}
    (h : client store (.activeVersion serviceId) s = (result, s')) :
    s' = s ∧ ∀ n, result = .ok n → n = s.active := by
  by_cases hblocks : s.Blocks (.activeVersion serviceId)
  · obtain ⟨f, hcall⟩ := client_of_blocks store hblocks
    rw [hcall] at h
    cases h
    simp
  · rw [client_of_not_blocks hblocks] at h
    cases h
    refine ⟨rfl, ?_⟩
    intro n hn
    cases hn
    rfl

theorem requireVersion_active (h : s.active ∈ s.numbers) :
    ∃ v, s.requireVersion s.active = .ok v ∧ v.endpoints = s.activeEndpoints := by
  unfold requireVersion activeEndpoints
  cases hfind : s.version? s.active with
  | none =>
    rw [version?_eq_none_iff] at hfind
    exact absurd h hfind
  | some v => exact ⟨v, rfl, rfl⟩

theorem client_list (hs : s.active ∈ s.numbers) {serviceId : Text}
    {result : Except Failure (Option (List Stored))} {s' : Service}
    (h : client store (.list serviceId s.active) s = (result, s')) :
    s' = s ∧ ∀ listing, result = .ok listing → listing = some s.activeEndpoints := by
  by_cases hblocks : s.Blocks (.list serviceId s.active)
  · obtain ⟨f, hcall⟩ := client_of_blocks store hblocks
    rw [hcall] at h
    cases h
    simp
  · obtain ⟨v, hv, hendpoints⟩ := requireVersion_active hs
    rw [client_of_not_blocks hblocks, answer, hv] at h
    cases h
    rw [← hendpoints]
    refine ⟨rfl, ?_⟩
    intro listing hlisting
    cases hlisting
    rfl

theorem client_clone {serviceId : Text} {result : Except Failure Int} {s' : Service}
    (h : client store (.clone serviceId) s = (result, s')) :
    (∀ f, result = .error f → s' = s)
      ∧ ∀ n, result = .ok n → n = s.lastNumber + 1
        ∧ s' = s.withDraft (s.lastNumber + 1) (s.newDraft (s.lastNumber + 1)) := by
  by_cases hblocks : s.Blocks (.clone serviceId)
  · obtain ⟨f, hcall⟩ := client_of_blocks store hblocks
    rw [hcall] at h
    cases h
    simp
  · rw [client_of_not_blocks hblocks] at h
    change s.clone = (result, s') at h
    unfold clone at h
    split at h
    · cases h
      refine ⟨fun _ _ => rfl, ?_⟩
      intro n hn
      cases hn
    · cases h
      refine ⟨?_, ?_⟩
      · intro f hf
        cases hf
      · intro n hn
        cases hn
        exact ⟨rfl, rfl⟩

theorem client_activate {serviceId : Text} {result : Except Failure Unit} {s' : Service}
    (h : client store (.activate serviceId number) s = (result, s')) :
    (∀ f, result = .error f → s' = s) ∧ (result = .ok () → s' = s.withActive number) := by
  by_cases hblocks : s.Blocks (.activate serviceId number)
  · obtain ⟨f, hcall⟩ := client_of_blocks store hblocks
    rw [hcall] at h
    cases h
    simp
  · rw [client_of_not_blocks hblocks] at h
    change s.activate number = (result, s') at h
    unfold activate at h
    split at h
    · cases h
      simp
    · cases h
      simp [withActive]

end Service

end Converge
