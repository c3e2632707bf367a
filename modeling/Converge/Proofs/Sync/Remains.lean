import Converge.Proofs.Remote.Reachable
import Converge.Proofs.Sync.Course

/-!
This module contains what a convergence leaves of a service. Main statement: one that fails either
leaves the service as it was or adds one inactive version, to which the first changes of the plan
were made, as many as the fault tells.
-/

namespace Converge

open List

namespace Event

def isChange : Event → Bool
  | .called r succeeded => succeeded && r.isChange
  | .polled _ => false

def changeCount (events : List Event) : Nat :=
  events.countP isChange

@[simp]
theorem changeCount_nil : changeCount [] = 0 := rfl

@[simp]
theorem changeCount_append (events events' : List Event) :
    changeCount (events ++ events') = changeCount events + changeCount events' :=
  countP_append

@[simp]
theorem changeCount_called (r : Request) (succeeded : Bool) (events : List Event) :
    changeCount (.called r succeeded :: events)
      = changeCount events + if (succeeded && r.isChange) = true then 1 else 0 :=
  countP_cons

end Event

theorem Polled.changeCount_eq {σ : Type} {signal? : Option (Signal σ)} {n : Nat} {answer : Bool}
    {events : List Event} (h : Polled signal? n answer events) : Event.changeCount events = 0 := by
  cases h <;> rfl

namespace Plan

theorem sameName_of_between {desired : List Declared} {observed : List Stored}
    {changes : List Change} (h : between desired observed = .ok changes) {c : Change}
    (hc : c ∈ changes) : c.SameName := by
  obtain ⟨wanted, hindex, hchanges⟩ := between_eq_ok_iff.1 h
  have hneed := (mem_changes_iff (nodup_names_latest observed) hchanges).1 hc
  cases c with
  | create d => trivial
  | update d r fields => exact hneed.2.2.1
  | delete r => trivial

end Plan

namespace Service

def draftAfter (store : Storage) (s : Service) (changes : List Change) : Draft :=
  (s.newDraft (s.lastNumber + 1)).editAll store s.serviceId (s.lastNumber + 1) changes

end Service

namespace Sync

variable {store : Storage} {s s' : Service} {signal? : Option (Signal Service)}
  {limit? : Option Int} {serviceId : Text} {desired : List Declared} {changes : List Change} {events : List Event}

inductive Early (limit? : Option Int) (serviceId : Text) (active : Int) : Fault → Prop
  | activeVersion (f : Failure) : Early limit? serviceId active
    (.callFailed { operation := "get_active_version", serviceId } (some f))
  | list (f : Failure) : Early limit? serviceId active
    (.callFailed { operation := "list", serviceId, version? := some active } (some f))
  -- the endpoints are at fault, and there is no plan
  | refused {e : Fault} : Plan.Refusal e → Early limit? serviceId active e
  | limited {count limit : Int} : limit? = some limit → limit < count →
    Early limit? serviceId active (.limitExceeded count limit)
  | cancelled : Early limit? serviceId active (.cancelled none 0)
  | clone (f : Failure) : Early limit? serviceId active
    (.callFailed { operation := "clone", serviceId } (some f))

inductive Late (serviceId : Text) (number : Int) (changes : List Change) (k : Nat) : Fault → Prop
  | cancelled : Late serviceId number changes k (.cancelled (some number) k)
  | change {c : Change} (f : Failure) : changes[k]? = some c →
    Late serviceId number changes k
      (.callFailed {
        operation := c.kind.label
        serviceId
        version? := some number
        name? := some c.name } (some f))
  | activate (f : Failure) : k = changes.length →
    Late serviceId number changes k
      (.callFailed { operation := "activate", serviceId, version? := some number } (some f))

theorem site_request {c : Change} (hc : c.SameName) (version : Int) :
    (c.request serviceId version).site
      = { operation := c.kind.label, serviceId, version? := some version, name? := some c.name } := by
  cases c with
  | create d => rfl
  | update d r fields =>
    have hname : r.name = d.name := hc
    simp only [Change.request, Request.site, Request.operation, Request.serviceId, Request.version?,
      Request.endpoint?, Operation.label, Change.kind, ChangeKind.label, Change.name, hname]
  | delete r => rfl

theorem Applies.leaves {number : Int} {applied : Nat} {x : Draft} {result : Except Fault Version}
    (hnew : number ∉ s.numbers) (hactive : number ≠ s.active) (hsame : ∀ c ∈ changes, c.SameName)
    (h : Applies (Service.client store) signal? serviceId number applied changes
      (s.withDraft number x) events result s') :
    (∃ last, result = .ok last ∧ Event.changeCount events = changes.length
      ∧ (∀ c ∈ changes, c.Accepted store)
      ∧ s' = s.withDraft number (x.editAll store s.serviceId number changes))
    ∨ (∃ e k, result = .error e ∧ k ≤ changes.length ∧ Event.changeCount events = k
      ∧ (e = .cancelled (some number) (applied + k : Nat)
        ∨ ∃ c f, changes[k]? = some c
          ∧ e = .callFailed (c.request serviceId number).site (some f))
      ∧ s' = s.withDraft number (x.editAll store s.serviceId number (changes.take k)))
    ∨ (∃ e x', result = .error e ∧ (∃ c ∈ changes, ¬c.Accepted store)
      ∧ s' = s.withDraft number x') := by
  generalize hstate : s.withDraft number x = t at h
  -- `x` is what the version holds when the changes that are left begin
  induction h generalizing x with
  | @finished _ _ last =>
    subst hstate
    exact .inl ⟨last, rfl, rfl, by simp, rfl⟩
  | @cancelled applied c rest _ _ hpolled =>
    subst hstate
    refine .inr (.inl ⟨_, 0, rfl, Nat.zero_le _, hpolled.changeCount_eq, .inl rfl, rfl⟩)
  | @failed _ c rest _ t' _ f hpolled hcall =>
    subst hstate
    have hanswered := Service.answered_request store hnew hactive serviceId
      (x := x) (hsame c mem_cons_self)
    rw [hcall] at hanswered
    cases hanswered with
    | refused f hwhy =>
      refine .inr (.inl ⟨_, 0, rfl, Nat.zero_le _, ?_, .inr ⟨c, f, rfl, rfl⟩, rfl⟩)
      rw [Event.changeCount_append, hpolled.changeCount_eq]
      rfl
    | unstorable f x' hrejected =>
      exact .inr (.inr ⟨_, x', rfl, ⟨c, mem_cons_self, hrejected⟩, rfl⟩)
  | @applied applied c rest _ t₁ _ _ _ _ reply hpolled hcall hrest ih =>
    subst hstate
    have hanswered := Service.answered_request store hnew hactive serviceId
      (x := x) (hsame c mem_cons_self)
    rw [hcall] at hanswered
    cases hanswered with
    | done reply hfree hfits haccepted =>
      rw [forall_mem_cons] at hsame
      have hsum (asked events : List Event) (hasked : Event.changeCount asked = 0) :
          Event.changeCount (asked ++ .called (c.request serviceId number) true :: events)
            = Event.changeCount events + 1 := by
        rw [Event.changeCount_append, hasked, Event.changeCount_called, Change.isChange_request,
          Bool.and_true, if_pos rfl, Nat.zero_add]
      obtain ⟨last, hresult, hcount, hall, hstate⟩ | ⟨e, k, hresult, hk, hcount, he, hstate⟩
        | ⟨e, x', hresult, hrejected, hstate⟩ := ih hsame.2 rfl
      · refine .inl ⟨last, hresult, ?_, ?_, hstate⟩
        · rw [hsum _ _ hpolled.changeCount_eq, hcount]
          rfl
        · rw [forall_mem_cons]
          exact ⟨haccepted, hall⟩
      · refine .inr (.inl ⟨e, k + 1, hresult, Nat.succ_le_succ hk, ?_, ?_, hstate⟩)
        · rw [hsum _ _ hpolled.changeCount_eq, hcount]
        · obtain rfl | ⟨c', f, hc', he⟩ := he
          · left
            rw [Nat.add_right_comm, Nat.add_assoc]
          · exact .inr ⟨c', f, hc', he⟩
      · obtain ⟨c', hc', hnot⟩ := hrejected
        exact .inr (.inr ⟨e, x', hresult, ⟨c', mem_cons_of_mem c hc', hnot⟩, hstate⟩)

theorem Applies.leaves_of_ok {number : Int} {x : Draft} {last : Version}
    (hnew : number ∉ s.numbers) (hactive : number ≠ s.active) (hsame : ∀ c ∈ changes, c.SameName)
    (h : Applies (Service.client store) signal? serviceId number 0 changes (s.withDraft number x)
      events (.ok last) s') :
    Event.changeCount events = changes.length ∧ (∀ c ∈ changes, c.Accepted store)
      ∧ s' = s.withDraft number (x.editAll store s.serviceId number changes) := by
  obtain ⟨last', -, hleaves⟩ | ⟨e, k, hresult, -⟩ | ⟨e, x', hresult, -⟩ :=
    h.leaves hnew hactive hsame
  · exact hleaves
  · cases hresult
  · cases hresult

/--
All that a convergence can leave of a service, with its outcome.
-/
inductive Leaves (store : Storage) (s : Service) (serviceId : Text) (desired : List Declared)
    (limit? : Option Int) : List Event → Except Fault Synced → Service → Prop
  | untouched {events : List Event} {e : Fault} :
    Early limit? serviceId s.active e →
    Leaves store s serviceId desired limit? events (.error e) s
  | converged {events : List Event} :
    Plan.between desired s.activeEndpoints = .ok [] →
    Leaves store s serviceId desired limit? events
      (.ok { serviceId, previousVersion := s.active, version := s.active }) s
  | abandoned {events : List Event} {changes : List Change} {k : Nat} {e : Fault} :
    Plan.between desired s.activeEndpoints = .ok changes → k ≤ changes.length →
    Event.changeCount events = k → Late serviceId (s.lastNumber + 1) changes k e →
    Leaves store s serviceId desired limit? events (.error e)
      (s.withDraft (s.lastNumber + 1) (s.draftAfter store (changes.take k)))
  -- an update that cannot be stored has deleted the endpoint before it fails
  | broken {events : List Event} {changes : List Change} {e : Fault} {x : Draft} :
    (∃ c ∈ changes, ¬c.Accepted store) →
    Leaves store s serviceId desired limit? events (.error e) (s.withDraft (s.lastNumber + 1) x)
  | activated {events : List Event} {changes : List Change} :
    Plan.between desired s.activeEndpoints = .ok changes → changes ≠ [] →
    (∀ c ∈ changes, c.Accepted store) →
    Leaves store s serviceId desired limit? events
      (.ok {
        serviceId
        previousVersion := s.active
        version := s.lastNumber + 1
        changes
        activated := true })
      ((s.withDraft (s.lastNumber + 1) (s.draftAfter store changes)).withActive (s.lastNumber + 1))

theorem Leaves.abandoned_all {e : Fault}
    (hbetween : Plan.between desired s.activeEndpoints = .ok changes)
    (hcount : Event.changeCount events = changes.length)
    (hlate : Late serviceId (s.lastNumber + 1) changes changes.length e) :
    Leaves store s serviceId desired limit? events (.error e)
      (s.withDraft (s.lastNumber + 1) (s.draftAfter store changes)) := by
  have h : Leaves store s serviceId desired limit? events (.error e)
      (s.withDraft (s.lastNumber + 1) (s.draftAfter store (changes.take changes.length))) :=
    .abandoned hbetween (Nat.le_refl _) hcount hlate
  rw [take_length] at h
  exact h

theorem Carries.leaves (hs : s.WellFormed) {events' : List Event} {result : Except Fault Synced}
    (hevents : Event.changeCount events = 0)
    (hbetween : Plan.between desired s.activeEndpoints = .ok changes) (hne : changes ≠ [])
    (h : Carries (Service.client store) signal? { serviceId, version := s.active, changes } s
      events' result s') :
    Leaves store s serviceId desired limit? (events ++ events') result s' := by
  have hnew := Service.newNumber_notMem (s := s)
  have hactive := Service.newNumber_ne_active hs.active_mem
  have hsame : ∀ c ∈ changes, c.SameName := fun c => Plan.sameName_of_between hbetween
  cases h with
  | cancelled hpolled => exact .untouched .cancelled
  | cloneFailed hpolled hclone =>
    rw [(Service.client_clone hclone).1 _ rfl]
    exact .untouched (.clone _)
  | stopped hpolled hclone happlies =>
    obtain ⟨rfl, rfl⟩ := (Service.client_clone hclone).2 _ rfl
    obtain ⟨last, hresult, -⟩ | ⟨e, k, hresult, hk, hcount, he, rfl⟩ | ⟨e, x', -, hrejected, rfl⟩ :=
      happlies.leaves hnew hactive hsame
    · cases hresult
    · cases hresult
      refine .abandoned hbetween hk ?_ ?_
      · simp [hevents, hpolled.changeCount_eq, hcount, Request.isChange]
      · obtain rfl | ⟨c, f, hc, rfl⟩ := he
        · rw [Nat.zero_add]
          exact .cancelled
        · rw [site_request (hsame c (mem_of_getElem? hc))]
          exact .change f hc
    · exact .broken hrejected
  | cancelledLast hpolled hclone happlies hpolled' =>
    obtain ⟨rfl, rfl⟩ := (Service.client_clone hclone).2 _ rfl
    obtain ⟨hcount, -, rfl⟩ := happlies.leaves_of_ok hnew hactive hsame
    apply Leaves.abandoned_all hbetween _ .cancelled
    simp [hevents, hpolled.changeCount_eq, hpolled'.changeCount_eq, hcount, Request.isChange]
  | activateFailed hpolled hclone happlies hpolled' hactivate =>
    obtain ⟨rfl, rfl⟩ := (Service.client_clone hclone).2 _ rfl
    obtain ⟨hcount, -, rfl⟩ := happlies.leaves_of_ok hnew hactive hsame
    rw [(Service.client_activate hactivate).1 _ rfl]
    apply Leaves.abandoned_all hbetween _ (.activate _ rfl)
    simp [hevents, hpolled.changeCount_eq, hpolled'.changeCount_eq, hcount, Request.isChange]
  | activated hpolled hclone happlies hpolled' hactivate =>
    obtain ⟨rfl, rfl⟩ := (Service.client_clone hclone).2 _ rfl
    obtain ⟨-, haccepted, rfl⟩ := happlies.leaves_of_ok hnew hactive hsame
    rw [(Service.client_activate hactivate).2 rfl]
    exact .activated hbetween hne haccepted

theorem Plans.leaves (limit? : Option Int) (hs : s.WellFormed) {result : Except Fault Drift}
    (h : Plans (Service.client store) serviceId desired s events result s') :
    s' = s ∧ Event.changeCount events = 0
      ∧ ((∃ e, result = .error e ∧ Early limit? serviceId s.active e)
        ∨ ∃ changes, result = .ok { serviceId, version := s.active, changes }
          ∧ Plan.between desired s.activeEndpoints = .ok changes) := by
  cases h with
  | activeVersionFailed hactive =>
    obtain ⟨rfl, -⟩ := Service.client_activeVersion hactive
    exact ⟨rfl, rfl, .inl ⟨_, rfl, .activeVersion _⟩⟩
  | listFailed hactive hlist =>
    obtain ⟨rfl, hnumber⟩ := Service.client_activeVersion hactive
    obtain rfl := hnumber _ rfl
    obtain ⟨rfl, -⟩ := Service.client_list hs.active_mem hlist
    exact ⟨rfl, rfl, .inl ⟨_, rfl, .list _⟩⟩
  | unplannable hactive hlist hlisting =>
    obtain ⟨rfl, hnumber⟩ := Service.client_activeVersion hactive
    obtain rfl := hnumber _ rfl
    obtain ⟨rfl, hlisted⟩ := Service.client_list hs.active_mem hlist
    rw [hlisted _ rfl] at hlisting
    exact ⟨rfl, rfl, .inl ⟨_, rfl, .refused (Plan.refusal_of_between hlisting)⟩⟩
  | planned hactive hlist hlisting =>
    obtain ⟨rfl, hnumber⟩ := Service.client_activeVersion hactive
    obtain rfl := hnumber _ rfl
    obtain ⟨rfl, hlisted⟩ := Service.client_list hs.active_mem hlist
    rw [hlisted _ rfl] at hlisting
    exact ⟨rfl, rfl, .inr ⟨_, rfl, hlisting⟩⟩

theorem Course.leaves (hs : s.WellFormed) {result : Except Fault Synced}
    (h : Course (Service.client store) serviceId desired signal? limit? s events result s') :
    Leaves store s serviceId desired limit? events result s' := by
  cases h with
  | unplanned hplans =>
    obtain ⟨rfl, -, ⟨e, he, hearly⟩ | ⟨changes, hok, -⟩⟩ := hplans.leaves limit? hs
    · cases he
      exact .untouched hearly
    · cases hok
  | limitExceeded hplans hlimit hlt =>
    obtain ⟨rfl, -, -⟩ := hplans.leaves limit? hs
    exact .untouched (.limited hlimit hlt)
  | converged hplans hlimit hempty =>
    obtain ⟨rfl, -, ⟨e, he, -⟩ | ⟨changes, hok, hbetween⟩⟩ := hplans.leaves limit? hs
    · cases he
    · cases hok
      dsimp only at hempty
      subst hempty
      exact .converged hbetween
  | carried hplans hlimit hne hcarries =>
    obtain ⟨rfl, hcount, ⟨e, he, -⟩ | ⟨changes, hok, hbetween⟩⟩ := hplans.leaves limit? hs
    · cases he
    · cases hok
      exact hcarries.leaves hs hcount hbetween hne

/--
A service that was given one more version, which is inactive and holds what the active one held with
the first `k` changes made to it.
-/
structure Abandons (store : Storage) (s : Service) (changes : List Change) (k : Nat)
    (s' : Service) : Prop where
  versions : s'.versions = s.versions ++ [{
    number := s.lastNumber + 1
    endpoints := (s.draftAfter store (changes.take k)).endpoints }]
  last : s.lastNumber ∈ s.numbers ∧ ∀ n ∈ s.numbers, n ≤ s.lastNumber
  active : s'.active = s.active
  inactive : s.lastNumber + 1 ≠ s'.active

/--
A convergence that fails either leaves the service as it was or abandons a version after as many
changes as the fault tells.
-/
theorem remains_of_error (store : Storage) (serviceId : Text) (desired : List Declared)
    (signal? : Option (Signal Service)) (limit? : Option Int) (w : World Service)
    (hs : Service.Reachable store w.remote) (hstore : ∀ n, store.Accepts n) {e : Fault}
    (h : (run (Service.client store) serviceId desired signal? limit? w).1 = .error e) :
    ∃ events,
      (run (Service.client store) serviceId desired signal? limit? w).2.trace = w.trace ++ events
        ∧ (((run (Service.client store) serviceId desired signal? limit? w).2.remote = w.remote
            ∧ Early limit? serviceId w.remote.active e)
          ∨ ∃ changes k,
            Plan.between desired w.remote.activeEndpoints = .ok changes
              ∧ k ≤ changes.length ∧ Event.changeCount events = k
              ∧ Late serviceId (w.remote.lastNumber + 1) changes k e
              ∧ Abandons store w.remote changes k
                (run (Service.client store) serviceId desired signal? limit? w).2.remote) := by
  obtain ⟨events, hcourse, htrace⟩ :=
    takes_run (Service.client store) serviceId desired signal? limit? w
  have hwf := hs.wellFormed
  have hleaves := hcourse.leaves hwf
  rw [h] at hleaves
  generalize (run (Service.client store) serviceId desired signal? limit? w).2 = w' at *
  refine ⟨events, htrace, ?_⟩
  generalize hremote : w'.remote = s' at hleaves
  cases hleaves with
  | untouched hearly => exact .inl ⟨rfl, hearly⟩
  | @abandoned changes k _ hbetween hk hcount hlate =>
    refine .inr ⟨changes, k, hbetween, hk, hcount, hlate, rfl, ?_, rfl, ?_⟩
    · exact ⟨Service.lastNumber_mem hwf.active_mem, fun n => Service.le_lastNumber⟩
    · exact Service.newNumber_ne_active hwf.active_mem
  | broken hrejected =>
    obtain ⟨c, -, hnot⟩ := hrejected
    exact absurd (fun d _ n _ => hstore n) hnot

/-
A service without endpoints that fails to activate anything is left with an inactive second version.
-/
theorem remains_of_failed_activation :
    let s : Service := {
      Service.ofEndpoints "svc-1" 1 [] 1000 with failures := [((.activate, none), .remote "down")] }
    ∃ changes k, Abandons .unchanged s changes k
      (run (Service.client .unchanged) "svc-1" [{ name := "a", credential := "b" }] none none
        { remote := s }).2.remote := by
  intro s
  have hs : Service.Reachable .unchanged s := .inject _ (.start "svc-1" 1 [] 1000)
  obtain ⟨events, -, ⟨-, hearly⟩ | ⟨changes, k, -, -, -, -, habandons⟩⟩ :=
    remains_of_error .unchanged "svc-1" [{ name := "a", credential := "b" }] none none
      { remote := s } hs (fun n => ⟨_, rfl⟩)
      (e := .callFailed { operation := "activate", serviceId := "svc-1", version? := some 2 }
        (some (.remote "down"))) (by decide +kernel)
  · cases hearly with
    | refused h => cases h
  · exact ⟨changes, k, habandons⟩

end Sync

end Converge
