import Converge.Proofs.Remote.Calls
import Converge.Proofs.Run
import Converge.Sync

/-!
This module contains the courses that a convergence can take with any client: which calls it
makes, on what it stops, and what it returns. Main statement: every convergence takes one of them.
All that is said of a convergence elsewhere is said of its course.
-/

namespace Converge

open List

def Request.isChange : Request → Bool
  | .create .. | .update .. | .delete .. => true
  | _ => false

namespace Change

@[simp]
theorem isChange_request (serviceId : Text) (version : Int) (c : Change) :
    (c.request serviceId version).isChange = true := by
  cases c <;> rfl

def Sendable (c : Change) : Prop :=
  ∀ d, c.desired? = some d → d.withDefaults = .ok d

end Change

namespace Plan

def ofListing (desired : List Declared) : Option (List Stored) → Except Fault (List Change)
  | some observed => between desired observed
  -- the desired endpoints are looked at first
  | none =>
    match index desired with
    | .error e => .error e
    | .ok _ => .error (.foreign .absentListing)

theorem sendable_of_between {desired : List Declared} {observed : List Stored}
    {changes : List Change} (h : between desired observed = .ok changes) {c : Change}
    (hc : c ∈ changes) : c.Sendable := by
  obtain ⟨wanted, hindex, hchanges⟩ := between_eq_ok_iff.1 h
  intro d hd
  have hmem := mem_wanted_of_desired? (nodup_names_latest observed) hchanges hc hd
  obtain ⟨d₀, -, hcheck, rfl⟩ := (mem_wanted_iff hindex).1 hmem
  exact Declared.withDefaults_of_check hcheck

theorem exists_of_ofListing {desired : List Declared} {listing : Option (List Stored)}
    {changes : List Change} (h : ofListing desired listing = .ok changes) :
    ∃ observed, listing = some observed ∧ between desired observed = .ok changes := by
  cases listing with
  | some observed => exact ⟨observed, rfl, h⟩
  | none =>
    unfold ofListing at h
    cases hindex : index desired with
    | error e =>
      rw [hindex] at h
      cases h
    | ok wanted =>
      rw [hindex] at h
      cases h

theorem refusal_of_ofListing {desired : List Declared} {listing : Option (List Stored)} {e : Fault}
    (h : ofListing desired listing = .error e) : Refusal e ∨ e = .foreign .absentListing := by
  cases listing with
  | some observed => exact .inl (refusal_of_between h)
  | none =>
    unfold ofListing at h
    cases hindex : index desired with
    | error e' =>
      rw [hindex] at h
      cases h
      exact .inl (refusal_of_index_go hindex)
    | ok wanted =>
      rw [hindex] at h
      cases h
      exact .inr rfl

end Plan

namespace Sync

variable {σ : Type} {client : Client σ} {signal? : Option (Signal σ)} {serviceId : Text}

theorem payload_of_withDefaults {d : Declared} (h : d.withDefaults = .ok d) (serviceId : Text)
    (version : Int) : payload d serviceId version = .ok d := by
  unfold payload
  cases hplace : d.place serviceId version with
  | error e =>
    unfold Declared.place at hplace
    rw [h] at hplace
    cases hplace
  | ok r =>
    dsimp only
    rw [Declared.project_of_place hplace, h]

/--
How changes are applied to a version when `applied` of them have been applied before.
-/
inductive Applies (client : Client σ) (signal? : Option (Signal σ)) (serviceId : Text)
    (version : Int) : Nat → List Change → σ → List Event → Except Fault Version → σ → Prop
  | finished {applied : Nat} {s : σ} {last : Version} :
    last.number = version → last.isMutable = true →
    Applies client signal? serviceId version applied [] s [] (.ok last) s
  | cancelled {applied : Nat} {c : Change} {rest : List Change} {s : σ} {asked : List Event} :
    Polled signal? (applied + 1) true asked →
    Applies client signal? serviceId version applied (c :: rest) s asked
      (.error (.cancelled (some version) applied)) s
  | failed {applied : Nat} {c : Change} {rest : List Change} {s s' : σ} {asked : List Event}
    {f : Failure} :
    Polled signal? (applied + 1) false asked →
    client (c.request serviceId version) s = (.error f, s') →
    Applies client signal? serviceId version applied (c :: rest) s
      (asked ++ [.called (c.request serviceId version) false])
      (.error (.callFailed (c.request serviceId version).site (some f))) s'
  | applied {applied : Nat} {c : Change} {rest : List Change} {s s₁ s' : σ}
    {asked events : List Event} {result : Except Fault Version}
    {reply : (c.request serviceId version).Reply} :
    Polled signal? (applied + 1) false asked →
    client (c.request serviceId version) s = (.ok reply, s₁) →
    Applies client signal? serviceId version (applied + 1) rest s₁ events result s' →
    Applies client signal? serviceId version applied (c :: rest) s
      (asked ++ .called (c.request serviceId version) true :: events) result s'

theorem takes_applyChange {version : Int} {c : Change} (hc : c.Sendable) (w : World σ) :
    (applyChange client serviceId version c).Takes w fun events result s =>
      (∃ f, client (c.request serviceId version) w.remote = (.error f, s)
        ∧ events = [.called (c.request serviceId version) false]
        ∧ result = .error (.callFailed (c.request serviceId version).site (some f)))
      ∨ ∃ reply, client (c.request serviceId version) w.remote = (.ok reply, s)
        ∧ events = [.called (c.request serviceId version) true] ∧ result = .ok () := by
  cases c with
  | delete r =>
    apply (Run.Takes.call client (.delete serviceId version r.name) w).mono
    intro events result s h
    cases h with
    | failed h => exact .inl ⟨_, h, rfl, rfl⟩
    | answered h => exact .inr ⟨_, h, rfl, rfl⟩
  | create d =>
    apply Run.Takes.bind_lift (payload_of_withDefaults (hc d rfl) serviceId version)
    apply Run.Takes.bind_call
    · intro f s h
      exact .inl ⟨f, h, rfl, rfl⟩
    · intro reply w' h
      exact .pure (.inr ⟨reply, h, rfl, rfl⟩)
  | update d r fields =>
    apply Run.Takes.bind_lift (payload_of_withDefaults (hc d rfl) serviceId version)
    apply Run.Takes.bind_call
    · intro f s h
      exact .inl ⟨f, h, rfl, rfl⟩
    · intro reply w' h
      exact .pure (.inr ⟨reply, h, rfl, rfl⟩)

theorem takes_applyAll {changes : List Change} (hchanges : ∀ c ∈ changes, c.Sendable)
    (applied : Nat) (draft : Version) (hdraft : draft.isMutable = true) (w : World σ) :
    (applyAll client signal? serviceId applied draft changes).Takes w
      (Applies client signal? serviceId draft.number applied changes w.remote) := by
  induction changes generalizing applied draft w with
  | nil => exact .pure (.finished rfl hdraft)
  | cons c rest ih =>
    rw [forall_mem_cons] at hchanges
    -- the draft can be changed all the time, so neither check on its stage stops the work
    have hmutable : (live draft.ensureMutable : Run σ Unit) = Run.lift (.ok ()) := by
      unfold live Version.ensureMutable
      rw [if_pos hdraft]
      rfl
    have hdirty : (live draft.markDirty : Run σ Version)
        = Run.lift (.ok { draft with stage := .dirty }) := by
      unfold live
      rw [Version.markDirty_of_isMutable hdraft]
      rfl
    unfold applyAll
    rw [hmutable, hdirty]
    apply Run.Takes.bind_poll
    intro answer asked w₁ hremote hpolled
    cases answer with
    | true =>
      rw [if_pos rfl]
      apply Run.Takes.bind_log
      apply Run.Takes.bind_fail
      dsimp only
      rw [append_nil, hremote]
      exact .cancelled hpolled
    | false =>
      rw [if_neg Bool.false_ne_true]
      apply Run.Takes.bind_lift rfl
      apply Run.Takes.bind_log
      apply (takes_applyChange hchanges.1 _).bind
      · rintro events e s (⟨f, hcall, rfl, hresult⟩ | ⟨reply, hcall, rfl, hresult⟩)
        · cases hresult
          rw [← hremote]
          exact .failed hpolled hcall
        · cases hresult
      · rintro events result w₂ (⟨f, hcall, rfl, hresult⟩ | ⟨reply, hcall, rfl, hresult⟩)
        · cases hresult
        · apply Run.Takes.bind_lift rfl
          apply (ih hchanges.2 (applied + 1) { draft with stage := .dirty } rfl w₂).mono
          intro events result s hrest
          rw [← hremote]
          exact .applied hpolled hcall hrest

theorem takes_diff (desired : List Declared) (listing : Option (List Stored)) (w : World σ) :
    (diff desired listing).Takes w fun events result s =>
      events = [] ∧ result = Plan.ofListing desired listing ∧ s = w.remote := by
  unfold diff Plan.ofListing Plan.between
  cases hindex : Plan.index desired with
  | error e =>
    refine ⟨[], ⟨rfl, ?_, rfl⟩, (append_nil _).symm⟩
    cases listing <;> rfl
  | ok wanted =>
    apply Run.Takes.bind_lift rfl
    cases listing with
    | none => exact .fail ⟨rfl, rfl, rfl⟩
    | some observed =>
      dsimp only
      cases hchanges : Plan.changes wanted (Plan.latest observed) with
      | error e => exact ⟨[], ⟨rfl, rfl, rfl⟩, (append_nil _).symm⟩
      | ok changes =>
        apply Run.Takes.bind_lift rfl
        apply Run.Takes.bind_log
        exact .pure ⟨rfl, rfl, rfl⟩

inductive Plans (client : Client σ) (serviceId : Text) (desired : List Declared) (s : σ) :
    List Event → Except Fault Drift → σ → Prop
  | activeVersionFailed {f : Failure} {s' : σ} :
    client (.activeVersion serviceId) s = (.error f, s') →
    Plans client serviceId desired s [.called (.activeVersion serviceId) false]
      (.error (.callFailed (Request.activeVersion serviceId).site (some f))) s'
  | listFailed {active : Int} {s₁ s' : σ} {f : Failure} :
    client (.activeVersion serviceId) s = (.ok active, s₁) →
    client (.list serviceId active) s₁ = (.error f, s') →
    Plans client serviceId desired s
      [.called (.activeVersion serviceId) true, .called (.list serviceId active) false]
      (.error (.callFailed (Request.list serviceId active).site (some f))) s'
  | unplannable {active : Int} {s₁ s' : σ} {listing : Option (List Stored)} {e : Fault} :
    client (.activeVersion serviceId) s = (.ok active, s₁) →
    client (.list serviceId active) s₁ = (.ok listing, s') →
    Plan.ofListing desired listing = .error e →
    Plans client serviceId desired s
      [.called (.activeVersion serviceId) true, .called (.list serviceId active) true] (.error e) s'
  | planned {active : Int} {s₁ s' : σ} {listing : Option (List Stored)} {changes : List Change} :
    client (.activeVersion serviceId) s = (.ok active, s₁) →
    client (.list serviceId active) s₁ = (.ok listing, s') →
    Plan.ofListing desired listing = .ok changes →
    Plans client serviceId desired s
      [.called (.activeVersion serviceId) true, .called (.list serviceId active) true]
      (.ok { serviceId, version := active, changes }) s'

theorem takes_plan (client : Client σ) (serviceId : Text) (desired : List Declared) (w : World σ) :
    (plan client serviceId desired).Takes w (Plans client serviceId desired w.remote) := by
  unfold plan
  apply Run.Takes.bind_call
  · intro f s hactive
    exact .activeVersionFailed hactive
  · intro active w₁ hactive
    apply Run.Takes.bind_call
    · intro f s hlist
      exact .listFailed hactive hlist
    · intro listing w₂ hlist
      apply (takes_diff desired listing w₂).bind
      · rintro events e s ⟨rfl, hdiff, rfl⟩
        exact .unplannable hactive hlist hdiff.symm
      · rintro events changes w₃ ⟨rfl, hdiff, hremote⟩
        apply Run.Takes.pure
        rw [hremote]
        exact .planned hactive hlist hdiff.symm

inductive Carries (client : Client σ) (signal? : Option (Signal σ)) (drift : Drift) (s : σ) :
    List Event → Except Fault Synced → σ → Prop
  | cancelled {asked : List Event} :
    Polled signal? 0 true asked →
    Carries client signal? drift s asked (.error (.cancelled none 0)) s
  | cloneFailed {asked : List Event} {f : Failure} {s' : σ} :
    Polled signal? 0 false asked →
    client (.clone drift.serviceId) s = (.error f, s') →
    Carries client signal? drift s (asked ++ [.called (.clone drift.serviceId) false])
      (.error (.callFailed (Request.clone drift.serviceId).site (some f))) s'
  | stopped {asked events : List Event} {number : Int} {s₁ s' : σ} {e : Fault} :
    Polled signal? 0 false asked →
    client (.clone drift.serviceId) s = (.ok number, s₁) →
    Applies client signal? drift.serviceId number 0 drift.changes s₁ events (.error e) s' →
    Carries client signal? drift s (asked ++ .called (.clone drift.serviceId) true :: events)
      (.error e) s'
  | cancelledLast {asked events asked' : List Event} {number : Int} {s₁ s' : σ} {last : Version} :
    Polled signal? 0 false asked →
    client (.clone drift.serviceId) s = (.ok number, s₁) →
    Applies client signal? drift.serviceId number 0 drift.changes s₁ events (.ok last) s' →
    Polled signal? (drift.changes.length + 1) true asked' →
    Carries client signal? drift s
      (asked ++ .called (.clone drift.serviceId) true :: (events ++ asked'))
      (.error (.cancelled (some number) drift.changes.length)) s'
  | activateFailed {asked events asked' : List Event} {number : Int} {s₁ s₂ s' : σ} {last : Version}
    {f : Failure} :
    Polled signal? 0 false asked →
    client (.clone drift.serviceId) s = (.ok number, s₁) →
    Applies client signal? drift.serviceId number 0 drift.changes s₁ events (.ok last) s₂ →
    Polled signal? (drift.changes.length + 1) false asked' →
    client (.activate drift.serviceId number) s₂ = (.error f, s') →
    Carries client signal? drift s
      (asked ++ .called (.clone drift.serviceId) true ::
        (events ++ (asked' ++ [.called (.activate drift.serviceId number) false])))
      (.error (.callFailed (Request.activate drift.serviceId number).site (some f))) s'
  | activated {asked events asked' : List Event} {number : Int} {s₁ s₂ s' : σ} {last : Version} :
    Polled signal? 0 false asked →
    client (.clone drift.serviceId) s = (.ok number, s₁) →
    Applies client signal? drift.serviceId number 0 drift.changes s₁ events (.ok last) s₂ →
    Polled signal? (drift.changes.length + 1) false asked' →
    client (.activate drift.serviceId number) s₂ = (.ok (), s') →
    Carries client signal? drift s
      (asked ++ .called (.clone drift.serviceId) true ::
        (events ++ (asked' ++ [.called (.activate drift.serviceId number) true])))
      (.ok {
        serviceId := drift.serviceId
        previousVersion := drift.version
        version := number
        changes := drift.changes
        activated := true }) s'

theorem Applies.last_spec {version : Int} {applied : Nat} {changes : List Change} {s s' : σ}
    {events : List Event} {last : Version}
    (h : Applies client signal? serviceId version applied changes s events (.ok last) s') :
    last.number = version ∧ last.isMutable = true := by
  generalize hresult : (Except.ok last : Except Fault Version) = result at h
  induction h with
  | finished hnumber hmutable =>
    cases hresult
    exact ⟨hnumber, hmutable⟩
  | cancelled hpolled => cases hresult
  | failed hpolled hcall => cases hresult
  | applied hpolled hcall hrest ih => exact ih hresult

theorem takes_applyPlan (client : Client σ) (signal? : Option (Signal σ)) {drift : Drift}
    (hchanges : ∀ c ∈ drift.changes, c.Sendable) (w : World σ) :
    (applyPlan client signal? drift).Takes w (Carries client signal? drift w.remote) := by
  unfold applyPlan
  apply Run.Takes.bind_poll
  intro answer asked w₁ hremote hpolled
  rw [← hremote]
  cases answer with
  | true =>
    rw [if_pos rfl]
    apply Run.Takes.bind_log
    apply Run.Takes.bind_fail
    rw [append_nil]
    exact .cancelled hpolled
  | false =>
    rw [if_neg Bool.false_ne_true]
    apply Run.Takes.bind_call
    · intro f s hclone
      exact .cloneFailed hpolled hclone
    · intro number w₂ hclone
      apply Run.Takes.bind_log
      apply (takes_applyAll hchanges 0 { number } rfl _).bind
      · intro events e s happlies
        exact .stopped hpolled hclone happlies
      · intro events last w₃ happlies
        obtain ⟨hnumber, hmutable⟩ := happlies.last_spec
        dsimp only at hnumber
        apply Run.Takes.bind_poll
        intro answer asked' w₄ hremote' hpolled'
        rw [← hremote'] at happlies
        cases answer with
        | true =>
          rw [if_pos rfl, hnumber]
          apply Run.Takes.bind_fail
          rw [append_nil]
          exact .cancelledLast hpolled hclone happlies hpolled'
        | false =>
          have hactivate : (live last.activate : Run σ Version)
              = Run.lift (.ok { last with stage := .active }) := by
            unfold live
            rw [Version.activate_of_isMutable hmutable]
            rfl
          rw [if_neg Bool.false_ne_true, hactivate, hnumber]
          apply Run.Takes.bind_call
          · intro f s hactivated
            exact .activateFailed hpolled hclone happlies hpolled' hactivated
          · intro reply w₅ hactivated
            apply Run.Takes.bind_lift rfl
            apply Run.Takes.bind_log
            apply Run.Takes.pure
            exact .activated hpolled hclone happlies hpolled' hactivated

/--
The course of a whole convergence.
-/
inductive Course (client : Client σ) (serviceId : Text) (desired : List Declared)
    (signal? : Option (Signal σ)) (limit? : Option Int) (s : σ) :
    List Event → Except Fault Synced → σ → Prop
  | unplanned {events : List Event} {e : Fault} {s' : σ} :
    Plans client serviceId desired s events (.error e) s' →
    Course client serviceId desired signal? limit? s events (.error e) s'
  | limitExceeded {events : List Event} {drift : Drift} {limit : Int} {s' : σ} :
    Plans client serviceId desired s events (.ok drift) s' →
    limit? = some limit → limit < drift.changes.length →
    Course client serviceId desired signal? limit? s events
      (.error (.limitExceeded drift.changes.length limit)) s'
  | converged {events : List Event} {drift : Drift} {s' : σ} :
    Plans client serviceId desired s events (.ok drift) s' →
    (∀ limit, limit? = some limit → drift.changes.length ≤ limit) → drift.changes = [] →
    Course client serviceId desired signal? limit? s events
      (.ok { serviceId, previousVersion := drift.version, version := drift.version }) s'
  | carried {events events' : List Event} {drift : Drift} {s₁ s' : σ}
    {result : Except Fault Synced} :
    Plans client serviceId desired s events (.ok drift) s₁ →
    (∀ limit, limit? = some limit → drift.changes.length ≤ limit) → drift.changes ≠ [] →
    Carries client signal? drift s₁ events' result s' →
    Course client serviceId desired signal? limit? s (events ++ events') result s'

theorem Plans.sendable {desired : List Declared} {s s' : σ} {events : List Event} {drift : Drift}
    (h : Plans client serviceId desired s events (.ok drift) s') :
    drift.serviceId = serviceId ∧ ∀ c ∈ drift.changes, c.Sendable := by
  cases h with
  | planned hactive hlist hlisting =>
    obtain ⟨observed, -, hbetween⟩ := Plan.exists_of_ofListing hlisting
    exact ⟨rfl, fun c => Plan.sendable_of_between hbetween⟩

theorem Plans.unique {desired : List Declared} {s s₁ s₂ : σ} {events₁ events₂ : List Event}
    {result₁ result₂ : Except Fault Drift}
    (h₁ : Plans client serviceId desired s events₁ result₁ s₁)
    (h₂ : Plans client serviceId desired s events₂ result₂ s₂) :
    events₁ = events₂ ∧ result₁ = result₂ ∧ s₁ = s₂ := by
  -- a client gives one answer in one state
  cases h₁ <;> cases h₂ <;> grind

/--
What is left of a convergence when its plan is found.
-/
inductive Follows (client : Client σ) (signal? : Option (Signal σ)) (limit? : Option Int)
    (drift : Drift) (s : σ) : List Event → Except Fault Synced → σ → Prop
  | limitExceeded {limit : Int} :
    limit? = some limit → limit < drift.changes.length →
    Follows client signal? limit? drift s []
      (.error (.limitExceeded drift.changes.length limit)) s
  | converged :
    (∀ limit, limit? = some limit → drift.changes.length ≤ limit) → drift.changes = [] →
    Follows client signal? limit? drift s []
      (.ok {
        serviceId := drift.serviceId
        previousVersion := drift.version
        version := drift.version }) s
  | carried {events : List Event} {result : Except Fault Synced} {s' : σ} :
    (∀ limit, limit? = some limit → drift.changes.length ≤ limit) → drift.changes ≠ [] →
    Carries client signal? drift s events result s' →
    Follows client signal? limit? drift s events result s'

theorem Course.follows {desired : List Declared} {limit? : Option Int} {s s₁ s' : σ}
    {events₁ events : List Event} {drift : Drift} {result : Except Fault Synced}
    (hplans : Plans client serviceId desired s events₁ (.ok drift) s₁)
    (h : Course client serviceId desired signal? limit? s events result s') :
    ∃ events', events = events₁ ++ events'
      ∧ Follows client signal? limit? drift s₁ events' result s' := by
  cases h with
  | unplanned hplans' =>
    obtain ⟨-, hresult, -⟩ := hplans.unique hplans'
    cases hresult
  | limitExceeded hplans' hlimit hlt =>
    obtain ⟨rfl, hresult, rfl⟩ := hplans.unique hplans'
    cases hresult
    exact ⟨[], (append_nil _).symm, .limitExceeded hlimit hlt⟩
  | converged hplans' hlimit hempty =>
    obtain ⟨rfl, hresult, rfl⟩ := hplans.unique hplans'
    cases hresult
    rw [← hplans.sendable.1]
    exact ⟨[], (append_nil _).symm, .converged hlimit hempty⟩
  | carried hplans' hlimit hne hcarries =>
    obtain ⟨rfl, hresult, rfl⟩ := hplans.unique hplans'
    cases hresult
    exact ⟨_, rfl, .carried hlimit hne hcarries⟩

theorem Course.of_unplanned {desired : List Declared} {limit? : Option Int} {s s₁ s' : σ}
    {events₁ events : List Event} {e : Fault} {result : Except Fault Synced}
    (hplans : Plans client serviceId desired s events₁ (.error e) s₁)
    (h : Course client serviceId desired signal? limit? s events result s') :
    events = events₁ ∧ result = .error e := by
  cases h with
  | unplanned hplans' =>
    obtain ⟨rfl, hresult, -⟩ := hplans.unique hplans'
    cases hresult
    exact ⟨rfl, rfl⟩
  | limitExceeded hplans' hlimit hlt => cases (hplans.unique hplans').2.1
  | converged hplans' hlimit hempty => cases (hplans.unique hplans').2.1
  | carried hplans' hlimit hne hcarries => cases (hplans.unique hplans').2.1

section Preserves

variable {P : σ → Prop} {s s' : σ} {events : List Event}

theorem Applies.preserves (hP : ∀ {r : Request} {reply s s'}, client r s = (reply, s') → P s → P s')
    {version : Int} {applied : Nat} {changes : List Change} {result : Except Fault Version}
    (h : Applies client signal? serviceId version applied changes s events result s') (hs : P s) :
    P s' := by
  induction h with
  | finished => exact hs
  | cancelled hpolled => exact hs
  | failed hpolled hcall => exact hP hcall hs
  | applied hpolled hcall hrest ih => exact ih (hP hcall hs)

theorem Plans.preserves (hP : ∀ {r : Request} {reply s s'}, client r s = (reply, s') → P s → P s')
    {desired : List Declared} {result : Except Fault Drift}
    (h : Plans client serviceId desired s events result s') (hs : P s) : P s' := by
  cases h with
  | activeVersionFailed hactive => exact hP hactive hs
  | listFailed hactive hlist => exact hP hlist (hP hactive hs)
  | unplannable hactive hlist hlisting => exact hP hlist (hP hactive hs)
  | planned hactive hlist hlisting => exact hP hlist (hP hactive hs)

theorem Carries.preserves (hP : ∀ {r : Request} {reply s s'}, client r s = (reply, s') → P s → P s')
    {drift : Drift} {result : Except Fault Synced}
    (h : Carries client signal? drift s events result s') (hs : P s) : P s' := by
  cases h with
  | cancelled hpolled => exact hs
  | cloneFailed hpolled hclone => exact hP hclone hs
  | stopped hpolled hclone happlies => exact happlies.preserves hP (hP hclone hs)
  | cancelledLast hpolled hclone happlies hpolled' => exact happlies.preserves hP (hP hclone hs)
  | activateFailed hpolled hclone happlies hpolled' hactivate =>
    exact hP hactivate (happlies.preserves hP (hP hclone hs))
  | activated hpolled hclone happlies hpolled' hactivate =>
    exact hP hactivate (happlies.preserves hP (hP hclone hs))

/-
What every call preserves, a convergence preserves.
-/
theorem Course.preserves (hP : ∀ {r : Request} {reply s s'}, client r s = (reply, s') → P s → P s')
    {desired : List Declared} {limit? : Option Int} {result : Except Fault Synced}
    (h : Course client serviceId desired signal? limit? s events result s') (hs : P s) : P s' := by
  cases h with
  | unplanned hplans => exact hplans.preserves hP hs
  | limitExceeded hplans hlimit hlt => exact hplans.preserves hP hs
  | converged hplans hlimit hempty => exact hplans.preserves hP hs
  | carried hplans hlimit hne hcarries => exact hcarries.preserves hP (hplans.preserves hP hs)

end Preserves

/--
What becomes of a plan of so many changes by the limit.
-/
inductive Limited (count : Int) (limit? : Option Int) : Except Fault Unit → Prop
  | admitted : (∀ limit, limit? = some limit → count ≤ limit) → Limited count limit? (.ok ())
  | refused {limit : Int} : limit? = some limit → limit < count →
    Limited count limit? (.error (.limitExceeded count limit))

theorem takes_checkLimit (serviceId : Text) (count : Int) (limit? : Option Int) (w : World σ) :
    (checkLimit serviceId count limit?).Takes w fun events result s =>
      events = [] ∧ s = w.remote ∧ Limited count limit? result := by
  unfold checkLimit
  cases limit? with
  | none => exact .pure ⟨rfl, rfl, .admitted fun _ h => by cases h⟩
  | some limit =>
    dsimp only
    split
    · next hexceeded =>
      apply Run.Takes.bind_log
      exact .fail ⟨rfl, rfl, .refused rfl hexceeded⟩
    · next hexceeded =>
      refine .pure ⟨rfl, rfl, .admitted ?_⟩
      intro limit' hlimit
      cases hlimit
      exact Int.not_lt.1 hexceeded

theorem remote_of_checkLimit {count : Int} {limit? : Option Int} {w w' : World σ}
    {result : Except Fault Unit} (h : checkLimit serviceId count limit? w = (result, w')) :
    w'.remote = w.remote := by
  obtain ⟨events, ⟨-, hremote, -⟩, -⟩ := takes_checkLimit serviceId count limit? w
  rw [h] at hremote
  exact hremote

/--
Every convergence takes a course.
-/
theorem takes_run (client : Client σ) (serviceId : Text) (desired : List Declared)
    (signal? : Option (Signal σ)) (limit? : Option Int) (w : World σ) :
    (run client serviceId desired signal? limit?).Takes w
      (Course client serviceId desired signal? limit? w.remote) := by
  unfold run
  apply (takes_plan client serviceId desired w).bind
  · intro events e s hplans
    exact .unplanned hplans
  · intro events drift w₁ hplans
    obtain ⟨-, hsendable⟩ := hplans.sendable
    apply (takes_checkLimit serviceId _ limit? w₁).bind
    · rintro _ e _ ⟨rfl, rfl, hlimited⟩
      rw [append_nil]
      cases hlimited with
      | refused hlimit hexceeded => exact .limitExceeded hplans hlimit hexceeded
    · rintro _ ⟨⟩ w₂ ⟨rfl, hremote, hlimited⟩
      simp only [nil_append]
      rw [← hremote] at hplans
      cases hlimited with
      | admitted hlimit =>
        unfold carryOut
        split
        · next hempty =>
          rw [List.isEmpty_iff] at hempty
          apply Run.Takes.bind_log
          apply Run.Takes.pure
          rw [append_nil]
          exact .converged hplans hlimit hempty
        · next hempty =>
          rw [List.isEmpty_iff] at hempty
          apply (takes_applyPlan client signal? hsendable w₂).mono
          intro events' result s hcarries
          exact .carried hplans hlimit hempty hcarries

end Sync

end Converge
