import Converge.Proofs.Sync.Course

/-!
This module contains the order in which a convergence makes its calls, whatever a client answers.
Main statement: the calls follow a script, what a later call names is what an earlier one
returned, and a call that fails is the last one and named in the fault.
-/

namespace Converge

open List

structure Exchange where
  request : Request
  answer : Except Failure request.Reply

namespace Client

variable {σ : Type} {client : Client σ} {s s₁ s' : σ} {r : Request} {calls rest : List Request}

/--
What a client in state `s` answers to requests that are made one after the other.
-/
def exchanges (client : Client σ) : σ → List Request → List Exchange
  | _, [] => []
  | s, r :: rest => ⟨r, (client r s).1⟩ :: exchanges client (client r s).2 rest

theorem exchanges_cons {answer : Except Failure r.Reply} (h : client r s = (answer, s')) :
    client.exchanges s (r :: rest) = ⟨r, answer⟩ :: client.exchanges s' rest := by
  change ⟨r, (client r s).1⟩ :: client.exchanges (client r s).2 rest = _
  rw [h]

theorem map_request_exchanges (client : Client σ) (s : σ) (calls : List Request) :
    (client.exchanges s calls).map Exchange.request = calls := by
  induction calls generalizing s with
  | nil => rfl
  | cons r rest ih =>
    unfold exchanges
    rw [map_cons, ih]

/--
That calls are made one after the other, all of them answered except the last one, which may fail.
-/
inductive Performs (client : Client σ) : σ → List Request → Option Failure → σ → Prop
  | finished {s : σ} : Performs client s [] none s
  | failed {r : Request} {f : Failure} {s s' : σ} :
    client r s = (.error f, s') → Performs client s [r] (some f) s'
  | answered {r : Request} {reply : r.Reply} {rest : List Request} {failure? : Option Failure}
    {s s₁ s' : σ} :
    client r s = (.ok reply, s₁) → Performs client s₁ rest failure? s' →
    Performs client s (r :: rest) failure? s'

namespace Performs

variable {failure? : Option Failure}

theorem append (h : Performs client s calls none s₁) (hrest : Performs client s₁ rest failure? s') :
    Performs client s (calls ++ rest) failure? s' := by
  generalize hnone : (none : Option Failure) = failure₁? at h
  induction h with
  | finished => exact hrest
  | failed hcall => cases hnone
  | answered hcall _ ih => exact .answered hcall (ih hrest hnone)

theorem of_error (h : Performs client s calls failure? s') {i : Nat} {x : Exchange} {f : Failure}
    (hx : (client.exchanges s calls)[i]? = some x) (hf : x.answer = .error f) :
    i + 1 = calls.length ∧ failure? = some f := by
  induction h generalizing i with
  | finished => cases hx
  | failed hcall =>
    rw [exchanges_cons hcall] at hx
    cases i with
    | zero =>
      rw [getElem?_cons_zero] at hx
      cases hx
      cases hf
      exact ⟨rfl, rfl⟩
    | succ i => cases hx
  | answered hcall hrest ih =>
    rw [exchanges_cons hcall] at hx
    cases i with
    | zero =>
      rw [getElem?_cons_zero] at hx
      cases hx
      cases hf
    | succ i =>
      rw [getElem?_cons_succ] at hx
      obtain ⟨hlast, hfailure⟩ := ih hx
      exact ⟨by rw [length_cons, hlast], hfailure⟩

theorem answered_of_none (h : Performs client s calls none s') {x : Exchange}
    (hx : x ∈ client.exchanges s calls) : ∃ reply, x.answer = .ok reply := by
  cases hanswer : x.answer with
  | ok reply => exact ⟨reply, rfl⟩
  | error f =>
    obtain ⟨i, hi⟩ := mem_iff_getElem?.1 hx
    cases (h.of_error hi hanswer).2

theorem exists_answered (h : Performs client s calls none s') (hr : r ∈ calls) :
    ∃ reply, ⟨r, .ok reply⟩ ∈ client.exchanges s calls := by
  rw [← map_request_exchanges client s calls] at hr
  obtain ⟨x, hx, rfl⟩ := mem_map.1 hr
  obtain ⟨reply, hreply⟩ := h.answered_of_none hx
  refine ⟨reply, ?_⟩
  rw [← hreply]
  exact hx

theorem exchanges_append (h : Performs client s calls failure? s') (rest : List Request) :
    client.exchanges s (calls ++ rest) = client.exchanges s calls ++ client.exchanges s' rest := by
  induction h with
  | finished => rfl
  | failed hcall => rw [exchanges_cons hcall, singleton_append, exchanges_cons hcall]; rfl
  | answered hcall hrest ih =>
    rw [exchanges_cons hcall, cons_append, exchanges_cons hcall, ih, cons_append]

theorem exists_error_of_some {f : Failure} (h : Performs client s calls (some f) s') :
    ∃ x ∈ client.exchanges s calls, x.answer = .error f := by
  generalize hsome : some f = failure? at h
  induction h with
  | finished => cases hsome
  | failed hcall =>
    cases hsome
    rw [exchanges_cons hcall]
    exact ⟨_, mem_cons_self, rfl⟩
  | answered hcall hrest ih =>
    obtain ⟨x, hx, hf⟩ := ih hsome
    rw [exchanges_cons hcall]
    exact ⟨x, mem_cons_of_mem _ hx, hf⟩

end Performs

end Client

namespace Plan

/--
Whether a change takes what it needs from the desired and the observed endpoints: what it deletes or
updates is observed, and what it is to leave behind is desired, with defaults filled in.
-/
def Drawn (desired : List Declared) (observed : List Stored) (c : Change) : Prop :=
  (∀ d, c.desired? = some d → d.formatVersion ≠ none ∧ ∃ d₀ ∈ desired, d₀.withDefaults = .ok d)
    ∧ match c with
      | .create _ => True
      | .update d r _ => r ∈ observed ∧ r.name = d.name
      | .delete r => r ∈ observed

theorem drawn_of_between {desired : List Declared} {observed : List Stored} {changes : List Change}
    (h : between desired observed = .ok changes) {c : Change} (hc : c ∈ changes) :
    Drawn desired observed c := by
  obtain ⟨wanted, hindex, hchanges⟩ := between_eq_ok_iff.1 h
  have hnames := nodup_names_latest observed
  have hobserved := (sublist_latest observed).subset
  have hneed := (mem_changes_iff hnames hchanges).1 hc
  constructor
  · intro d hd
    have hmem := mem_wanted_of_desired? hnames hchanges hc hd
    obtain ⟨d₀, hd₀, hcheck, rfl⟩ := (mem_wanted_iff hindex).1 hmem
    exact ⟨Option.some_ne_none _, d₀, hd₀, Declared.withDefaults_of_check hcheck⟩
  · cases c with
    | create d => trivial
    | update d r fields => exact ⟨hobserved hneed.2.1, hneed.2.2.1⟩
    | delete r => exact hobserved hneed.1

end Plan

namespace Sync

variable {σ : Type} {client : Client σ} {signal? : Option (Signal σ)} {limit? : Option Int}
  {serviceId : Text} {desired : List Declared} {s s' : σ} {events : List Event}

def reads (serviceId : Text) (active : Int) : List Request :=
  [.activeVersion serviceId, .list serviceId active]

def changing (serviceId : Text) (clone : Int) (changes : List Change) : List Request :=
  .clone serviceId :: (changes.map (·.request serviceId clone) ++ [.activate serviceId clone])

def script (serviceId : Text) (active clone : Int) (changes : List Change) : List Request :=
  .activeVersion serviceId :: .list serviceId active :: changing serviceId clone changes

def blamed? (active clone : Int) : Operation → Option Int
  | .activeVersion | .clone => none
  | .list => some active
  | .create | .update | .delete | .activate => some clone

inductive Stops (calls : List Request) : Option Failure → Fault → Prop
  | failed {r : Request} {f : Failure} :
    calls.getLast? = some r → Stops calls (some f) (.callFailed r.site (some f))
  | cancelled (version? : Option Int) (applied : Int) :
    Stops calls none (.cancelled version? applied)

inductive Refrains (limit? : Option Int) : Fault → Prop
  | refused {e : Fault} : Plan.Refusal e → Refrains limit? e
  | unlisted : Refrains limit? (.foreign .absentListing)
  | limited {count limit : Int} : limit? = some limit → limit < count →
    Refrains limit? (.limitExceeded count limit)

/--
What holds of the calls of a convergence and of what comes of it, when `active` and `clone` are the
versions that it works with and `changes` what it carries out.
-/
structure Disciplined (client : Client σ) (serviceId : Text) (desired : List Declared)
    (limit? : Option Int) (s : σ) (calls : List Request) (result : Except Fault Synced)
    (active clone : Int) (changes : List Change) : Prop where
  follows : calls <+: script serviceId active clone changes
  nodup : calls.Nodup
  active_answered : 1 < calls.length →
    (client.exchanges s calls)[0]? = some ⟨.activeVersion serviceId, .ok active⟩
  planned : 2 < calls.length ∨ (∃ out, result = .ok out) →
    ∃ observed,
      (client.exchanges s calls)[1]? = some ⟨.list serviceId active, .ok (some observed)⟩
        ∧ Plan.between desired observed = .ok changes
        ∧ ∀ c ∈ changes, Plan.Drawn desired observed c
  clone_answered : 3 < calls.length →
    (client.exchanges s calls)[2]? = some ⟨.clone serviceId, .ok clone⟩
  failed : ∀ i x f, (client.exchanges s calls)[i]? = some x → x.answer = .error f →
    i + 1 = calls.length ∧ result = .error (.callFailed {
      operation := x.request.operation.label
      serviceId
      version? := blamed? active clone x.request.operation
      name? := x.request.endpoint? } (some f))
  stopped : ∀ e, result = .error e →
    (∃ failure?, Stops calls failure? e) ∨ (calls.length = 2 ∧ Refrains limit? e)
  returned : ∀ out, result = .ok out →
    (changes = [] ∧ calls = [.activeVersion serviceId, .list serviceId active]
      ∧ out = { serviceId, previousVersion := active, version := active })
    ∨ (changes ≠ [] ∧ calls = script serviceId active clone changes
      ∧ out =
        { serviceId, previousVersion := active, version := clone, changes, activated := true })
  activated_iff : (∃ out, result = .ok out ∧ out.activated = true) ↔
    calls = script serviceId active clone changes
      ∧ ∀ x ∈ client.exchanges s calls, ∃ reply, x.answer = .ok reply

theorem site_of_mem_script {active clone : Int} {changes : List Change} {r : Request}
    (h : r ∈ script serviceId active clone changes) :
    r.site = {
      operation := r.operation.label
      serviceId
      version? := blamed? active clone r.operation
      name? := r.endpoint? } := by
  simp only [script, changing, mem_append, mem_cons, not_mem_nil, or_false, mem_map] at h
  obtain rfl | rfl | rfl | ⟨c, -, rfl⟩ | rfl := h
  · rfl
  · rfl
  · rfl
  · cases c <;> rfl
  · rfl

theorem endpoint?_request_of_drawn {observed : List Stored} {c : Change}
    (h : Plan.Drawn desired observed c) (version : Int) :
    (c.request serviceId version).endpoint? = some c.name := by
  cases c with
  | create d => rfl
  | update d r fields => exact congrArg some h.2.2
  | delete r => rfl

theorem nodup_script {observed : List Stored} {changes : List Change} (active clone : Int)
    (h : Plan.between desired observed = .ok changes) :
    (script serviceId active clone changes).Nodup := by
  obtain ⟨wanted, hindex, hchanges⟩ := Plan.between_eq_ok_iff.1 h
  have hnames := Plan.nodup_changes_names (Plan.nodup_names_index hindex)
    (Plan.nodup_names_latest observed) hchanges
  have hrequests : (changes.map (·.request serviceId clone)).Nodup := by
    apply Nodup.of_map Request.endpoint?
    have hendpoints : (changes.map (·.request serviceId clone)).map Request.endpoint?
        = (changes.map Change.name).map some := by
      rw [map_map, map_map]
      apply map_congr_left
      intro c hc
      exact endpoint?_request_of_drawn (Plan.drawn_of_between h hc) clone
    rw [hendpoints]
    exact hnames.map (Option.some_injective Text)
  -- the calls around the changes are of operations that no change is
  have hothers {r : Request} (hr : r ∈ changes.map (·.request serviceId clone)) :
      .activeVersion serviceId ≠ r ∧ .list serviceId active ≠ r ∧ .clone serviceId ≠ r
        ∧ r ≠ .activate serviceId clone := by
    obtain ⟨c, -, rfl⟩ := mem_map.1 hr
    cases c <;> simp [Change.request]
  have hlast : (changes.map (fun c => c.request serviceId clone)
      ++ [Request.activate serviceId clone]).Nodup := by
    rw [← concat_eq_append]
    exact hrequests.concat fun h => (hothers h).2.2.2 rfl
  unfold script changing
  simp only [nodup_cons, mem_cons, mem_append, not_mem_nil, or_false, not_or, reduceCtorEq,
    not_false_eq_true, true_and]
  refine ⟨?_, ?_, ?_, hlast⟩
  · exact fun h => (hothers h).1 rfl
  · exact fun h => (hothers h).2.1 rfl
  · exact fun h => (hothers h).2.2.1 rfl

theorem Applies.performs_ok {version : Int} {applied : Nat} {changes : List Change} {last : Version}
    (h : Applies client signal? serviceId version applied changes s events (.ok last) s') :
    Event.requests events = changes.map (·.request serviceId version)
      ∧ client.Performs s (Event.requests events) none s' := by
  generalize hresult : (Except.ok last : Except Fault Version) = result at h
  induction h with
  | finished => exact ⟨rfl, .finished⟩
  | cancelled hpolled => cases hresult
  | failed hpolled hcall => cases hresult
  | applied hpolled hcall hrest ih =>
    obtain ⟨hrequests, hperforms⟩ := ih hresult
    rw [Event.requests_append, hpolled.requests_eq, nil_append, Event.requests_called, hrequests]
    refine ⟨rfl, .answered hcall ?_⟩
    rw [← hrequests]
    exact hperforms

theorem Stops.append_left {calls : List Request} {failure? : Option Failure} {e : Fault}
    (h : Stops calls failure? e) (before : List Request) : Stops (before ++ calls) failure? e := by
  cases h with
  | failed hlast =>
    apply Stops.failed
    rw [getLast?_append, hlast]
    rfl
  | cancelled version? applied => exact .cancelled version? applied

theorem Applies.performs_error {version : Int} {applied : Nat} {changes : List Change} {e : Fault}
    (h : Applies client signal? serviceId version applied changes s events (.error e) s') :
    ∃ failure?, Event.requests events <+: changes.map (·.request serviceId version)
      ∧ client.Performs s (Event.requests events) failure? s'
      ∧ Stops (Event.requests events) failure? e := by
  generalize hresult : (Except.error e : Except Fault Version) = result at h
  induction h with
  | finished => cases hresult
  | cancelled hpolled =>
    cases hresult
    rw [hpolled.requests_eq]
    exact ⟨none, nil_prefix, .finished, .cancelled _ _⟩
  | failed hpolled hcall =>
    cases hresult
    rw [Event.requests_append, hpolled.requests_eq]
    refine ⟨some _, ?_, .failed hcall, .failed rfl⟩
    exact (prefix_cons_inj _).2 nil_prefix
  | applied hpolled hcall hrest ih =>
    obtain ⟨failure?, hfollows, hperforms, hstops⟩ := ih hresult
    rw [Event.requests_append, hpolled.requests_eq, nil_append, Event.requests_called]
    refine ⟨failure?, (prefix_cons_inj _).2 hfollows, .answered hcall hperforms, ?_⟩
    exact hstops.append_left [_]

structure Carried (client : Client σ) (serviceId : Text) (active clone : Int)
    (changes : List Change) (s : σ) (calls : List Request) (failure? : Option Failure)
    (result : Except Fault Synced) (s' : σ) : Prop where
  follows : calls <+: changing serviceId clone changes
  performs : client.Performs s calls failure? s'
  cloned : 1 < calls.length → ∃ s₁, client (.clone serviceId) s = (.ok clone, s₁)
  ended :
    (∃ e, result = .error e ∧ Stops calls failure? e
      ∧ (calls = changing serviceId clone changes → failure? ≠ none))
    ∨ (failure? = none ∧ calls = changing serviceId clone changes
      ∧ result = .ok
        { serviceId, previousVersion := active, version := clone, changes, activated := true })

theorem Carries.carried {active : Int} {changes : List Change} {result : Except Fault Synced}
    (h : Carries client signal? { serviceId, version := active, changes } s events result s') :
    ∃ clone failure?,
      Carried client serviceId active clone changes s (Event.requests events) failure? result
        s' := by
  cases h with
  | cancelled hpolled =>
    rw [hpolled.requests_eq]
    -- there is no clone yet, and no call names one
    refine ⟨0, none, nil_prefix, .finished, by simp, .inl ⟨_, rfl, .cancelled none 0, ?_⟩⟩
    simp [changing]
  | cloneFailed hpolled hclone =>
    rw [Event.requests_append, hpolled.requests_eq]
    refine ⟨0, some _, ?_, .failed hclone, by simp, .inl ⟨_, rfl, .failed rfl, by simp⟩⟩
    exact (prefix_cons_inj _).2 nil_prefix
  | stopped hpolled hclone happlies =>
    obtain ⟨failure?, hfollows, hperforms, hstops⟩ := happlies.performs_error
    rw [Event.requests_append, hpolled.requests_eq, nil_append, Event.requests_called]
    refine ⟨_, failure?, ?_, .answered hclone hperforms, fun _ => ⟨_, hclone⟩,
      .inl ⟨_, rfl, hstops.append_left [_], ?_⟩⟩
    · exact (prefix_cons_inj _).2 (hfollows.trans (prefix_append _ _))
    · intro hall
      have hlength := hfollows.length_le
      rw [(cons.inj hall).2, length_append, length_map, length_singleton] at hlength
      omega
  | cancelledLast hpolled hclone happlies hpolled' =>
    obtain ⟨hrequests, hperforms⟩ := happlies.performs_ok
    rw [Event.requests_append, hpolled.requests_eq, nil_append, Event.requests_called,
      Event.requests_append, hpolled'.requests_eq, append_nil]
    refine ⟨_, none, ?_, .answered hclone hperforms, fun _ => ⟨_, hclone⟩,
      .inl ⟨_, rfl, .cancelled _ _, ?_⟩⟩
    · rw [hrequests]
      exact (prefix_cons_inj _).2 (prefix_append _ _)
    · rw [hrequests]
      simp [changing]
  | activateFailed hpolled hclone happlies hpolled' hactivate =>
    obtain ⟨hrequests, hperforms⟩ := happlies.performs_ok
    rw [Event.requests_append, hpolled.requests_eq, nil_append, Event.requests_called,
      Event.requests_append, Event.requests_append, hpolled'.requests_eq, nil_append]
    refine ⟨_, some _, ?_, .answered hclone (hperforms.append (.failed hactivate)),
      fun _ => ⟨_, hclone⟩, .inl ⟨_, rfl, ?_, by simp⟩⟩
    · rw [hrequests]
      exact prefix_rfl
    · apply Stops.failed
      rw [← cons_append, getLast?_append]
      rfl
  | activated hpolled hclone happlies hpolled' hactivate =>
    obtain ⟨hrequests, hperforms⟩ := happlies.performs_ok
    rw [Event.requests_append, hpolled.requests_eq, nil_append, Event.requests_called,
      Event.requests_append, Event.requests_append, hpolled'.requests_eq, nil_append]
    refine ⟨_, none, ?_, .answered hclone (hperforms.append (.answered hactivate .finished)),
      fun _ => ⟨_, hclone⟩, .inr ⟨rfl, ?_, rfl⟩⟩
    · rw [hrequests]
      exact prefix_rfl
    · rw [hrequests]
      rfl

theorem Refrains.of_ofListing {listing : Option (List Stored)} {e : Fault}
    (h : Plan.ofListing desired listing = .error e) : Refrains limit? e := by
  obtain hrefusal | rfl := Plan.refusal_of_ofListing h
  · exact .refused hrefusal
  · exact .unlisted

variable {calls : List Request} {failure? : Option Failure} {e : Fault} {active clone : Int}
  {changes : List Change}

theorem callFailed_of_stops {result : Except Fault Synced}
    (hfollows : calls <+: script serviceId active clone changes)
    (hperforms : client.Performs s calls failure? s')
    (hstops : ∀ f, failure? = some f → ∃ e, result = .error e ∧ Stops calls failure? e) (i : Nat)
    (x : Exchange) (f : Failure) (hx : (client.exchanges s calls)[i]? = some x)
    (hf : x.answer = .error f) :
    i + 1 = calls.length ∧ result = .error (.callFailed {
      operation := x.request.operation.label
      serviceId
      version? := blamed? active clone x.request.operation
      name? := x.request.endpoint? } (some f)) := by
  -- only the last call can have failed, and the fault is made from it
  obtain ⟨hlast, rfl⟩ := hperforms.of_error hx hf
  obtain ⟨e, rfl, hstop⟩ := hstops f rfl
  have hrequest : calls.getLast? = some x.request := by
    have hmap := congrArg (·[i]?) (Client.map_request_exchanges client s calls)
    rw [getElem?_map, hx, Option.map_some] at hmap
    rw [getLast?_eq_getElem?, ← hlast, Nat.add_sub_cancel, ← hmap]
  refine ⟨hlast, ?_⟩
  cases hstop with
  | failed hlast' =>
    rw [hrequest] at hlast'
    cases hlast'
    rw [site_of_mem_script (hfollows.subset (mem_of_getLast? hrequest))]

theorem Disciplined.of_error (hfollows : calls <+: script serviceId active clone changes)
    (hnodup : (script serviceId active clone changes).Nodup)
    (hperforms : client.Performs s calls failure? s')
    (hstops : Stops calls failure? e ∨ (failure? = none ∧ calls.length = 2 ∧ Refrains limit? e))
    (hwhole : calls = script serviceId active clone changes → failure? ≠ none)
    (hactive : 1 < calls.length →
      (client.exchanges s calls)[0]? = some ⟨.activeVersion serviceId, .ok active⟩)
    (hplanned : 2 < calls.length → ∃ observed,
      (client.exchanges s calls)[1]? = some ⟨.list serviceId active, .ok (some observed)⟩
        ∧ Plan.between desired observed = .ok changes)
    (hclone : 3 < calls.length →
      (client.exchanges s calls)[2]? = some ⟨.clone serviceId, .ok clone⟩) :
    Disciplined client serviceId desired limit? s calls (.error e) active clone changes where
  follows := hfollows
  nodup := hnodup.sublist hfollows.sublist
  active_answered := hactive
  planned := by
    rintro (hlength | ⟨out, hout⟩)
    · obtain ⟨observed, hlist, hbetween⟩ := hplanned hlength
      exact ⟨observed, hlist, hbetween, fun c => Plan.drawn_of_between hbetween⟩
    · cases hout
  clone_answered := hclone
  failed := by
    apply callFailed_of_stops hfollows hperforms
    rintro f rfl
    obtain hstop | ⟨hnone, -⟩ := hstops
    · exact ⟨e, rfl, hstop⟩
    · cases hnone
  stopped := by
    intro e' he
    cases he
    obtain hstop | ⟨-, hlength, hrefrains⟩ := hstops
    · exact .inl ⟨failure?, hstop⟩
    · exact .inr ⟨hlength, hrefrains⟩
  returned := by
    intro out hout
    cases hout
  activated_iff := by
    constructor
    · rintro ⟨out, hout, -⟩
      cases hout
    · rintro ⟨hall, hanswered⟩
      cases failure? with
      | none => exact absurd rfl (hwhole hall)
      | some f =>
        obtain ⟨x, hx, hf⟩ := hperforms.exists_error_of_some
        obtain ⟨reply, hreply⟩ := hanswered x hx
        rw [hf] at hreply
        cases hreply

theorem reads_follow_script (serviceId : Text) (active clone : Int) (changes : List Change) :
    reads serviceId active <+: script serviceId active clone changes :=
  ⟨_, rfl⟩

theorem Plans.reads_of {result : Except Fault Drift}
    (h : Plans client serviceId desired s events result s') :
    ∃ active, Event.requests events <+: reads serviceId active := by
  cases h with
  | activeVersionFailed hactive => exact ⟨0, _, rfl⟩
  | @listFailed active => exact ⟨active, prefix_rfl⟩
  | @unplannable active => exact ⟨active, prefix_rfl⟩
  | @planned active => exact ⟨active, prefix_rfl⟩

theorem Plans.requests_eq {drift : Drift}
    (h : Plans client serviceId desired s events (.ok drift) s') :
    Event.requests events = reads serviceId drift.version := by
  cases h
  rfl

theorem Plans.disciplined_of_error
    (h : Plans client serviceId desired s events (.error e) s') :
    ∃ active, Disciplined client serviceId desired limit? s (Event.requests events) (.error e)
      active 0 [] := by
  have hnodup (active : Int) : (script serviceId active 0 []).Nodup := by simp [script, changing]
  cases h with
  | activeVersionFailed hactive =>
    refine ⟨0, .of_error ⟨_, rfl⟩ (hnodup 0) (.failed hactive) (.inl (.failed rfl)) ?_ ?_ ?_ ?_⟩
    all_goals simp [script, changing]
  | @listFailed active _ _ _ hactive hlist =>
    refine ⟨active, .of_error (reads_follow_script ..) (hnodup active)
      (.answered hactive (.failed hlist)) (.inl (.failed rfl)) ?_ ?_ ?_ ?_⟩
    · simp [script, changing]
    · intro _
      rw [Event.requests_called, Client.exchanges_cons hactive]
      rfl
    all_goals simp
  | @unplannable active _ _ _ _ hactive hlist hlisting =>
    refine ⟨active, .of_error (reads_follow_script ..) (hnodup active)
      (.answered hactive (.answered hlist .finished)) (.inr ⟨rfl, rfl, .of_ofListing hlisting⟩)
      ?_ ?_ ?_ ?_⟩
    · simp [script, changing]
    · intro _
      rw [Event.requests_called, Client.exchanges_cons hactive]
      rfl
    all_goals simp

theorem Carried.disciplined {observed : List Stored} {s₁ s₂ : σ} {result : Except Fault Synced}
    (hactive : client (.activeVersion serviceId) s = (.ok active, s₁))
    (hlist : client (.list serviceId active) s₁ = (.ok (some observed), s₂))
    (hbetween : Plan.between desired observed = .ok changes) (hne : changes ≠ [])
    (h : Carried client serviceId active clone changes s₂ calls failure? result s') :
    Disciplined client serviceId desired limit? s
      (.activeVersion serviceId :: .list serviceId active :: calls) result active clone changes := by
  obtain ⟨hfollows, hperforms, hclone, hended⟩ := h
  have hexchanges : client.exchanges s (.activeVersion serviceId :: .list serviceId active :: calls)
      = ⟨.activeVersion serviceId, .ok active⟩ :: ⟨.list serviceId active, .ok (some observed)⟩
        :: client.exchanges s₂ calls := by
    rw [Client.exchanges_cons hactive, Client.exchanges_cons hlist]
  have hcloned : 1 < calls.length →
      (client.exchanges s₂ calls)[0]? = some ⟨.clone serviceId, .ok clone⟩ := by
    intro hlength
    obtain ⟨s₃, hcall⟩ := hclone hlength
    cases calls with
    | nil => simp at hlength
    | cons r rest =>
      obtain ⟨rfl, -⟩ := cons_prefix_cons.1 hfollows
      rw [Client.exchanges_cons hcall]
      rfl
  have hscript : .activeVersion serviceId :: .list serviceId active :: calls
      <+: script serviceId active clone changes :=
    (prefix_cons_inj _).2 ((prefix_cons_inj _).2 hfollows)
  have hmade : client.Performs s (.activeVersion serviceId :: .list serviceId active :: calls)
      failure? s' :=
    .answered hactive (.answered hlist hperforms)
  obtain ⟨e, rfl, hstops, hfailure⟩ | ⟨rfl, hall, rfl⟩ := hended
  · apply Disciplined.of_error hscript (nodup_script active clone hbetween) hmade
      (.inl (hstops.append_left [.activeVersion serviceId, .list serviceId active]))
    · intro hwhole
      exact hfailure (cons.inj (cons.inj hwhole).2).2
    all_goals rw [hexchanges]
    · intro _
      rfl
    · intro _
      exact ⟨observed, rfl, hbetween⟩
    · intro hlength
      rw [length_cons, length_cons] at hlength
      exact hcloned (by omega)
  · constructor
    · exact hscript
    · exact (nodup_script active clone hbetween).sublist hscript.sublist
    · intro _
      rw [hexchanges]
      rfl
    · intro _
      refine ⟨observed, ?_, hbetween, fun c => Plan.drawn_of_between hbetween⟩
      rw [hexchanges]
      rfl
    · intro hlength
      rw [length_cons, length_cons] at hlength
      rw [hexchanges]
      exact hcloned (by omega)
    · apply callFailed_of_stops hscript hmade
      intro f hnone
      cases hnone
    · intro e he
      cases he
    · intro out hout
      cases hout
      rw [hall]
      exact .inr ⟨hne, rfl, rfl⟩
    · constructor
      · intro _
        refine ⟨?_, fun x => hmade.answered_of_none⟩
        rw [hall]
        rfl
      · intro _
        exact ⟨_, rfl, rfl⟩

theorem Course.disciplined {result : Except Fault Synced}
    (h : Course client serviceId desired signal? limit? s events result s') :
    ∃ active clone changes, Disciplined client serviceId desired limit? s (Event.requests events)
      result active clone changes := by
  cases h with
  | unplanned hplans =>
    obtain ⟨active, h⟩ := hplans.disciplined_of_error
    exact ⟨active, 0, [], h⟩
  | limitExceeded hplans hlimit hlt =>
    cases hplans with
    | @planned active _ _ _ changes hactive hlist hlisting =>
      obtain ⟨observed, rfl, hbetween⟩ := Plan.exists_of_ofListing hlisting
      refine ⟨active, 0, changes, .of_error (reads_follow_script ..) (nodup_script active 0 hbetween)
        (.answered hactive (.answered hlist .finished)) (.inr ⟨rfl, rfl, .limited hlimit hlt⟩)
        ?_ ?_ ?_ ?_⟩
      · simp [script, changing]
      · intro _
        rw [Event.requests_called, Client.exchanges_cons hactive]
        rfl
      all_goals simp
  | converged hplans hlimit hempty =>
    cases hplans with
    | @planned active _ _ _ changes hactive hlist hlisting =>
      obtain ⟨observed, rfl, hbetween⟩ := Plan.exists_of_ofListing hlisting
      dsimp only at hempty
      subst hempty
      have hperforms : client.Performs s [.activeVersion serviceId, .list serviceId active] none s' :=
        .answered hactive (.answered hlist .finished)
      refine ⟨active, 0, [], ?_⟩
      constructor
      · exact reads_follow_script ..
      · simp
      · intro _
        rw [Event.requests_called, Client.exchanges_cons hactive]
        rfl
      · intro _
        refine ⟨observed, ?_, hbetween, by simp⟩
        rw [Event.requests_called, Event.requests_called, Client.exchanges_cons hactive,
          Client.exchanges_cons hlist]
        rfl
      · simp
      · apply callFailed_of_stops (reads_follow_script serviceId active 0 []) hperforms
        intro f hnone
        cases hnone
      · intro e he
        cases he
      · intro out hout
        cases hout
        exact .inl ⟨rfl, rfl, rfl⟩
      · simp [script, changing]
  | carried hplans hlimit hne hcarries =>
    cases hplans with
    | @planned active s₁ s₂ _ changes hactive hlist hlisting =>
      obtain ⟨observed, rfl, hbetween⟩ := Plan.exists_of_ofListing hlisting
      obtain ⟨clone, failure?, hcarried⟩ := hcarries.carried
      refine ⟨active, clone, changes, ?_⟩
      rw [Event.requests_append]
      exact hcarried.disciplined hactive hlist hbetween hne

theorem Course.performs_ok {out : Synced}
    (h : Course client serviceId desired signal? limit? s events (.ok out) s') :
    client.Performs s (Event.requests events) none s' := by
  cases h with
  | converged hplans hlimit hempty =>
    cases hplans with
    | planned hactive hlist hlisting => exact .answered hactive (.answered hlist .finished)
  | carried hplans hlimit hne hcarries =>
    cases hplans with
    | planned hactive hlist hlisting =>
      obtain ⟨clone, failure?, hcarried⟩ := hcarries.carried
      obtain ⟨e, hresult, -⟩ | ⟨rfl, -⟩ := hcarried.ended
      · cases hresult
      · exact .answered hactive (.answered hlist hcarried.performs)

/--
Every convergence, with any client, makes its calls in the order of the script and reports what
stopped it.
-/
theorem disciplined_run (client : Client σ) (serviceId : Text) (desired : List Declared)
    (signal? : Option (Signal σ)) (limit? : Option Int) (w : World σ) :
    ∃ calls active clone changes,
      (run client serviceId desired signal? limit? w).2.calls = w.calls ++ calls
        ∧ Disciplined client serviceId desired limit? w.remote calls
          (run client serviceId desired signal? limit? w).1 active clone changes := by
  obtain ⟨events, hcourse, htrace⟩ := takes_run client serviceId desired signal? limit? w
  obtain ⟨active, clone, changes, hdisciplined⟩ := hcourse.disciplined
  refine ⟨Event.requests events, active, clone, changes, ?_, hdisciplined⟩
  rw [World.calls_eq_requests, World.calls_eq_requests, htrace, Event.requests_append]

end Sync

end Converge
