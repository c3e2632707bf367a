import Converge.Proofs.Sync.Remains

/-!
This module contains what a convergence achieves when neither the service nor the signal stands in
its way. Main statement: it returns, none of its calls is refused, and the active version then
holds exactly the desired endpoints.
-/

namespace Converge

open List

theorem Polled.notMem_called {σ : Type} {signal? : Option (Signal σ)} {n : Nat} {answer : Bool}
    {events : List Event} (h : Polled signal? n answer events) (r : Request) (succeeded : Bool) :
    .called r succeeded ∉ events := by
  cases h <;> simp

theorem not_polled_true {σ : Type} {signal? : Option (Signal σ)}
    (h : ∀ signal, signal? = some signal → ∀ n w, signal n w = false) (n : Nat)
    (events : List Event) :
    ¬Polled signal? n true events := by
  intro hpolled
  generalize htrue : true = answer at hpolled
  cases hpolled with
  | absent => cases htrue
  | asked w hsignal =>
    rw [h _ hsignal] at htrue
    cases htrue

namespace Service

variable {store : Storage} {s : Service}

def activeVersions (s : Service) : List HeldVersion :=
  s.versions.filter (·.number = s.active)

theorem not_blocks (h : s.failures = []) {r : Request} (hr : r.serviceId = s.serviceId) :
    ¬s.Blocks r := by
  rintro (hfailure | hservice)
  · apply hfailure
    simp [failure?, h]
  · exact hservice hr

theorem activeVersions_activated {number : Int} (hnew : number ∉ s.numbers) (x : Draft) :
    ((s.withDraft number x).withActive number).activeVersions
      = [{ number, endpoints := x.endpoints }] := by
  unfold activeVersions withActive withDraft
  rw [filter_append, filter_eq_nil_iff.2]
  · simp
  · intro v hv
    rw [decide_eq_true_eq]
    intro (hnumber : v.number = number)
    apply hnew
    rw [← hnumber]
    exact mem_map_of_mem hv

theorem activeEndpoints_activated {number : Int} (hnew : number ∉ s.numbers) (x : Draft) :
    ((s.withDraft number x).withActive number).activeEndpoints = x.endpoints := by
  change (((s.withDraft number x).version? number).map HeldVersion.endpoints).getD [] = _
  rw [version?_withDraft hnew]
  rfl

namespace WellFormed

variable {desired : List Declared} {changes : List Change}

theorem exists_wanted (hs : s.WellFormed)
    (h : Plan.between desired s.activeEndpoints = .ok changes) :
    ∃ wanted, Plan.index desired = .ok wanted
      ∧ Plan.changes wanted s.activeEndpoints = .ok changes := by
  obtain ⟨wanted, hindex, hchanges⟩ := Plan.between_eq_ok_iff.1 h
  -- the names of the active endpoints are distinct, so none of them hides another
  rw [Plan.latest_of_nodup hs.nodup_names_activeEndpoints] at hchanges
  exact ⟨wanted, hindex, hchanges⟩

theorem nodup_changes (hs : s.WellFormed)
    (h : Plan.between desired s.activeEndpoints = .ok changes) :
    (changes.map Change.name).Nodup := by
  obtain ⟨wanted, hindex, hchanges⟩ := hs.exists_wanted h
  exact Plan.nodup_changes_names (Plan.nodup_names_index hindex) hs.nodup_names_activeEndpoints
    hchanges

theorem fits_newDraft (hs : s.WellFormed)
    (h : Plan.between desired s.activeEndpoints = .ok changes) (number : Int) :
    ∀ c ∈ changes, c.Fits (Stored.names (s.newDraft number).endpoints) := by
  obtain ⟨wanted, -, hchanges⟩ := hs.exists_wanted h
  exact Draft.fits_restamped hs.nodup_names_activeEndpoints hchanges rfl

theorem exists_desired (hs : s.WellFormed)
    (h : Plan.between desired s.activeEndpoints = .ok changes) {c : Change} (hc : c ∈ changes)
    {d : Declared} (hd : c.desired? = some d) {n : Int} (hn : d.formatVersion = some n) :
    ∃ d₀ ∈ desired, d₀.formatVersion.getD defaultFormatVersion = n := by
  obtain ⟨wanted, hindex, hchanges⟩ := hs.exists_wanted h
  have hmem := Plan.mem_wanted_of_desired? hs.nodup_names_activeEndpoints hchanges hc hd
  obtain ⟨d₀, hd₀, -, rfl⟩ := (Plan.mem_wanted_iff hindex).1 hmem
  rw [Declared.formatVersion_filled] at hn
  cases hn
  exact ⟨d₀, hd₀, rfl⟩

theorem matches_draftAfter (hs : s.WellFormed)
    (h : Plan.between desired s.activeEndpoints = .ok changes)
    (hkeeps : ∀ c ∈ changes, c.Kept store) :
    Matches desired (s.draftAfter store changes).endpoints := by
  obtain ⟨wanted, hindex, hchanges⟩ := hs.exists_wanted h
  exact Draft.matches_editAll hindex hs.nodup_names_activeEndpoints hchanges hkeeps rfl

theorem kept_draftAfter (hs : s.WellFormed)
    (h : Plan.between desired s.activeEndpoints = .ok changes) {r : Stored}
    (hr : r ∈ (s.draftAfter store changes).endpoints) (hname : ∀ c ∈ changes, c.name ≠ r.name) :
    ∃ q ∈ s.activeEndpoints, r = q.restamp (s.lastNumber + 1) := by
  obtain ⟨hmem, -⟩ | ⟨c, hc, hwrote⟩ :=
    Draft.mem_of_mem_editAll (hs.nodup_changes h) (hs.fits_newDraft h _) hr
  · obtain ⟨q, hq, rfl⟩ := mem_map.1 hmem
    exact ⟨q, hq, rfl⟩
  · exact absurd (Change.name_of_wrote hwrote).symm (hname c hc)

end WellFormed

end Service

namespace Sync

section Client

variable {σ : Type} {client : Client σ} {signal? : Option (Signal σ)} {limit? : Option Int}
  {serviceId : Text} {desired : List Declared} {s s' : σ} {events : List Event}

theorem Applies.notMem_failed {version : Int} {applied : Nat} {changes : List Change}
    {last : Version}
    (h : Applies client signal? serviceId version applied changes s events (.ok last) s')
    (r : Request) : .called r false ∉ events := by
  generalize hresult : (Except.ok last : Except Fault Version) = result at h
  induction h with
  | finished => simp
  | cancelled hpolled => cases hresult
  | failed hpolled hcall => cases hresult
  | applied hpolled hcall hrest ih => simp [hpolled.notMem_called, ih hresult]

theorem Course.notMem_failed {out : Synced}
    (h : Course client serviceId desired signal? limit? s events (.ok out) s') (r : Request) :
    .called r false ∉ events := by
  cases h with
  | converged hplans hlimit hempty =>
    cases hplans
    simp
  | carried hplans hlimit hne hcarries =>
    cases hplans
    cases hcarries with
    | activated hpolled hclone happlies hpolled' hactivate =>
      simp [hpolled.notMem_called, happlies.notMem_failed, hpolled'.notMem_called]

end Client

variable {store : Storage} {s s' : Service} {signal? : Option (Signal Service)} {limit? : Option Int}
  {serviceId : Text} {desired : List Declared} {changes : List Change} {events : List Event}

theorem Applies.exists_ok {number : Int} {applied : Nat} {x : Draft} {result : Except Fault Version}
    (hquiet : ∀ n asked, ¬Polled signal? n true asked) (hfailures : s.failures = [])
    (hnew : number ∉ s.numbers) (hactive : number ≠ s.active) (hsame : ∀ c ∈ changes, c.SameName)
    (hnodup : (changes.map Change.name).Nodup)
    (hfits : ∀ c ∈ changes, c.Fits (Stored.names x.endpoints))
    (haccepted : ∀ c ∈ changes, c.Accepted store)
    (h : Applies (Service.client store) signal? s.serviceId number applied changes
      (s.withDraft number x) events result s') : ∃ last, result = .ok last := by
  generalize hstate : s.withDraft number x = t at h
  induction h generalizing x with
  | @finished _ _ last => exact ⟨last, rfl⟩
  | cancelled hpolled => exact absurd hpolled (hquiet _ _)
  | @failed _ c rest _ _ _ _ hpolled hcall =>
    subst hstate
    have hanswered := Service.answered_request store hnew hactive s.serviceId (x := x)
      (hsame c mem_cons_self)
    rw [hcall] at hanswered
    cases hanswered with
    | refused f hwhy =>
      obtain hblocks | hunfit := hwhy
      · exact absurd hblocks (Service.not_blocks hfailures (Change.serviceId_request ..))
      · exact absurd (hfits c mem_cons_self) hunfit
    | unstorable f x' hrejected => exact absurd (haccepted c mem_cons_self) hrejected
  | @applied _ c rest _ _ _ _ _ _ reply hpolled hcall hrest ih =>
    subst hstate
    have hanswered := Service.answered_request store hnew hactive s.serviceId (x := x)
      (hsame c mem_cons_self)
    rw [hcall] at hanswered
    cases hanswered with
    | done reply hfree hfit hstored =>
      rw [forall_mem_cons] at hsame haccepted
      exact ih hsame.2 (nodup_cons.1 hnodup).2 (Draft.fits_editAll_tail hnodup hfits) haccepted.2
        rfl

theorem Plans.exists_ok (hs : s.WellFormed) (hactive : ¬s.Blocks (.activeVersion serviceId))
    (hlist : ¬s.Blocks (.list serviceId s.active))
    (hbetween : Plan.between desired s.activeEndpoints = .ok changes) {result : Except Fault Drift}
    (h : Plans (Service.client store) serviceId desired s events result s') :
    s' = s ∧ result = .ok { serviceId, version := s.active, changes } := by
  obtain ⟨rfl, -, hresult⟩ := h.leaves none hs
  refine ⟨rfl, ?_⟩
  obtain ⟨e, rfl, -⟩ | ⟨changes', rfl, hbetween'⟩ := hresult
  · cases h with
    | activeVersionFailed hcall =>
      rw [Service.client_of_not_blocks hactive] at hcall
      cases hcall
    | listFailed hcall hlisted =>
      obtain ⟨rfl, hnumber⟩ := Service.client_activeVersion hcall
      obtain rfl := hnumber _ rfl
      obtain ⟨v, hv, -⟩ := Service.requireVersion_active hs.active_mem
      rw [Service.client_of_not_blocks hlist, Service.answer, hv] at hlisted
      cases hlisted
    | unplannable hcall hlisted hlisting =>
      obtain ⟨rfl, hnumber⟩ := Service.client_activeVersion hcall
      obtain rfl := hnumber _ rfl
      obtain ⟨-, hendpoints⟩ := Service.client_list hs.active_mem hlisted
      rw [hendpoints _ rfl] at hlisting
      cases hbetween.symm.trans hlisting
  · rw [hbetween] at hbetween'
    cases hbetween'
    rfl

theorem Carries.exists_ok (hs : s.WellFormed) (hroom : s.versions.length < s.maxVersions)
    (hfailures : s.failures = []) (hquiet : ∀ n asked, ¬Polled signal? n true asked)
    (hbetween : Plan.between desired s.activeEndpoints = .ok changes)
    (haccepted : ∀ c ∈ changes, c.Accepted store) {result : Except Fault Synced}
    (h : Carries (Service.client store) signal?
      { serviceId := s.serviceId, version := s.active, changes } s events result s') :
    ∃ out, result = .ok out := by
  have hnew := Service.newNumber_notMem (s := s)
  have hactive := Service.newNumber_ne_active hs.active_mem
  have hsame : ∀ c ∈ changes, c.SameName := fun c => Plan.sameName_of_between hbetween
  cases h with
  | cancelled hpolled => exact absurd hpolled (hquiet _ _)
  | cloneFailed hpolled hclone =>
    rw [Service.client_of_not_blocks (Service.not_blocks hfailures rfl)] at hclone
    change s.clone = _ at hclone
    unfold Service.clone at hclone
    rw [if_neg (Nat.not_le.2 hroom)] at hclone
    cases hclone
  | stopped hpolled hclone happlies =>
    obtain ⟨rfl, rfl⟩ := (Service.client_clone hclone).2 _ rfl
    obtain ⟨last, hlast⟩ := happlies.exists_ok hquiet hfailures hnew hactive hsame
      (hs.nodup_changes hbetween) (hs.fits_newDraft hbetween _) haccepted
    cases hlast
  | cancelledLast hpolled hclone happlies hpolled' => exact absurd hpolled' (hquiet _ _)
  | activateFailed hpolled hclone happlies hpolled' hactivate =>
    obtain ⟨rfl, rfl⟩ := (Service.client_clone hclone).2 _ rfl
    obtain ⟨-, -, rfl⟩ := happlies.leaves_of_ok hnew hactive hsame
    have hfree := Service.not_blocks (r := .activate s.serviceId (s.lastNumber + 1))
      (s := s.withDraft (s.lastNumber + 1) (s.draftAfter store changes)) hfailures rfl
    change Service.client store _ (s.withDraft _ (s.draftAfter store changes)) = _ at hactivate
    rw [Service.client_of_not_blocks hfree] at hactivate
    change (s.withDraft _ _).activate _ = _ at hactivate
    unfold Service.activate Service.requireVersion at hactivate
    rw [Service.version?_withDraft hnew] at hactivate
    cases hactivate
  | activated hpolled hclone happlies hpolled' hactivate => exact ⟨_, rfl⟩

theorem Course.exists_ok (hs : s.WellFormed) (hroom : s.versions.length < s.maxVersions)
    (hfailures : s.failures = []) (hquiet : ∀ n asked, ¬Polled signal? n true asked)
    (hbetween : Plan.between desired s.activeEndpoints = .ok changes)
    (haccepted : ∀ c ∈ changes, c.Accepted store)
    (hlimit : ∀ limit, limit? = some limit → changes.length ≤ limit) {result : Except Fault Synced}
    (h : Course (Service.client store) s.serviceId desired signal? limit? s events result s') :
    ∃ out, result = .ok out := by
  have hactive : ¬s.Blocks (.activeVersion s.serviceId) := Service.not_blocks hfailures rfl
  have hlist : ¬s.Blocks (.list s.serviceId s.active) := Service.not_blocks hfailures rfl
  cases h with
  | unplanned hplans =>
    obtain ⟨-, hok⟩ := hplans.exists_ok hs hactive hlist hbetween
    cases hok
  | limitExceeded hplans hsome hlt =>
    obtain ⟨-, hok⟩ := hplans.exists_ok hs hactive hlist hbetween
    cases hok
    exact absurd (hlimit _ hsome) (Int.not_le.2 hlt)
  | converged hplans hle hempty => exact ⟨_, rfl⟩
  | carried hplans hle hne hcarries =>
    obtain ⟨rfl, hok⟩ := hplans.exists_ok hs hactive hlist hbetween
    cases hok
    exact hcarries.exists_ok hs hroom hfailures hquiet hbetween haccepted

/--
A service that was given one more version, which alone is active and holds exactly the desired
endpoints.
-/
structure Replaces (desired : List Declared) (changes : List Change) (s : Service) (v : HeldVersion)
    (s' : Service) : Prop where
  versions : s'.versions = s.versions ++ [v]
  number : v.number - 1 ∈ s.numbers ∧ ∀ n ∈ s.numbers, n < v.number
  active : s'.activeVersions = [v]
  names : Stored.names v.endpoints ~ desired.map Declared.name
  projected : ∀ r ∈ v.endpoints, ∃ d ∈ desired, d.name = r.name
    ∧ ∃ e, d.withDefaults = .ok e ∧ r.project = .ok e
  kept : ∀ r ∈ v.endpoints, (∀ c ∈ changes, c.name ≠ r.name) →
    ∃ q ∈ s.activeEndpoints, r = q.restamp v.number

theorem replaces_activated (hs : s.WellFormed)
    (hbetween : Plan.between desired s.activeEndpoints = .ok changes)
    (hkeeps : ∀ c ∈ changes, c.Kept store) :
    Replaces desired changes s
      { number := s.lastNumber + 1, endpoints := (s.draftAfter store changes).endpoints }
      ((s.withDraft (s.lastNumber + 1) (s.draftAfter store changes)).withActive
        (s.lastNumber + 1)) where
  versions := rfl
  number := by
    constructor
    · rw [Int.add_sub_cancel]
      exact Service.lastNumber_mem hs.active_mem
    · intro n hn
      exact Int.lt_add_one_of_le (Service.le_lastNumber hn)
  active := Service.activeVersions_activated Service.newNumber_notMem _
  names := (hs.matches_draftAfter hbetween hkeeps).perm_names
  projected := by
    intro r hr
    have hmatches := hs.matches_draftAfter hbetween hkeeps
    obtain ⟨d, hd, hname, hproject⟩ := hmatches.project_of_mem hr
    exact ⟨d, hd, hname, d.filled, Declared.withDefaults_of_check (hmatches.valid d hd), hproject⟩
  kept := fun r hr hname => hs.kept_draftAfter hbetween hr hname

/--
A convergence that nothing stands in the way of returns, and the active version then holds exactly
the desired endpoints.
-/
theorem converges (store : Storage) (desired : List Declared) (changes : List Change)
    (signal? : Option (Signal Service)) (limit? : Option Int) (w : World Service)
    (hs : Service.Reachable store w.remote)
    (hroom : w.remote.versions.length < w.remote.maxVersions) (hfailures : w.remote.failures = [])
    (hkeeps : ∀ d ∈ desired, store.Keeps (d.formatVersion.getD defaultFormatVersion))
    (hsignal : ∀ signal, signal? = some signal → ∀ n w, signal n w = false)
    (hbetween : Plan.between desired w.remote.activeEndpoints = .ok changes)
    (hlimit : ∀ limit, limit? = some limit → changes.length ≤ limit) :
    let client := Service.client store
    ∃ events out,
      (run client w.remote.serviceId desired signal? limit? w).1 = .ok out
        ∧ (run client w.remote.serviceId desired signal? limit? w).2.trace = w.trace ++ events
        ∧ (∀ r, .called r false ∉ events)
        ∧ ((changes = []
            ∧ (run client w.remote.serviceId desired signal? limit? w).2.remote = w.remote
            ∧ out = {
              serviceId := w.remote.serviceId
              previousVersion := w.remote.active
              version := w.remote.active })
          ∨ (changes ≠ []
            ∧ ∃ v,
              Replaces desired changes w.remote v
                (run client w.remote.serviceId desired signal? limit? w).2.remote
              ∧ out = {
                serviceId := w.remote.serviceId
                previousVersion := w.remote.active
                version := v.number
                changes
                activated := true })) := by
  intro client
  have hwf := hs.wellFormed
  have hkept : ∀ c ∈ changes, c.Kept store := by
    intro c hc d hd n hn
    obtain ⟨d₀, hd₀, rfl⟩ := hwf.exists_desired hbetween hc hd hn
    exact hkeeps d₀ hd₀
  obtain ⟨events, hcourse, htrace⟩ := takes_run client w.remote.serviceId desired signal? limit? w
  obtain ⟨out, hout⟩ := hcourse.exists_ok hwf hroom hfailures (not_polled_true hsignal) hbetween
    (fun c hc d hd n hn => (hkept c hc d hd n hn).accepts) hlimit
  rw [hout] at hcourse
  refine ⟨events, out, hout, htrace, hcourse.notMem_failed, ?_⟩
  have hleaves := hcourse.leaves hwf
  generalize (run client w.remote.serviceId desired signal? limit? w).2.remote = s' at *
  cases hleaves with
  | converged hempty =>
    rw [hbetween] at hempty
    cases hempty
    exact .inl ⟨rfl, rfl, rfl⟩
  | @activated changes' hbetween' hne haccepted =>
    rw [hbetween] at hbetween'
    cases hbetween'
    exact .inr ⟨hne, _, replaces_activated hwf hbetween hkept, rfl⟩

/-
A service with one endpoint that is to be exchanged for another gets a second version.
-/
theorem converges_to_second_version :
    let s := Service.ofEndpoints "svc-1" 1
      [{ serviceId := "svc-1", version := 1, name := "a", credential := "key" }] 1000
    ∃ out,
      (run (Service.client .unchanged) "svc-1" [{ name := "b", credential := "key" }] none (some 2)
        { remote := s }).1 = .ok out ∧ out.activated = true ∧ out.version = 2 := by
  intro s
  obtain ⟨events, out, hout, -, -, ⟨hempty, -⟩ | ⟨-, v, hreplaces, rfl⟩⟩ :=
    converges .unchanged [{ name := "b", credential := "key" }]
      [
        .delete { serviceId := "svc-1", version := 1, name := "a", credential := "key" },
        .create { name := "b", credential := "key", formatVersion := some 2 }]
      none (some 2) { remote := s } (.start ..) (by decide) rfl
      (by
        intro d _
        unfold Storage.Keeps Storage.kept Storage.unchanged
        rfl)
      (by simp) (by decide +kernel) (by simp)
  · cases hempty
  · obtain ⟨hmem, hlt⟩ := hreplaces.number
    have hnumbers : s.numbers = [1] := by decide
    rw [hnumbers, mem_singleton] at hmem
    refine ⟨_, hout, rfl, ?_⟩
    dsimp only
    omega

end Sync

end Converge
