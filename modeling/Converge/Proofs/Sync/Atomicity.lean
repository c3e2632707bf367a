import Converge.Proofs.Sync.Convergence
import Converge.Proofs.Sync.Unaffected

/-!
This module contains series of convergences of one service, each with its own failures. Main
statement: at all times exactly one version is active, which holds what the last convergence to
activate one was to achieve; no version that is left behind changes, becomes active or matters to
what comes later.
-/

namespace Converge

open List

namespace Storage

def Faithful (store : Storage) (n : Int) : Prop :=
  ∀ v?, store n = .ok v? → v?.bind FormatVersion.toInt? = some n

theorem Faithful.keeps {store : Storage} {n : Int} (h : store.Faithful n)
    (haccepts : store.Accepts n) : store.Keeps n := by
  obtain ⟨v?, hv⟩ := haccepts
  unfold Keeps
  rw [kept_of_eq_ok hv]
  exact h v? hv

end Storage

namespace Service

variable {s s' s'' : Service}

theorem WellFormed.activeVersions_eq_iff (hs : s.WellFormed) {v : HeldVersion} :
    s.activeVersions = [v] ↔ s.version? s.active = some v := by
  have hhead : s.activeVersions.head? = s.version? s.active := head?_filter
  constructor
  · intro h
    rw [← hhead, h]
    rfl
  · intro h
    rw [h] at hhead
    have hnodup : (s.activeVersions.map HeldVersion.number).Nodup :=
      hs.numbers_nodup.sublist (filter_sublist.map HeldVersion.number)
    cases hversions : s.activeVersions with
    | nil =>
      rw [hversions] at hhead
      cases hhead
    | cons u rest =>
      rw [hversions] at hhead hnodup
      cases hhead
      cases rest with
      | nil => rfl
      | cons u' rest =>
        have hactive : ∀ u ∈ s.activeVersions, u.number = s.active :=
          fun u hu => of_decide_eq_true (mem_filter.1 hu).2
        rw [hversions] at hactive
        simp [hactive] at hnodup

theorem WellFormed.matches_of_accepted {store : Storage} {desired : List Declared}
    {changes : List Change} (hs : s.WellFormed)
    (hbetween : Plan.between desired s.activeEndpoints = .ok changes)
    (haccepted : ∀ c ∈ changes, c.Accepted store)
    (hfaithful : ∀ d ∈ desired, store.Faithful (d.formatVersion.getD defaultFormatVersion)) :
    Matches desired (s.draftAfter store changes).endpoints := by
  apply hs.matches_draftAfter hbetween
  intro c hc d hd n hn
  obtain ⟨d₀, hd₀, rfl⟩ := hs.exists_desired hbetween hc hd hn
  exact (hfaithful d₀ hd₀).keeps (haccepted c hc d hd _ hn)

theorem WellFormed.exists_active (hs : s.WellFormed) : ∃ v, s.version? s.active = some v := by
  cases hfind : s.version? s.active with
  | none =>
    rw [version?_eq_none_iff] at hfind
    exact absurd hs.active_mem hfind
  | some v => exact ⟨v, rfl⟩

/--
What a service keeps of an earlier state: its versions as they are, of which no inactive one becomes
active.
-/
structure Extends (s s' : Service) : Prop where
  grown : s.versions <+: s'.versions
  retired : ∀ n ∈ s.numbers, n ≠ s.active → n ≠ s'.active

namespace Extends

theorem refl (s : Service) : s.Extends s where
  grown := prefix_rfl
  retired := fun _ _ h => h

theorem numbers_subset (h : s.Extends s') : ∀ n ∈ s.numbers, n ∈ s'.numbers :=
  fun _ hn => (h.grown.map HeldVersion.number).subset hn

theorem trans (h : s.Extends s') (h' : s'.Extends s'') : s.Extends s'' where
  grown := h.grown.trans h'.grown
  retired := by
    intro n hn hne
    exact h'.retired n (h.numbers_subset n hn) (h.retired n hn hne)

theorem version?_eq_some (h : s.Extends s') {n : Int} {v : HeldVersion}
    (hv : s.version? n = some v) : s'.version? n = some v := by
  obtain ⟨rest, hrest⟩ := h.grown
  unfold version? at hv ⊢
  rw [← hrest, find?_append, hv]
  rfl

theorem withDraft (s : Service) (number : Int) (x : Draft) : s.Extends (s.withDraft number x) where
  grown := prefix_append _ _
  retired := fun _ _ h => h

theorem withActive {number : Int} (hnew : number ∉ s.numbers) (x : Draft) :
    s.Extends ((s.withDraft number x).withActive number) where
  grown := prefix_append _ _
  retired := by
    intro n hn _ heq
    apply hnew
    rw [← show n = number from heq]
    exact hn

end Extends

end Service

structure Attempt where
  serviceId : Text
  desired : List Declared
  limit? : Option Int := none
  signal? : Option (Signal Service) := none
  failures : List ((Operation × Option Text) × Failure) := []

/--
A series of attempts so far: what they returned, the world that they left, and the desired
endpoints of the last one that activated a version.
-/
structure History where
  world : World Service
  results : List (Except Fault Synced) := []
  applied? : Option (List Declared) := none

namespace Attempt

def run (store : Storage) (a : Attempt) (w : World Service) : Except Fault Synced × World Service :=
  Sync.run (Service.client store) a.serviceId a.desired a.signal? a.limit?
    (w.mapRemote fun s => { s with failures := a.failures })

def achieved? (a : Attempt) (before? : Option (List Declared)) :
    Except Fault Synced → Option (List Declared)
  | .ok out => if out.activated then some a.desired else before?
  | .error _ => before?

end Attempt

namespace History

def next (store : Storage) (h : History) (a : Attempt) : History where
  world := (a.run store h.world).2
  results := h.results ++ [(a.run store h.world).1]
  applied? := a.achieved? h.applied? (a.run store h.world).1

def after (store : Storage) (h : History) (attempts : List Attempt) : History :=
  attempts.foldl (next store) h

def overwrite (numbers : List Int) (endpoints : Int → List Stored) (h : History) : History :=
  { h with world := h.world.mapRemote (·.overwrite numbers endpoints) }

def Current (store : Storage) (start : Service) : Option (List Declared) → HeldVersion → Prop
  | none, v => start.activeVersions = [v]
  -- what is stored for a format version need not read back as it
  | some desired, v =>
    (∀ d ∈ desired, store.Faithful (d.formatVersion.getD defaultFormatVersion)) →
      Matches desired v.endpoints

end History

namespace Sync

variable {store : Storage} {s s' : Service} {limit? : Option Int} {serviceId : Text}
  {desired : List Declared} {events : List Event} {result : Except Fault Synced}

theorem Leaves.extends (h : Leaves store s serviceId desired limit? events result s') :
    s.Extends s' := by
  cases h with
  | untouched hearly => exact .refl s
  | converged hbetween => exact .refl s
  | abandoned hbetween hk hcount hlate => exact .withDraft s _ _
  | broken hrejected => exact .withDraft s _ _
  | activated hbetween hne haccepted => exact .withActive Service.newNumber_notMem _

theorem Leaves.current {a : Attempt} {start : Service} {before? : Option (List Declared)}
    {v : HeldVersion} (hs : s.WellFormed) (hs' : s'.WellFormed)
    (h : Leaves store s a.serviceId a.desired a.limit? events result s')
    (hactive : s.activeVersions = [v]) (hv : History.Current store start before? v) :
    ∃ v', s'.activeVersions = [v']
      ∧ History.Current store start (a.achieved? before? result) v' := by
  have hextends := h.extends
  -- the active version stays what it is if the number does
  have hkept (heq : s'.active = s.active) : s'.activeVersions = [v] := by
    rw [hs.activeVersions_eq_iff] at hactive
    rw [hs'.activeVersions_eq_iff, heq]
    exact hextends.version?_eq_some hactive
  cases h with
  | untouched hearly => exact ⟨v, hactive, hv⟩
  | converged hbetween => exact ⟨v, hactive, hv⟩
  | abandoned hbetween hk hcount hlate => exact ⟨v, hkept rfl, hv⟩
  | broken hrejected => exact ⟨v, hkept rfl, hv⟩
  | activated hbetween hne haccepted =>
    exact ⟨_, Service.activeVersions_activated Service.newNumber_notMem _,
      hs.matches_of_accepted hbetween haccepted⟩

theorem Course.reachable {signal? : Option (Signal Service)}
    (h : Course (Service.client store) serviceId desired signal? limit? s events result s')
    (hs : Service.Reachable store s) : Service.Reachable store s' := by
  apply h.preserves _ hs
  intro r reply s s' hcall hs
  have hreached := Service.Reachable.call r hs
  rw [hcall] at hreached
  exact hreached

end Sync

namespace Attempt

variable {store : Storage}

theorem leaves {w : World Service} (hs : Service.Reachable store w.remote) (a : Attempt) :
    Service.Reachable store (a.run store w).2.remote
      ∧ ∃ events, Sync.Leaves store { w.remote with failures := a.failures } a.serviceId a.desired
        a.limit? events (a.run store w).1 (a.run store w).2.remote := by
  obtain ⟨events, hcourse, -⟩ := Sync.takes_run (Service.client store) a.serviceId a.desired
    a.signal? a.limit? (w.mapRemote fun s => { s with failures := a.failures })
  have hinjected : Service.Reachable store { w.remote with failures := a.failures } := .inject _ hs
  exact ⟨hcourse.reachable hinjected, events, hcourse.leaves hinjected.wellFormed⟩

theorem extends_run {w : World Service} (hs : Service.Reachable store w.remote) (a : Attempt) :
    w.remote.Extends (a.run store w).2.remote := by
  obtain ⟨-, events, hleaves⟩ := leaves hs a
  exact ⟨hleaves.extends.grown, hleaves.extends.retired⟩

theorem commutes_run {numbers : List Int} {endpoints : Int → List Stored} {w : World Service}
    (hs : Service.Reachable store w.remote) {a : Attempt}
    (hsignal : Sync.Overlooks numbers endpoints a.signal?) (hactive : w.remote.active ∉ numbers)
    (hnumbers : ∀ n ∈ numbers, n ∈ w.remote.numbers) :
    a.run store (w.mapRemote (·.overwrite numbers endpoints))
      = ((a.run store w).1, (a.run store w).2.mapRemote (·.overwrite numbers endpoints)) :=
  Sync.commutes_run hsignal a.desired a.limit?
    (w.mapRemote fun s => { s with failures := a.failures }) (hs.wellFormed.of_eq rfl rfl) hactive
    hnumbers

theorem active_notMem {numbers : List Int} {w : World Service}
    (hs : Service.Reachable store w.remote) (a : Attempt) (hactive : w.remote.active ∉ numbers)
    (hnumbers : ∀ n ∈ numbers, n ∈ w.remote.numbers) :
    (a.run store w).2.remote.active ∉ numbers := by
  intro hmem
  refine (extends_run hs a).retired _ (hnumbers _ hmem) ?_ rfl
  intro heq
  rw [heq] at hmem
  exact hactive hmem

end Attempt

namespace History

variable {store : Storage}

theorem extends_after {h : History} (hs : Service.Reachable store h.world.remote)
    (attempts : List Attempt) :
    Service.Reachable store (h.after store attempts).world.remote
      ∧ h.world.remote.Extends (h.after store attempts).world.remote := by
  induction attempts generalizing h with
  | nil => exact ⟨hs, .refl _⟩
  | cons a rest ih =>
    obtain ⟨hreachable, hextends⟩ := ih (h := h.next store a) (Attempt.leaves hs a).1
    exact ⟨hreachable, (Attempt.extends_run hs a).trans hextends⟩

theorem current_after {start : Service} {h : History}
    (hs : Service.Reachable store h.world.remote) {v : HeldVersion}
    (hactive : h.world.remote.activeVersions = [v]) (hv : Current store start h.applied? v)
    (attempts : List Attempt) :
    ∃ v', (h.after store attempts).world.remote.activeVersions = [v']
      ∧ Current store start (h.after store attempts).applied? v' := by
  induction attempts generalizing h v with
  | nil => exact ⟨v, hactive, hv⟩
  | cons a rest ih =>
    obtain ⟨hreachable, events, hleaves⟩ := Attempt.leaves hs a
    have hinjected : Service.WellFormed { h.world.remote with failures := a.failures } :=
      hs.wellFormed.of_eq rfl rfl
    obtain ⟨v', hactive', hv'⟩ := hleaves.current hinjected hreachable.wellFormed hactive hv
    exact ih (h := h.next store a) hreachable hactive' hv'

theorem after_overwrite {numbers : List Int} {endpoints : Int → List Stored} {h : History}
    (hs : Service.Reachable store h.world.remote) {attempts : List Attempt}
    (hsignal : ∀ a ∈ attempts, Sync.Overlooks numbers endpoints a.signal?)
    (hactive : h.world.remote.active ∉ numbers)
    (hnumbers : ∀ n ∈ numbers, n ∈ h.world.remote.numbers) :
    (h.overwrite numbers endpoints).after store attempts
      = (h.after store attempts).overwrite numbers endpoints := by
  -- none of `numbers` is ever active again, so no attempt clones or reads one
  induction attempts generalizing h with
  | nil => rfl
  | cons a rest ih =>
    rw [forall_mem_cons] at hsignal
    have hnext : (h.overwrite numbers endpoints).next store a
        = (h.next store a).overwrite numbers endpoints := by
      have hrun := Attempt.commutes_run hs hsignal.1 hactive hnumbers
      unfold next overwrite
      dsimp only
      rw [hrun]
    change ((h.overwrite numbers endpoints).next store a).after store rest = _
    rw [hnext]
    apply ih (Attempt.leaves hs a).1 hsignal.2
    · exact Attempt.active_notMem hs a hactive hnumbers
    · intro n hn
      exact (Attempt.extends_run hs a).numbers_subset n (hnumbers n hn)

/--
What holds between a moment `mid` of a series and a later one `last`, with the attempts `rest`
between them, if `start` is the service at the beginning.
-/
structure Atomic (store : Storage) (start : Service) (mid last : History) (rest : List Attempt) :
    Prop where
  current : ∃ v, last.world.remote.activeVersions = [v] ∧ Current store start last.applied? v
  grown : mid.world.remote.versions <+: last.world.remote.versions
  retired : ∀ n ∈ mid.world.remote.numbers, n ≠ mid.world.remote.active →
    n ≠ last.world.remote.active
  unaffected : ∀ numbers endpoints, mid.world.remote.active ∉ numbers →
    (∀ n ∈ numbers, n ∈ mid.world.remote.numbers) →
    (∀ a ∈ rest, Sync.Overlooks numbers endpoints a.signal?) →
    (mid.overwrite numbers endpoints).after store rest = last.overwrite numbers endpoints

/--
Whatever the attempts of a series come to, exactly one version is active at each moment, and
versions that were active before or left behind stay as they are, inactive and without effect.
-/
theorem atomic_after (store : Storage) (w : World Service)
    (hs : Service.Reachable store w.remote) (before rest : List Attempt) :
    Atomic store w.remote (after store { world := w } before)
      (after store { world := w } (before ++ rest)) rest := by
  have happend : after store { world := w } (before ++ rest)
      = (after store { world := w } before).after store rest := foldl_append
  obtain ⟨v, hv⟩ := hs.wellFormed.exists_active
  rw [← hs.wellFormed.activeVersions_eq_iff] at hv
  obtain ⟨hmid, -⟩ := extends_after (h := { world := w }) hs before
  obtain ⟨-, hextends⟩ := extends_after hmid rest
  constructor
  · exact current_after (h := { world := w }) hs hv hv (before ++ rest)
  · rw [happend]
    exact hextends.grown
  · rw [happend]
    exact hextends.retired
  · intro numbers endpoints hactive hnumbers hsignal
    rw [happend]
    exact after_overwrite hmid hsignal hactive hnumbers

/-
An attempt whose activation fails, and one that succeeds after it.
-/
theorem atomic_after_failed_activation :
    let a : Attempt := { serviceId := "svc-1", desired := [{ name := "a", credential := "key" }] }
    let failing : Attempt := { a with failures := [((.activate, none), .remote "down")] }
    ∃ v,
      (after .unchanged { world := { remote := Service.ofEndpoints "svc-1" 1 [] 1000 } }
          [failing, a]).world.remote.activeVersions = [v]
        ∧ Matches [{ name := "a", credential := "key" }] v.endpoints := by
  intro a failing
  obtain ⟨v, hactive, hv⟩ := (atomic_after .unchanged
    { remote := Service.ofEndpoints "svc-1" 1 [] 1000 } (.start ..) [failing] [a]).current
  have happlied : (after .unchanged
      { world := { remote := Service.ofEndpoints "svc-1" 1 [] 1000 } } [failing, a]).applied?
      = some [{ name := "a", credential := "key" }] := by
    decide +kernel
  refine ⟨v, hactive, ?_⟩
  change Current _ _ (after _ _ [failing, a]).applied? v at hv
  rw [happlied] at hv
  apply hv
  intro d _ v? hv?
  cases hv?
  rfl

end History

end Converge
