import Converge.Proofs.Numeral
import Converge.Proofs.Sync.Atomicity
import Converge.Proofs.Verify

/-!
This module contains what a convergence of a service makes of the next one. Main statement: after a
convergence that returns, the version that it names passes its check, and another convergence to the
same endpoints, in whatever order, reads that version and does nothing else.
-/

namespace Converge

open List

namespace Storage

theorem faithful_text {n : Int} (h : (Numeral.ofNat n.natAbs).length ≤ Numeral.maxDigits) :
    text.Faithful n := by
  intro v? hv
  cases hv
  change FormatVersion.toInt? (.text (Numeral.ofInt n)) = some n
  unfold FormatVersion.toInt?
  dsimp only
  rw [Numeral.readInt?_ofInt h]

end Storage

namespace Service

variable {store : Storage} {s s' : Service} {serviceId : Text} {desired desired' : List Declared}

theorem not_blocks_of_ok {r : Request} {reply : r.Reply} (h : client store r s = (.ok reply, s')) :
    ¬s.Blocks r := by
  intro hblocks
  obtain ⟨f, hcall⟩ := client_of_blocks store hblocks
  rw [hcall] at h
  cases h

/--
A service that holds exactly the desired endpoints and lets them be read.
-/
structure Settled (serviceId : Text) (desired : List Declared) (s : Service) : Prop where
  wellFormed : s.WellFormed
  activeVersion : ¬s.Blocks (.activeVersion serviceId)
  list : ¬s.Blocks (.list serviceId s.active)
  matches_active : Matches desired s.activeEndpoints

namespace Settled

theorem of_perm (h : s.Settled serviceId desired) (hperm : desired' ~ desired) :
    s.Settled serviceId desired' :=
  { h with matches_active := h.matches_active.of_perm hperm }

theorem between (h : s.Settled serviceId desired) :
    Plan.between desired s.activeEndpoints = .ok [] :=
  Plan.between_of_matches h.matches_active

theorem checks {events : List Event} {result : Except Fault Unit} (h : s.Settled serviceId desired)
    (hchecks : Verify.Checks (client store) serviceId s.active desired s events result s') :
    result = .ok () ∧ s' = s := by
  have hbetween := h.between
  cases hchecks with
  | unindexed hindex =>
    obtain ⟨wanted, hwanted, -⟩ := Plan.between_eq_ok_iff.1 hbetween
    cases hwanted.symm.trans hindex
  | listFailed hlist =>
    obtain ⟨v, hv, -⟩ := requireVersion_active h.wellFormed.active_mem
    rw [client_of_not_blocks h.list, answer, hv] at hlist
    cases hlist
  | unplannable hlist hlisting =>
    obtain ⟨-, hendpoints⟩ := client_list h.wellFormed.active_mem hlist
    rw [hendpoints _ rfl] at hlisting
    cases hbetween.symm.trans hlisting
  | miscounted hlist _ hlength =>
    obtain ⟨-, hendpoints⟩ := client_list h.wellFormed.active_mem hlist
    cases hendpoints _ rfl
    exact absurd h.matches_active.length_eq hlength
  | unconverged hlist hchanges _ hne =>
    obtain ⟨-, hendpoints⟩ := client_list h.wellFormed.active_mem hlist
    cases hendpoints _ rfl
    cases hbetween.symm.trans hchanges
    exact absurd rfl hne
  | passed hlist _ _ => exact ⟨rfl, (client_list h.wellFormed.active_mem hlist).1⟩

theorem plans {events : List Event} {result : Except Fault Drift} (h : s.Settled serviceId desired)
    (hplans : Sync.Plans (client store) serviceId desired s events result s') :
    s' = s ∧ result = .ok { serviceId, version := s.active }
      ∧ events = [.called (.activeVersion serviceId) true, .called (.list serviceId s.active) true] := by
  obtain ⟨rfl, rfl⟩ := hplans.exists_ok h.wellFormed h.activeVersion h.list h.between
  refine ⟨rfl, rfl, ?_⟩
  cases hplans
  rfl

theorem run {w : World Service} (h : w.remote.Settled serviceId desired) (store : Storage)
    (signal? : Option (Signal Service)) (limit? : Option Int)
    (hlimit : ∀ limit, limit? = some limit → 0 ≤ limit) :
    (Sync.run (client store) serviceId desired signal? limit? w).1
        = .ok { serviceId, previousVersion := w.remote.active, version := w.remote.active }
      ∧ (Sync.run (client store) serviceId desired signal? limit? w).2.remote = w.remote
      ∧ (Sync.run (client store) serviceId desired signal? limit? w).2.trace = w.trace ++ [
        .called (.activeVersion serviceId) true,
        .called (.list serviceId w.remote.active) true] := by
  obtain ⟨_, hplans, -⟩ := Sync.takes_plan (client store) serviceId desired w
  obtain ⟨events, hcourse, htrace⟩ :=
    Sync.takes_run (client store) serviceId desired signal? limit? w
  obtain ⟨hremote, hdrift, rfl⟩ := h.plans hplans
  rw [hremote, hdrift] at hplans
  obtain ⟨events', rfl, hfollows⟩ := hcourse.follows hplans
  rw [htrace]
  generalize Sync.run (client store) serviceId desired signal? limit? w = x at hfollows ⊢
  generalize hresult : x.1 = result at hfollows ⊢
  generalize x.2.remote = s' at hfollows ⊢
  cases hfollows with
  | limitExceeded hsome hlt => exact absurd (hlimit _ hsome) (Int.not_le.2 hlt)
  | converged _ _ => exact ⟨rfl, rfl, rfl⟩
  | carried _ hne _ => exact absurd rfl hne

end Settled

end Service

namespace Sync

variable {store : Storage} {s s' : Service} {signal? : Option (Signal Service)}
  {limit? : Option Int} {serviceId : Text} {desired : List Declared} {events : List Event}
  {out : Synced}

theorem Plans.not_blocks {result : Drift}
    (h : Plans (Service.client store) serviceId desired s events (.ok result) s') :
    ¬s.Blocks (.activeVersion serviceId) ∧ ∀ n, ¬s.Blocks (.list serviceId n) := by
  cases h with
  | planned hactive hlist _ =>
    obtain ⟨rfl, -⟩ := Service.client_activeVersion hactive
    -- an injected failure does not tell one version from another
    have hfree := Service.not_blocks_of_ok hlist
    exact ⟨Service.not_blocks_of_ok hactive, fun _ => hfree⟩

theorem Course.not_blocks
    (h : Course (Service.client store) serviceId desired signal? limit? s events (.ok out) s') :
    (¬s.Blocks (.activeVersion serviceId) ∧ ∀ n, ¬s.Blocks (.list serviceId n))
      ∧ ∀ limit, limit? = some limit → 0 ≤ limit := by
  cases h with
  | converged hplans hlimit _ =>
    exact ⟨hplans.not_blocks, fun limit hsome =>
      Int.le_trans (Int.natCast_nonneg _) (hlimit limit hsome)⟩
  | carried hplans hlimit _ _ =>
    exact ⟨hplans.not_blocks, fun limit hsome =>
      Int.le_trans (Int.natCast_nonneg _) (hlimit limit hsome)⟩

theorem Leaves.settled (hs : s.WellFormed) (hs' : s'.WellFormed)
    (hfaithful : ∀ d ∈ desired, store.Faithful (d.formatVersion.getD defaultFormatVersion))
    (hactive : ¬s.Blocks (.activeVersion serviceId)) (hlist : ∀ n, ¬s.Blocks (.list serviceId n))
    (h : Leaves store s serviceId desired limit? events (.ok out) s') :
    s'.Settled serviceId desired ∧ s'.active = out.version := by
  cases h with
  | converged hbetween =>
    refine ⟨⟨hs, hactive, hlist _, ?_⟩, rfl⟩
    exact Plan.matches_of_between hs.nodup_names_activeEndpoints hbetween
  | activated hbetween hne haccepted =>
    refine ⟨⟨hs', hactive, hlist _, ?_⟩, rfl⟩
    rw [Service.activeEndpoints_activated Service.newNumber_notMem]
    exact hs.matches_of_accepted hbetween haccepted hfaithful

/--
Whatever a convergence that returns had to do, another one to the same endpoints, in whatever order,
finds nothing to do, and the version that the first one names passes its check.
-/
theorem idempotent_run (store : Storage) (serviceId : Text) (desired : List Declared)
    (signal? : Option (Signal Service)) (limit? : Option Int) (w : World Service)
    (hs : Service.Reachable store w.remote)
    (hfaithful : ∀ d ∈ desired, store.Faithful (d.formatVersion.getD defaultFormatVersion))
    {out : Synced}
    (hout : (run (Service.client store) serviceId desired signal? limit? w).1 = .ok out) :
    let client := Service.client store
    let after := (run client serviceId desired signal? limit? w).2
    (Verify.run client serviceId out.version desired after).1 = .ok ()
      ∧ ∀ (desired' : List Declared) (signal'? : Option (Signal Service)) (limit'? : Option Int)
          (w' : World Service), desired' ~ desired → w'.remote = after.remote →
          (limit'? = limit? ∨ ∀ limit, limit'? = some limit → 0 ≤ limit) →
          ∃ again,
            (run client serviceId desired' signal'? limit'? w').1 = .ok again
              ∧ again.changed = false ∧ again.activated = false ∧ again.changes = []
              ∧ again.version = out.version
              ∧ (run client serviceId desired' signal'? limit'? w').2.remote = after.remote
              ∧ (run client serviceId desired' signal'? limit'? w').2.trace = w'.trace ++ [
                .called (.activeVersion serviceId) true,
                .called (.list serviceId out.version) true] := by
  intro client after
  obtain ⟨events, hcourse, -⟩ := takes_run client serviceId desired signal? limit? w
  have hreachable : Service.Reachable store after.remote := hcourse.reachable hs
  rw [hout] at hcourse
  obtain ⟨⟨hactive, hlist⟩, hlimit⟩ := hcourse.not_blocks
  obtain ⟨hsettled, hversion⟩ := (hcourse.leaves hs.wellFormed).settled hs.wellFormed
    hreachable.wellFormed hfaithful hactive hlist
  change after.remote.active = out.version at hversion
  rw [← hversion]
  constructor
  · obtain ⟨events, hchecks, -⟩ := Verify.takes_run client serviceId after.remote.active desired after
    exact (hsettled.checks hchecks).1
  · intro desired' signal'? limit'? w' hperm hremote hlimit'
    rw [← hremote] at hsettled ⊢
    have hpositive : ∀ limit, limit'? = some limit → 0 ≤ limit := by
      obtain rfl | hlimit' := hlimit'
      · exact hlimit
      · exact hlimit'
    obtain ⟨hresult, hremote', htrace⟩ :=
      (hsettled.of_perm hperm).run store signal'? limit'? hpositive
    exact ⟨_, hresult, by simp [Synced.changed], rfl, rfl, rfl, hremote', htrace⟩

/-
A second convergence does nothing even where format versions are stored as texts.
-/
theorem idempotent_run_after_replacement :
    let old : Stored := { serviceId := "svc-1", version := 1, name := "a", credential := "key" }
    let new : Declared := { name := "b", credential := "key" }
    let w : World Service := { remote := Service.ofEndpoints "svc-1" 1 [old] 1000 }
    let after := (run (Service.client .text) "svc-1" [new] none (some 2) w).2
    (run (Service.client .text) "svc-1" [new] none (some 2) after).2.remote = after.remote := by
  intro old new w after
  have hout : (run (Service.client .text) "svc-1" [new] none (some 2) w).1 = .ok {
      serviceId := "svc-1"
      previousVersion := 1
      version := 2
      changes := [.delete old, .create new.filled]
      activated := true } := by
    decide +kernel
  obtain ⟨-, hagain⟩ := idempotent_run .text "svc-1" [new] none (some 2) w (.start ..) (by
    intro d hd
    cases mem_singleton.1 hd
    exact Storage.faithful_text (by decide)) hout
  obtain ⟨again, -, -, -, -, -, hremote, -⟩ := hagain [new] none (some 2) after (.refl _) rfl (.inl rfl)
  exact hremote

end Sync

end Converge
