import Converge.Proofs.Sync.Course
import Converge.Remote.Service

/-!
This module contains what a convergence makes of the answers of its signal. Main statement: with a
client that fails no call, a convergence stops at the first question that is answered with yes, with
as many changes made as there were questions since the clone, and does nothing after it.
-/

namespace Converge

open List

namespace Polled

variable {σ : Type} {answers : Nat → Bool} {n : Nat} {answer : Bool} {events : List Event}

theorem of_answers (h : Polled (some fun n (_ : World σ) => answers n) n answer events) :
    answers n = answer ∧ events = [.polled answer] := by
  cases h with
  | absent hsignal => cases hsignal
  | asked w hsignal =>
    cases hsignal
    exact ⟨rfl, rfl⟩

end Polled

theorem nil_of_append_singleton {α : Type} {a : α} {xs before after : List α} (ha : a ∉ xs)
    (h : xs ++ [a] = before ++ a :: after) : after = [] := by
  obtain rfl | ⟨ys, y, rfl⟩ := eq_nil_or_concat' after
  · rfl
  · rw [← cons_append, ← append_assoc] at h
    rw [append_inj_left' h rfl] at ha
    simp at ha

namespace Sync

variable {σ : Type} {client : Client σ} {answers : Nat → Bool} {limit? : Option Int}
  {serviceId : Text} {desired : List Declared} {s s' : σ} {events : List Event}

/--
What happens while changes are made and the signal is against it at no time.
-/
def rounds (serviceId : Text) (version : Int) (changes : List Change) : List Event :=
  changes.flatMap fun c => [.polled false, .called (c.request serviceId version) true]

theorem polled_true_notMem_rounds (serviceId : Text) (version : Int) (changes : List Change) :
    .polled true ∉ rounds serviceId version changes := by
  simp [rounds]

theorem Applies.heeds {version : Int} {applied : Nat} {changes : List Change}
    {result : Except Fault Version}
    (h : Applies client (some fun n _ => answers n) serviceId version applied changes s events
      result s')
    (hcalls : ∀ r, .called r false ∉ events) :
    ((∀ j < changes.length, answers (applied + 1 + j) = false)
      ∧ events = rounds serviceId version changes ∧ ∃ last, result = .ok last)
    ∨ ∃ k < changes.length, (∀ j < k, answers (applied + 1 + j) = false)
      ∧ answers (applied + 1 + k) = true
      ∧ events = rounds serviceId version (changes.take k) ++ [.polled true]
      ∧ result = .error (.cancelled (some version) (applied + k : Nat)) := by
  induction h with
  | @finished _ _ last => exact .inl ⟨by simp, rfl, last, rfl⟩
  | cancelled hpolled =>
    obtain ⟨htrue, rfl⟩ := hpolled.of_answers
    exact .inr ⟨0, by simp, by simp, htrue, rfl, rfl⟩
  | failed hpolled hcall => exact absurd (mem_append_right _ mem_cons_self) (hcalls _)
  | @applied applied c rest _ _ _ _ events _ _ hpolled hcall hrest ih =>
    obtain ⟨hfalse, rfl⟩ := hpolled.of_answers
    -- the answer to the first question is put before those that the rest asks for
    have hshift {k : Nat} (h : ∀ j < k, answers (applied + 1 + 1 + j) = false) :
        ∀ j < k + 1, answers (applied + 1 + j) = false := by
      intro j hj
      cases j with
      | zero => exact hfalse
      | succ j =>
        rw [Nat.add_comm j 1, ← Nat.add_assoc]
        exact h j (by omega)
    obtain ⟨hall, rfl, hok⟩ | ⟨k, hk, hbefore, htrue, rfl, hstopped⟩ := ih fun r hr => by
      apply hcalls r
      simp [hr]
    · exact .inl ⟨hshift hall, rfl, hok⟩
    · refine .inr ⟨k + 1, Nat.succ_lt_succ hk, hshift hbefore, ?_, rfl, ?_⟩
      · rw [Nat.add_comm k 1, ← Nat.add_assoc]
        exact htrue
      · rw [hstopped, Nat.add_comm k 1, Nat.add_assoc]

/--
How a convergence that has to make the changes of `drift` heeds the answers of its signal.
-/
structure Heeds (client : Client σ) (drift : Drift) (answers : Nat → Bool) (s : σ)
    (events : List Event) (result : Except Fault Synced) : Prop where
  first : answers 0 = true →
    events = [.polled true] ∧ result = .error (.cancelled none 0)
  later : ∀ k ≤ drift.changes.length, (∀ j ≤ k, answers j = false) → answers (k + 1) = true →
    ∃ clone s₁, client (.clone drift.serviceId) s = (.ok clone, s₁)
      ∧ events = .polled false :: .called (.clone drift.serviceId) true ::
        (rounds drift.serviceId clone (drift.changes.take k) ++ [.polled true])
      ∧ result = .error (.cancelled (some clone) k)
  never : (∀ j ≤ drift.changes.length + 1, answers j = false) →
    ∃ clone s₁, client (.clone drift.serviceId) s = (.ok clone, s₁)
      ∧ events = .polled false :: .called (.clone drift.serviceId) true ::
        (rounds drift.serviceId clone drift.changes
          ++ [.polled false, .called (.activate drift.serviceId clone) true])
      ∧ result = .ok {
        serviceId := drift.serviceId
        previousVersion := drift.version
        version := clone
        changes := drift.changes
        activated := true }
  silent : ∀ before after, events = before ++ .polled true :: after → after = []

variable {drift : Drift} {result : Except Fault Synced}

theorem Heeds.of_first (hfirst : answers 0 = true) :
    Heeds client drift answers s [.polled true] (.error (.cancelled none 0)) where
  first := fun _ => ⟨rfl, rfl⟩
  later := by
    intro k _ hfalse
    rw [hfalse 0 (Nat.zero_le k)] at hfirst
    cases hfirst
  never := by
    intro hfalse
    rw [hfalse 0 (Nat.zero_le _)] at hfirst
    cases hfirst
  silent := fun before after h => nil_of_append_singleton not_mem_nil h

theorem Heeds.of_later {clone : Int} {s₁ : σ} {k : Nat} (hk : k ≤ drift.changes.length)
    (hbefore : ∀ j ≤ k, answers j = false) (htrue : answers (k + 1) = true)
    (hclone : client (.clone drift.serviceId) s = (.ok clone, s₁)) :
    Heeds client drift answers s
      (.polled false :: .called (.clone drift.serviceId) true ::
        (rounds drift.serviceId clone (drift.changes.take k) ++ [.polled true]))
      (.error (.cancelled (some clone) k)) where
  first := by
    intro hfirst
    rw [hbefore 0 (Nat.zero_le k)] at hfirst
    cases hfirst
  later := by
    intro k' _ hbefore' htrue'
    -- there is only one first answer that is yes
    have hge : k ≤ k' := by
      by_contra hlt
      rw [hbefore (k' + 1) (by omega)] at htrue'
      cases htrue'
    have hle : k' ≤ k := by
      by_contra hlt
      rw [hbefore' (k + 1) (by omega)] at htrue
      cases htrue
    obtain rfl := Nat.le_antisymm hge hle
    exact ⟨clone, s₁, hclone, rfl, rfl⟩
  never := by
    intro hfalse
    rw [hfalse (k + 1) (Nat.succ_le_succ hk)] at htrue
    cases htrue
  silent := by
    intro before after h
    rw [← cons_append, ← cons_append] at h
    apply nil_of_append_singleton _ h
    simp [polled_true_notMem_rounds]

theorem Heeds.of_never {clone : Int} {s₁ : σ}
    (hfalse : ∀ j ≤ drift.changes.length + 1, answers j = false)
    (hclone : client (.clone drift.serviceId) s = (.ok clone, s₁)) :
    Heeds client drift answers s
      (.polled false :: .called (.clone drift.serviceId) true ::
        (rounds drift.serviceId clone drift.changes
          ++ [.polled false, .called (.activate drift.serviceId clone) true]))
      (.ok {
        serviceId := drift.serviceId
        previousVersion := drift.version
        version := clone
        changes := drift.changes
        activated := true }) where
  first := by
    intro hfirst
    rw [hfalse 0 (Nat.zero_le _)] at hfirst
    cases hfirst
  later := by
    intro k hk _ htrue
    rw [hfalse (k + 1) (Nat.succ_le_succ hk)] at htrue
    cases htrue
  never := fun _ => ⟨clone, s₁, hclone, rfl, rfl⟩
  silent := by
    intro before after h
    have hmem : .polled true ∈ before ++ .polled true :: after :=
      mem_append_right before mem_cons_self
    rw [← h] at hmem
    simp [polled_true_notMem_rounds] at hmem

theorem Carries.heeds
    (h : Carries client (some fun n _ => answers n) drift s events result s')
    (hcalls : ∀ r, .called r false ∉ events) : Heeds client drift answers s events result := by
  have hupTo {k : Nat} (hfirst : answers 0 = false) (h : ∀ j < k, answers (0 + 1 + j) = false) :
      ∀ j ≤ k, answers j = false := by
    intro j hj
    cases j with
    | zero => exact hfirst
    | succ j =>
      have hj := h j hj
      rw [Nat.zero_add, Nat.add_comm] at hj
      exact hj
  cases h with
  | cancelled hpolled =>
    obtain ⟨htrue, rfl⟩ := hpolled.of_answers
    exact .of_first htrue
  | cloneFailed hpolled hclone => exact absurd (mem_append_right _ mem_cons_self) (hcalls _)
  | stopped hpolled hclone happlies =>
    obtain ⟨hfirst, rfl⟩ := hpolled.of_answers
    obtain ⟨-, -, last, hok⟩ | ⟨k, hk, hbefore, htrue, rfl, hstopped⟩ := happlies.heeds fun r hr => by
      apply hcalls r
      simp [hr]
    · cases hok
    · cases hstopped
      rw [Nat.zero_add] at htrue ⊢
      rw [Nat.add_comm] at htrue
      exact .of_later (Nat.le_of_lt hk) (hupTo hfirst hbefore) htrue hclone
  | cancelledLast hpolled hclone happlies hpolled' =>
    obtain ⟨hfirst, rfl⟩ := hpolled.of_answers
    obtain ⟨htrue, rfl⟩ := hpolled'.of_answers
    obtain ⟨hbefore, rfl, -⟩ | ⟨k, -, -, -, -, hstopped⟩ := happlies.heeds fun r hr => by
      apply hcalls r
      simp [hr]
    · have hlater := Heeds.of_later (Nat.le_refl _) (hupTo hfirst hbefore) htrue hclone
      rw [take_length] at hlater
      exact hlater
    · cases hstopped
  | @activateFailed _ _ _ number _ _ _ _ _ hpolled hclone happlies hpolled' hactivate =>
    exact absurd (by simp) (hcalls (.activate drift.serviceId number))
  | activated hpolled hclone happlies hpolled' hactivate =>
    obtain ⟨hfirst, rfl⟩ := hpolled.of_answers
    obtain ⟨hlast, rfl⟩ := hpolled'.of_answers
    obtain ⟨hbefore, rfl, -⟩ | ⟨k, -, -, -, -, hstopped⟩ := happlies.heeds fun r hr => by
      apply hcalls r
      simp [hr]
    · apply Heeds.of_never _ hclone
      intro j hj
      obtain hj | rfl := Nat.le_succ_iff.1 hj
      · exact hupTo hfirst hbefore j hj
      · exact hlast
    · cases hstopped

theorem Follows.heeds
    (h : Follows client (some fun n _ => answers n) limit? drift s events result s')
    (hcalls : ∀ r, .called r false ∉ events) :
    ((drift.changes = [] ∨ ∃ limit, limit? = some limit ∧ limit < drift.changes.length) →
      ∀ answer, .polled answer ∉ events)
    ∧ (drift.changes ≠ [] → (∀ limit, limit? = some limit → drift.changes.length ≤ limit) →
      Heeds client drift answers s events result) := by
  cases h with
  | limitExceeded hlimit hlt =>
    exact ⟨by simp, fun _ hfits => absurd hlt (Int.not_lt.2 (hfits _ hlimit))⟩
  | converged hlimit hempty => exact ⟨by simp, fun hne => absurd hempty hne⟩
  | carried hlimit hne hcarries =>
    refine ⟨?_, fun _ _ => hcarries.heeds hcalls⟩
    rintro (hempty | ⟨limit, hsome, hlt⟩)
    · exact absurd hempty hne
    · exact absurd hlt (Int.not_lt.2 (hlimit limit hsome))

/--
With a client that fails no call, a convergence asks its signal only if it has changes to make, stops
at the first question that is answered with yes, and does nothing after it.
-/
theorem heeds_run (client : Client σ) (serviceId : Text) (desired : List Declared)
    (answers : Nat → Bool) (limit? : Option Int) (drift : Drift) (w w₁ : World σ)
    (hplan : plan client serviceId desired w = (.ok drift, w₁))
    (hcalls : (run client serviceId desired (some fun n _ => answers n) limit?).Unfailing w) :
    w₁.trace = w.trace
        ++ [.called (.activeVersion serviceId) true, .called (.list serviceId drift.version) true]
      ∧ ∃ events,
        (run client serviceId desired (some fun n _ => answers n) limit? w).2.trace
            = w₁.trace ++ events
          ∧ ((drift.changes = [] ∨ ∃ limit, limit? = some limit ∧ limit < drift.changes.length) →
            ∀ answer, .polled answer ∉ events)
          ∧ (drift.changes ≠ [] → (∀ limit, limit? = some limit → drift.changes.length ≤ limit) →
            Heeds client drift answers w₁.remote events
              (run client serviceId desired (some fun n _ => answers n) limit? w).1) := by
  obtain ⟨events₁, hplans, htrace₁⟩ := takes_plan client serviceId desired w
  obtain ⟨events, hcourse, htrace⟩ :=
    takes_run client serviceId desired (some fun n _ => answers n) limit? w
  have hmade := hcalls events htrace
  rw [hplan] at hplans htrace₁
  dsimp only at hplans htrace₁
  obtain ⟨events', rfl, hfollows⟩ := hcourse.follows hplans
  refine ⟨?_, events', ?_, hfollows.heeds fun r hr => hmade r (mem_append_right _ hr)⟩
  · rw [htrace₁]
    generalize w₁.remote = s₁ at hplans
    cases hplans
    rfl
  · rw [htrace, htrace₁, append_assoc]

/-
A signal that turns against a convergence when one endpoint is deleted and the other not yet created.
-/
theorem heeds_run_after_delete :
    let old : Stored := { serviceId := "svc-1", version := 1, name := "a", credential := "key" }
    let new : Declared := { name := "b", credential := "key" }
    let w : World Service := { remote := Service.ofEndpoints "svc-1" 1 [old] 1000 }
    (run (Service.client .unchanged) "svc-1" [new] (some fun n _ => n = 2) none w).1
      = .error (.cancelled (some 2) 1) := by
  intro old new w
  let drift : Drift := {
    serviceId := "svc-1"
    version := 1
    changes := [.delete old, .create new.filled] }
  have hplan : plan (Service.client .unchanged) "svc-1" [new] w
      = (.ok drift, (plan (Service.client .unchanged) "svc-1" [new] w).2) :=
    Prod.ext (by decide +kernel) rfl
  have htrace : (run (Service.client .unchanged) "svc-1" [new] (some fun n _ => n = 2) none w).2.trace
      = [
        .called (.activeVersion "svc-1") true, .called (.list "svc-1" 1) true, .polled false,
        .called (.clone "svc-1") true, .polled false, .called (.delete "svc-1" 2 "a") true,
        .polled true] := by
    decide +kernel
  have hcalls : (run (Service.client .unchanged) "svc-1" [new] (some fun n _ => n = 2) none).Unfailing
      w := by
    intro events hevents r
    rw [htrace] at hevents
    rw [← show _ = events from hevents]
    simp
  obtain ⟨-, events, -, -, hheeds⟩ := heeds_run (Service.client .unchanged) "svc-1" [new]
    (fun n => n = 2) none drift w _ hplan hcalls
  obtain ⟨clone, s₁, hclone, -, hresult⟩ := (hheeds (by decide) (by simp)).later 1 (by decide)
    (by decide) (by decide)
  have hlast : (plan (Service.client .unchanged) "svc-1" [new] w).2.remote.lastNumber = 1 := by
    decide +kernel
  obtain ⟨hnumber, -⟩ := (Service.client_clone hclone).2 clone rfl
  rw [hlast] at hnumber
  rw [hresult, hnumber]
  rfl

end Sync

end Converge
