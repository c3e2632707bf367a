import Converge.Proofs.Credential.Service
import Converge.Verify

/-!
This module contains computations that do the same but for credentials. Main statements: plans,
convergences and checks of a version do the same if the credentials are renamed, both the desired
ones and those that the service holds.
-/

namespace Converge

open List

variable {α β γ δ : Type} {ρ : Renaming}

def Event.rename (ρ : Renaming) : Event → Event
  | .called r succeeded => .called (r.rename ρ) succeeded
  | .polled answer => .polled answer

def World.rename (ρ : Renaming) (w : World Service) : World Service where
  remote := w.remote.rename ρ
  trace := w.trace.map (·.rename ρ)
  log := w.log

/--
Whether two signals give the same answers where only credentials differ.
-/
def Signal.Alike (ρ : Renaming) : Option (Signal Service) → Option (Signal Service) → Prop
  | none, none => True
  | some signal, some signal' => ∀ n w, signal' n (w.rename ρ) = signal n w
  | _, _ => False

namespace Run

/--
Whether `x'` does what `x` does, but for credentials.
-/
def Mirrors (ρ : Renaming) (f : α → β) (x : Run Service α) (x' : Run Service β) : Prop :=
  ∀ w, x' (w.rename ρ) = (ρ.outcome f (x w).1, (x w).2.rename ρ)

namespace Mirrors

variable {f : α → β} {x : Run Service α} {x' : Run Service β}

theorem pure (f : α → β) (a : α) : Mirrors ρ f (Pure.pure a) (Pure.pure (f a)) :=
  fun _ => rfl

theorem fail (f : α → β) (e : Fault) : Mirrors ρ f (Run.fail e) (Run.fail (e.rename ρ)) :=
  fun _ => rfl

theorem lift {y : Except Fault α} {y' : Except Fault β} (h : y' = ρ.outcome f y) :
    Mirrors ρ f (Run.lift y) (Run.lift y') := by
  rw [h]
  exact fun _ => rfl

theorem log (entry : Log.Record) : Mirrors ρ id (Run.log entry) (Run.log entry) :=
  fun _ => rfl

theorem poll {signal? signal'? : Option (Signal Service)} (h : Signal.Alike ρ signal? signal'?)
    (n : Nat) : Mirrors ρ id (Run.poll signal? n) (Run.poll signal'? n) := by
  intro w
  cases signal? with
  | none =>
    cases signal'? with
    | none => rfl
    | some signal' => cases h
  | some signal =>
    cases signal'? with
    | none => cases h
    | some signal' =>
      unfold Run.poll World.rename
      dsimp only
      have hanswer := h n w
      unfold World.rename at hanswer
      rw [hanswer, map_append]
      rfl

theorem call (store : Storage) (r : Request) :
    Mirrors ρ (r.renameReply ρ) (Run.call (Service.client store) r)
      (Run.call (Service.client store) (r.rename ρ)) := by
  intro w
  unfold Run.call callAs send World.rename
  dsimp only
  rw [Service.client_rename, Request.site_rename]
  cases Service.client store r w.remote with
  | mk reply s =>
    cases reply with
    | error f => simp [Except.map, Renaming.outcome, Fault.rename, Event.rename]
    | ok reply => simp [Except.map, Renaming.outcome, Event.rename]

theorem list (store : Storage) (serviceId : Text) (version : Int) :
    Mirrors ρ (Option.map (map (·.rename ρ)))
      (Run.call (Service.client store) (.list serviceId version))
      (Run.call (Service.client store) (.list serviceId version)) :=
  call store (.list serviceId version)

theorem bind {g : γ → δ} {k : α → Run Service γ} {k' : β → Run Service δ}
    (hx : Mirrors ρ f x x') (hk : ∀ a, Mirrors ρ g (k a) (k' (f a))) :
    Mirrors ρ g (x >>= k) (x' >>= k') := by
  intro w
  change Run.bind x' k' _ = (ρ.outcome g (Run.bind x k w).1, (Run.bind x k w).2.rename ρ)
  unfold Run.bind
  rw [hx w]
  cases x w with
  | mk r w₁ =>
    cases r with
    | error e => rfl
    | ok a => exact hk a w₁

theorem bind_fail {g : γ → δ} {k : α → Run Service γ} {k' : β → Run Service δ} (e : Fault) :
    Mirrors ρ g (Run.fail e >>= k) (Run.fail (e.rename ρ) >>= k') :=
  fun _ => rfl

theorem outcome (hx : Mirrors ρ f x x') :
    Mirrors ρ (ρ.outcome f) (Run.outcome x) (Run.outcome x') := by
  intro w
  unfold Run.outcome
  rw [hx w]
  rfl

end Mirrors

end Run

def Drift.rename (ρ : Renaming) (d : Drift) : Drift :=
  { d with changes := d.changes.map (·.rename ρ) }

def Synced.rename (ρ : Renaming) (s : Synced) : Synced :=
  { s with changes := s.changes.map (·.rename ρ) }

namespace Sync

variable {store : Storage} {signal? signal'? : Option (Signal Service)}

theorem mirrors_diff (desired : List Declared) (listing : Option (List Stored)) :
    Run.Mirrors ρ (map (·.rename ρ)) (diff desired listing)
      (diff (desired.map (·.rename ρ)) (listing.map (map (·.rename ρ)))) := by
  unfold diff
  apply Run.Mirrors.bind (.lift (Plan.index_rename ρ desired))
  intro wanted
  cases listing with
  | none => exact .fail _ _
  | some observed =>
    dsimp only [Option.map_some]
    rw [Plan.latest_rename]
    apply Run.Mirrors.bind (.lift (Plan.changes_rename ρ wanted (Plan.latest observed)))
    intro changes
    have hrecord : diffRecord (wanted.map (·.rename ρ)) ((Plan.latest observed).map (·.rename ρ))
          (changes.map (·.rename ρ)) = diffRecord wanted (Plan.latest observed) changes := by
      simp [diffRecord]
    rw [hrecord]
    exact .bind (.log _) fun _ => .pure _ changes

theorem mirrors_plan (serviceId : Text) (desired : List Declared) :
    Run.Mirrors ρ (·.rename ρ) (plan (Service.client store) serviceId desired)
      (plan (Service.client store) serviceId (desired.map (·.rename ρ))) := by
  unfold plan
  apply Run.Mirrors.bind (.call store (.activeVersion serviceId))
  intro active
  apply Run.Mirrors.bind (.list store serviceId active)
  intro listing
  apply (mirrors_diff desired listing).bind
  intro changes
  exact .pure _ _

theorem mirrors_applyChange (serviceId : Text) (version : Int) (c : Change) :
    Run.Mirrors ρ id (applyChange (Service.client store) serviceId version c)
      (applyChange (Service.client store) serviceId version (c.rename ρ)) := by
  cases c with
  | delete r => exact .call store (.delete serviceId version r.name)
  | create d =>
    apply Run.Mirrors.bind (.lift (payload_rename ρ d serviceId version))
    intro d
    apply Run.Mirrors.bind (.call store (.create serviceId version d))
    intro _
    exact .pure id ()
  | update d r fields =>
    apply Run.Mirrors.bind (.lift (payload_rename ρ d serviceId version))
    intro d
    apply Run.Mirrors.bind (.call store (.update serviceId version r.name d))
    intro _
    exact .pure id ()

theorem mirrors_live (x : Except VersionFault α) : Run.Mirrors ρ id (live x) (live x) := by
  apply Run.Mirrors.lift
  cases x <;> rfl

theorem mirrors_applyAll (hsignal : Signal.Alike ρ signal? signal'?) (serviceId : Text)
    (applied : Nat) (draft : Version) (changes : List Change) :
    Run.Mirrors ρ id (applyAll (Service.client store) signal? serviceId applied draft changes)
      (applyAll (Service.client store) signal'? serviceId applied draft
        (changes.map (·.rename ρ))) := by
  induction changes generalizing applied draft with
  | nil => exact .pure id draft
  | cons c rest ih =>
    rw [map_cons]
    unfold applyAll
    apply Run.Mirrors.bind (.poll hsignal _)
    intro answer
    cases answer with
    | true =>
      apply Run.Mirrors.bind (.log _)
      intro _
      exact .bind_fail _
    | false =>
      have hrecord : applyingRecord serviceId draft.number (c.rename ρ)
          = applyingRecord serviceId draft.number c := by
        simp [applyingRecord]
      rw [hrecord]
      apply (mirrors_live draft.ensureMutable).bind
      intro _
      apply Run.Mirrors.bind (.log _)
      intro _
      apply (mirrors_applyChange serviceId draft.number c).bind
      intro _
      apply (mirrors_live draft.markDirty).bind
      intro draft
      exact ih (applied + 1) draft

theorem mirrors_applyPlan (hsignal : Signal.Alike ρ signal? signal'?) (drift : Drift) :
    Run.Mirrors ρ (·.rename ρ) (applyPlan (Service.client store) signal? drift)
      (applyPlan (Service.client store) signal'? (drift.rename ρ)) := by
  unfold applyPlan
  rw [show (drift.rename ρ).changes = drift.changes.map (·.rename ρ) from rfl, length_map]
  apply Run.Mirrors.bind (.poll hsignal 0)
  intro answer
  cases answer with
  | true =>
    apply Run.Mirrors.bind (.log _)
    intro _
    exact .bind_fail _
  | false =>
    apply Run.Mirrors.bind (.call store (.clone drift.serviceId))
    intro cloned
    apply Run.Mirrors.bind (.log _)
    intro _
    apply (mirrors_applyAll hsignal drift.serviceId 0 { number := cloned } drift.changes).bind
    intro last
    apply Run.Mirrors.bind (.poll hsignal _)
    intro answer
    cases answer with
    | true => exact .bind_fail _
    | false =>
      apply Run.Mirrors.bind (.call store (.activate drift.serviceId last.number))
      intro _
      apply (mirrors_live last.activate).bind
      intro activated
      apply Run.Mirrors.bind (.log _)
      intro _
      exact .pure (Synced.rename ρ) _

theorem mirrors_checkLimit (serviceId : Text) (count : Int) (limit? : Option Int) :
    Run.Mirrors ρ id (checkLimit serviceId count limit?) (checkLimit serviceId count limit?) := by
  unfold checkLimit
  cases limit? with
  | none => exact .pure id ()
  | some limit =>
    dsimp only
    split
    · exact .bind (.log _) fun _ => .fail id _
    · exact .pure id ()

theorem mirrors_run (hsignal : Signal.Alike ρ signal? signal'?) (serviceId : Text)
    (desired : List Declared) (limit? : Option Int) :
    Run.Mirrors ρ (·.rename ρ)
      (run (Service.client store) serviceId desired signal? limit?)
      (run (Service.client store) serviceId (desired.map (·.rename ρ)) signal'? limit?) := by
  unfold run
  apply (mirrors_plan serviceId desired).bind
  intro drift
  have hchanges : (drift.rename ρ).changes = drift.changes.map (·.rename ρ) := rfl
  rw [hchanges, length_map]
  apply (mirrors_checkLimit serviceId _ limit?).bind
  intro _
  unfold carryOut
  rw [hchanges, isEmpty_map]
  split
  · apply Run.Mirrors.bind (.log _)
    intro _
    exact .pure (Synced.rename ρ) _
  · exact mirrors_applyPlan hsignal drift

end Sync

namespace Verify

variable {store : Storage}

theorem mirrors_run (serviceId : Text) (version : Int) (desired : List Declared) :
    Run.Mirrors ρ id (run (Service.client store) serviceId version desired)
      (run (Service.client store) serviceId version (desired.map (·.rename ρ))) := by
  unfold run
  apply Run.Mirrors.bind (.lift (Plan.index_rename ρ desired))
  intro expected
  rw [length_map]
  apply Run.Mirrors.bind (.list store serviceId version)
  intro listing
  apply (Sync.mirrors_diff desired listing).bind
  intro changes
  have hcount : ((listing.map (map (·.rename ρ))).getD []).length = (listing.getD []).length := by
    cases listing with
    | none => rfl
    | some observed => exact length_map _
  have hremaining : remaining (changes.map (·.rename ρ)) = remaining changes := by
    simp [remaining]
  rw [hcount, hremaining, isEmpty_map]
  dsimp only
  split
  · apply Run.Mirrors.bind (.log _)
    intro _
    exact .fail id _
  · split
    · apply Run.Mirrors.bind (.log _)
      intro _
      exact .fail id _
    · exact .log _

end Verify

end Converge
