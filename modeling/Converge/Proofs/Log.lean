import Converge.Proofs.Run

/-!
This module contains what a computation writes to the log. Main statements: a computation only adds
records, and what holds of all records that its parts add holds of those that it adds.
-/

namespace Converge.Run

open List

variable {σ α β : Type}

/--
Whatever the computation `x` comes to, it adds to the log, and nothing but records with `P`.
-/
def Logs (P : Log.Record → Prop) (x : Run σ α) : Prop :=
  ∀ w, ∃ records, (x w).2.log = w.log ++ records ∧ ∀ r ∈ records, P r

/--
The computation `x` returns `a` and does nothing but add `records` to the log.
-/
def Writes (x : Run σ α) (a : α) (records : List Log.Record) : Prop :=
  ∀ w, x w = (.ok a, { w with log := w.log ++ records })

/--
If the computation `x` returns `a`, the last records that it has added to the log are `closing a`,
and those before have `P`.
-/
def Closes (P : Log.Record → Prop) (closing : α → List Log.Record) (x : Run σ α) : Prop :=
  ∀ w a, (x w).1 = .ok a →
    ∃ records, (x w).2.log = w.log ++ (records ++ closing a) ∧ ∀ r ∈ records, P r

namespace Logs

variable {P : Log.Record → Prop} {x : Run σ α} {f : α → Run σ β}

theorem of_eq (h : ∀ w, (x w).2.log = w.log) : Logs P x :=
  fun w => ⟨[], by rw [h, append_nil], forall_mem_nil P⟩

theorem pure (a : α) : Logs P (Pure.pure a : Run σ α) :=
  of_eq fun _ => rfl

theorem fail (e : Fault) : Logs P (Run.fail e : Run σ α) :=
  of_eq fun _ => rfl

theorem fail_bind (e : Fault) (f : α → Run σ β) : Logs P (Run.fail e >>= f) :=
  of_eq fun _ => rfl

theorem lift (y : Except Fault α) : Logs P (Run.lift y : Run σ α) :=
  of_eq fun _ => rfl

theorem log {entry : Log.Record} (h : P entry) : Logs P (Run.log entry : Run σ Unit) :=
  fun _ => ⟨[entry], rfl, forall_mem_singleton.2 h⟩

theorem poll (signal? : Option (Signal σ)) (n : Nat) : Logs P (Run.poll signal? n) := by
  apply of_eq
  intro w
  cases signal? <;> rfl

theorem call (client : Client σ) {r : Request} (h : ∀ f, P (failureRecord r.site f)) :
    Logs P (Run.call client r) := by
  intro w
  unfold Run.call callAs send
  cases client r w.remote with
  | mk reply s =>
    cases reply with
    | error f => exact ⟨_, rfl, forall_mem_singleton.2 (h f)⟩
    | ok reply => exact ⟨[], (append_nil _).symm, forall_mem_nil P⟩

theorem bind (hx : Logs P x) (hf : ∀ a, Logs P (f a)) : Logs P (x >>= f) := by
  intro w
  obtain ⟨records, hlog, hrecords⟩ := hx w
  change ∃ records, (Run.bind x f w).2.log = w.log ++ records ∧ ∀ r ∈ records, P r
  unfold Run.bind
  cases h : x w with
  | mk result w' =>
    rw [h] at hlog
    cases result with
    | error e => exact ⟨records, hlog, hrecords⟩
    | ok a =>
      obtain ⟨records', hlog', hrecords'⟩ := hf a w'
      refine ⟨records ++ records', ?_, ?_⟩
      · dsimp only at hlog ⊢
        rw [hlog', hlog, append_assoc]
      · exact forall_mem_append.2 ⟨hrecords, hrecords'⟩

theorem mono {Q : Log.Record → Prop} (hx : Logs P x) (himp : ∀ r, P r → Q r) : Logs Q x := by
  intro w
  obtain ⟨records, hlog, hrecords⟩ := hx w
  exact ⟨records, hlog, fun r hr => himp r (hrecords r hr)⟩

theorem outcome (hx : Logs P x) : Logs P (Run.outcome x) :=
  hx

end Logs

namespace Writes

theorem pure (a : α) : Writes (Pure.pure a : Run σ α) a [] := by
  intro w
  rw [append_nil]
  rfl

theorem log (entry : Log.Record) : Writes (Run.log entry : Run σ Unit) () [entry] :=
  fun _ => rfl

theorem bind {x : Run σ α} {f : α → Run σ β} {a : α} {b : β} {records records' : List Log.Record}
    (hx : Writes x a records) (hf : Writes (f a) b records') :
    Writes (x >>= f) b (records ++ records') := by
  intro w
  change Run.bind x f w = _
  unfold Run.bind
  rw [hx w]
  dsimp only
  rw [hf, append_assoc]

end Writes

theorem Takes.bind_writes {x : Run σ α} {f : α → Run σ β} {a : α} {records : List Log.Record}
    {w : World σ} {P : List Event → Except Fault β → σ → Prop} (hx : Writes x a records)
    (h : ∀ w', w'.remote = w.remote → Takes (f a) w' P) : Takes (x >>= f) w P := by
  have htakes : Takes x w fun events result s => events = [] ∧ result = .ok a ∧ s = w.remote := by
    unfold Takes
    rw [hx]
    exact ⟨[], ⟨rfl, rfl, rfl⟩, (append_nil _).symm⟩
  apply htakes.bind
  · rintro events e s ⟨-, hresult, -⟩
    cases hresult
  · rintro events result w' ⟨rfl, hresult, hremote⟩
    cases hresult
    exact h w' hremote

namespace Closes

variable {P : Log.Record → Prop}

theorem bind {closing : β → List Log.Record} {x : Run σ α} {f : α → Run σ β} (hx : Logs P x)
    (hf : ∀ a, Closes P closing (f a)) : Closes P closing (x >>= f) := by
  intro w b hb
  obtain ⟨records, hlog, hrecords⟩ := hx w
  change (Run.bind x f w).1 = .ok b at hb
  change ∃ records, (Run.bind x f w).2.log = w.log ++ (records ++ closing b) ∧ ∀ r ∈ records, P r
  unfold Run.bind at hb ⊢
  cases h : x w with
  | mk result w' =>
    rw [h] at hlog hb
    cases result with
    | error e => cases hb
    | ok a =>
      obtain ⟨records', hlog', hrecords'⟩ := hf a w' b hb
      refine ⟨records ++ records', ?_, ?_⟩
      · dsimp only at hlog ⊢
        rw [hlog', hlog, append_assoc, append_assoc]
      · exact forall_mem_append.2 ⟨hrecords, hrecords'⟩

theorem of_writes {closing : α → List Log.Record} {x : Run σ α} {a : α}
    (hx : Writes x a (closing a)) : Closes P closing x := by
  intro w b hb
  rw [hx] at hb ⊢
  cases hb
  exact ⟨[], rfl, forall_mem_nil P⟩

end Closes

end Converge.Run
