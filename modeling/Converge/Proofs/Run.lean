import Converge.Run
import Mathlib.Data.List.Basic

/-!
This module contains what a computation comes to, apart from its log: its outcome, the events on the
way and the state that it leaves the remote service in. It also contains what it means that a
computation does not depend on some part of that state, and that its outcome depends on nothing. Main
statements: for each, one rule for each way in which computations are made.
-/

namespace Converge

namespace Event

def request? : Event → Option Request
  | .called r _ => some r
  | .polled _ => none

def requests (events : List Event) : List Request :=
  events.filterMap request?

@[simp]
theorem requests_nil : requests [] = [] := rfl

@[simp]
theorem requests_append (events events' : List Event) :
    requests (events ++ events') = requests events ++ requests events' :=
  List.filterMap_append

@[simp]
theorem requests_called (r : Request) (succeeded : Bool) (events : List Event) :
    requests (.called r succeeded :: events) = r :: requests events := rfl

end Event

theorem World.calls_eq_requests {σ : Type} (w : World σ) : w.calls = Event.requests w.trace := rfl

inductive Polled {σ : Type} (signal? : Option (Signal σ)) (n : Nat) : Bool → List Event → Prop
  -- nobody is asked, so there is no event
  | absent : signal? = none → Polled signal? n false []
  | asked {signal : Signal σ} (w : World σ) : signal? = some signal →
    Polled signal? n (signal n w) [.polled (signal n w)]

theorem Polled.requests_eq {σ : Type} {signal? : Option (Signal σ)} {n : Nat} {answer : Bool}
    {events : List Event} (h : Polled signal? n answer events) : Event.requests events = [] := by
  cases h <;> rfl

inductive Called {σ : Type} (client : Client σ) (r : Request) (s : σ) :
    List Event → Except Fault r.Reply → σ → Prop
  | failed {f : Failure} {s' : σ} : client r s = (.error f, s') →
    Called client r s [.called r false] (.error (.callFailed r.site (some f))) s'
  | answered {reply : r.Reply} {s' : σ} : client r s = (.ok reply, s') →
    Called client r s [.called r true] (.ok reply) s'

namespace Run

variable {σ α β : Type}

/--
Begun in `w`, the computation `x` takes a course `P`: that of its events, its outcome and the
state in which it leaves the remote service. What it logs is left open.
-/
def Takes (x : Run σ α) (w : World σ) (P : List Event → Except Fault α → σ → Prop) : Prop :=
  ∃ events, P events (x w).1 (x w).2.remote ∧ (x w).2.trace = w.trace ++ events

/--
Begun in `w`, the computation `x` makes no call that fails.
-/
def Unfailing (x : Run σ α) (w : World σ) : Prop :=
  ∀ events, (x w).2.trace = w.trace ++ events → ∀ r, .called r false ∉ events

namespace Takes

variable {x : Run σ α} {f : α → Run σ β} {w : World σ} {P : List Event → Except Fault β → σ → Prop}
  {Q : List Event → Except Fault α → σ → Prop}

theorem pure {b : β} (h : P [] (.ok b) w.remote) : Takes (Pure.pure b) w P :=
  ⟨[], h, (List.append_nil _).symm⟩

theorem fail {e : Fault} (h : P [] (.error e) w.remote) : Takes (Run.fail e) w P :=
  ⟨[], h, (List.append_nil _).symm⟩

theorem call (client : Client σ) (r : Request) (w : World σ) :
    Takes (Run.call client r) w (Called client r w.remote) := by
  unfold Takes Run.call callAs send
  cases h : client r w.remote with
  | mk reply s =>
    cases reply with
    | error f => exact ⟨[.called r false], .failed h, rfl⟩
    | ok reply => exact ⟨[.called r true], .answered h, rfl⟩

theorem poll (signal? : Option (Signal σ)) (n : Nat) (w : World σ) :
    Takes (Run.poll signal? n) w fun events answer s =>
      ∃ b, answer = .ok b ∧ s = w.remote ∧ Polled signal? n b events := by
  cases signal? with
  | none => exact ⟨[], ⟨false, rfl, rfl, .absent rfl⟩, (List.append_nil _).symm⟩
  | some signal => exact ⟨_, ⟨signal n w, rfl, rfl, .asked w rfl⟩, rfl⟩

theorem mono {P' : List Event → Except Fault β → σ → Prop} {x : Run σ β} (h : Takes x w P)
    (himp : ∀ events r s, P events r s → P' events r s) : Takes x w P' := by
  obtain ⟨events, hp, htrace⟩ := h
  exact ⟨events, himp events _ _ hp, htrace⟩

theorem bind (hx : Takes x w Q)
    (herror : ∀ events e s, Q events (.error e) s → P events (.error e) s)
    (hok : ∀ events a w', Q events (.ok a) w'.remote →
      Takes (f a) w' fun events' r s => P (events ++ events') r s) : Takes (x >>= f) w P := by
  obtain ⟨events, hq, htrace⟩ := hx
  unfold Takes
  change ∃ events, P events (Run.bind x f w).1 (Run.bind x f w).2.remote
    ∧ (Run.bind x f w).2.trace = w.trace ++ events
  unfold Run.bind
  cases h : x w with
  | mk r w' =>
    rw [h] at hq htrace
    cases r with
    | error e => exact ⟨events, herror events e _ hq, htrace⟩
    | ok a =>
      obtain ⟨events', hp, htrace'⟩ := hok events a w' hq
      refine ⟨events ++ events', hp, ?_⟩
      dsimp only at htrace ⊢
      rw [htrace', htrace, List.append_assoc]

theorem bind_lift {y : Except Fault α} {a : α} (hy : y = .ok a) (h : Takes (f a) w P) :
    Takes (Run.lift y >>= f) w P := by
  rw [hy]
  exact h

theorem bind_log {entry : Log.Record} {f : Unit → Run σ β}
    (h : Takes (f ()) { w with log := w.log ++ [entry] } P) : Takes (Run.log entry >>= f) w P :=
  h

theorem bind_fail {e : Fault} (h : P [] (.error e) w.remote) :
    Takes ((Run.fail e : Run σ α) >>= f) w P :=
  ⟨[], h, (List.append_nil _).symm⟩

theorem bind_call {client : Client σ} {r : Request} {f : r.Reply → Run σ β}
    (herror : ∀ cause s, client r w.remote = (.error cause, s) →
      P [.called r false] (.error (.callFailed r.site (some cause))) s)
    (hok : ∀ reply w', client r w.remote = (.ok reply, w'.remote) →
      Takes (f reply) w' fun events result s => P (.called r true :: events) result s) :
    Takes (Run.call client r >>= f) w P := by
  apply (call client r w).bind
  · intro events e s h
    cases h with
    | failed h => exact herror _ _ h
  · intro events reply w' h
    cases h with
    | answered h => exact hok reply w' h

theorem outcome (hx : Takes x w Q) :
    Takes (Run.outcome x) w fun events result s => ∃ r, result = .ok r ∧ Q events r s := by
  obtain ⟨events, hq, htrace⟩ := hx
  exact ⟨events, ⟨_, rfl, hq⟩, htrace⟩

theorem bind_poll {signal? : Option (Signal σ)} {n : Nat} {f : Bool → Run σ β}
    (h : ∀ answer events w', w'.remote = w.remote → Polled signal? n answer events →
      Takes (f answer) w' fun events' r s => P (events ++ events') r s) :
    Takes (Run.poll signal? n >>= f) w P := by
  apply (poll signal? n w).bind
  · rintro events e s ⟨b, hb, -⟩
    cases hb
  · rintro events answer w' ⟨b, hb, hremote, hpolled⟩
    cases hb
    exact h answer events w' hremote hpolled

end Takes

end Run

namespace World

variable {σ : Type}

def mapRemote (φ : σ → σ) (w : World σ) : World σ :=
  { w with remote := φ w.remote }

end World

namespace Run

variable {σ α β : Type}

/--
Whether it makes no difference if `φ` is applied to the state of the remote service before or
after a computation that begins in `w`.
-/
def Commutes (φ : σ → σ) (x : Run σ α) (w : World σ) : Prop :=
  x (w.mapRemote φ) = ((x w).1, (x w).2.mapRemote φ)

namespace Commutes

variable {φ : σ → σ} {x : Run σ α} {f : α → Run σ β} {w : World σ}

theorem pure (a : α) : Commutes φ (Pure.pure a) w := rfl

theorem fail (e : Fault) : Commutes φ (Run.fail e : Run σ α) w := rfl

theorem lift (y : Except Fault α) : Commutes φ (Run.lift y) w := rfl

theorem log (entry : Log.Record) : Commutes φ (Run.log entry) w := rfl

theorem call {client : Client σ} {r : Request}
    (h : client r (φ w.remote) = ((client r w.remote).1, φ (client r w.remote).2)) :
    Commutes φ (Run.call client r) w := by
  unfold Commutes Run.call callAs send World.mapRemote
  dsimp only
  rw [h]
  cases client r w.remote with
  | mk reply s =>
    cases reply with
    | error f => rfl
    | ok reply => rfl

theorem poll {signal? : Option (Signal σ)} (n : Nat)
    (h : ∀ signal, signal? = some signal → signal n (w.mapRemote φ) = signal n w) :
    Commutes φ (Run.poll signal? n) w := by
  cases signal? with
  | none => rfl
  | some signal =>
    unfold Commutes Run.poll
    dsimp only
    rw [h signal rfl]
    rfl

theorem bind (hx : Commutes φ x w) (hf : ∀ a w', x w = (.ok a, w') → Commutes φ (f a) w') :
    Commutes φ (x >>= f) w := by
  unfold Commutes at hx ⊢
  change Run.bind x f _ = ((Run.bind x f w).1, (Run.bind x f w).2.mapRemote φ)
  unfold Run.bind
  rw [hx]
  cases h : x w with
  | mk r w' =>
    cases r with
    | error e => rfl
    | ok a => exact hf a w' h

end Commutes

theorem remote_of_call {client : Client σ} {r : Request} {w w' : World σ} {reply : r.Reply}
    (h : Run.call client r w = (.ok reply, w')) : client r w.remote = (.ok reply, w'.remote) := by
  unfold call callAs send at h
  cases hcall : client r w.remote with
  | mk answer s =>
    rw [hcall] at h
    cases answer with
    | error f => cases h
    | ok answer =>
      cases h
      rfl

theorem remote_of_poll {signal? : Option (Signal σ)} {n : Nat} {w w' : World σ} {answer : Bool}
    (h : Run.poll signal? n w = (.ok answer, w')) : w'.remote = w.remote := by
  cases signal? with
  | none =>
    cases h
    rfl
  | some signal =>
    cases h
    rfl

/--
Whatever world the computation `x` begins in, it comes to `result`.
-/
def Yields (x : Run σ α) (result : Except Fault α) : Prop :=
  ∀ w, (x w).1 = result

namespace Yields

variable {x : Run σ α} {f : α → Run σ β} {a : α} {result : Except Fault β}

theorem pure (a : α) : Yields (Pure.pure a : Run σ α) (.ok a) :=
  fun _ => rfl

theorem fail (e : Fault) : Yields (Run.fail e : Run σ α) (.error e) :=
  fun _ => rfl

theorem lift (y : Except Fault α) : Yields (Run.lift y : Run σ α) y :=
  fun _ => rfl

theorem log (entry : Log.Record) : Yields (Run.log entry : Run σ Unit) (.ok ()) :=
  fun _ => rfl

theorem exists_world {outcome : Except Fault α} (hx : Yields x outcome) (w : World σ) :
    ∃ w', x w = (outcome, w') :=
  ⟨(x w).2, Prod.ext (hx w) rfl⟩

theorem bind (hx : Yields x (.ok a)) (hf : Yields (f a) result) : Yields (x >>= f) result := by
  intro w
  obtain ⟨w', h⟩ := hx.exists_world w
  change (Run.bind x f w).1 = result
  unfold Run.bind
  rw [h]
  exact hf w'

theorem bind_error {e : Fault} (hx : Yields x (.error e)) : Yields (x >>= f) (.error e) := by
  intro w
  obtain ⟨w', h⟩ := hx.exists_world w
  change (Run.bind x f w).1 = .error e
  unfold Run.bind
  rw [h]

end Yields

end Run

end Converge
