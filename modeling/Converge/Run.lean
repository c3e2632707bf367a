import Converge.Log.Record
import Converge.Remote.Request

/-!
This module contains `Run`, the computations that call a remote service and write log records. What
they did is kept in order, so that a statement can be made about it.
-/

namespace Converge

/--
Something that a run did or learned from outside: a call with its success, or the answer of the
cancellation signal.
-/
inductive Event
  | called (request : Request) (succeeded : Bool)
  | polled (answer : Bool)
deriving DecidableEq, Inhabited, Repr

structure World (σ : Type) where
  remote : σ
  trace : List Event := []
  log : List Log.Record := []

namespace World

variable {σ : Type}

def calls (w : World σ) : List Request :=
  w.trace.filterMap fun
    | .called r _ => some r
    | .polled _ => none

end World

/--
A computation that may stop with a fault. What it did before stays done.
-/
def Run (σ α : Type) : Type :=
  World σ → Except Fault α × World σ

namespace Run

variable {σ α β : Type}

protected def pure (a : α) : Run σ α := fun w =>
  (.ok a, w)

protected def bind (x : Run σ α) (f : α → Run σ β) : Run σ β := fun w =>
  match x w with
  | (.ok a, w) => f a w
  | (.error e, w) => (.error e, w)

instance : Monad (Run σ) where
  pure := Run.pure
  bind := Run.bind

def fail (e : Fault) : Run σ α := fun w =>
  (.error e, w)

def lift (x : Except Fault α) : Run σ α := fun w =>
  (x, w)

def log (r : Log.Record) : Run σ Unit := fun w =>
  (.ok (), { w with log := w.log ++ [r] })

def outcome (x : Run σ α) : Run σ (Except Fault α) := fun w =>
  match x w with
  | (r, w) => (.ok r, w)

def send (client : Client σ) (r : Request) : World σ → Except Failure r.Reply × World σ := fun w =>
  match client r w.remote with
  | (.ok reply, s) => (.ok reply, { w with remote := s, trace := w.trace ++ [.called r true] })
  | (.error f, s) => (.error f, { w with remote := s, trace := w.trace ++ [.called r false] })

def optionalText : Option Text → Value
  | some t => .text t
  | none => .null

def optionalInt : Option Int → Value
  | some n => .int n
  | none => .null

def failureRecord (site : CallSite) (f : Failure) : Log.Record where
  level := .error
  logger := "logsync.sync"
  template := "Remote call failed"
  extra := [
    ("operation", .text site.operation), ("service_id", .text site.serviceId),
    ("version", optionalInt site.version?), ("endpoint", optionalText site.name?),
    ("error", .text f.message)]

def callAs (client : Client σ) (site : CallSite) (r : Request) : Run σ r.Reply := fun w =>
  match send client r w with
  | (.ok reply, w) => (.ok reply, w)
  | (.error f, w) =>
    (.error (.callFailed site (some f)), { w with log := w.log ++ [failureRecord site f] })

def call (client : Client σ) (r : Request) : Run σ r.Reply :=
  callAs client r.site r

def request (client : Client σ) (r : Request) : Run σ r.Reply := fun w =>
  match send client r w with
  | (.ok reply, w) => (.ok reply, w)
  | (.error (.remote message), w) => (.error (.remote message), w)
  | (.error (.foreign f), w) => (.error (.foreign f), w)

end Run

/--
A cancellation signal: its answer when it is asked for the `n`-th time, counted from 0.
-/
abbrev Signal (σ : Type) := Nat → World σ → Bool

namespace Run

variable {σ : Type}

def poll (signal? : Option (Signal σ)) (n : Nat) : Run σ Bool := fun w =>
  match signal? with
  | none => (.ok false, w)
  | some signal =>
    let answer := signal n w
    (.ok answer, { w with trace := w.trace ++ [.polled answer] })

end Run

end Converge
