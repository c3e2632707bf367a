import Converge.Endpoint.Basic

/-!
This module contains the changes that a plan is made of.
-/

namespace Converge

inductive ChangeKind
  | delete
  | create
  | update
deriving DecidableEq, Inhabited, Repr

namespace ChangeKind

def label : ChangeKind → Text
  | .delete => "delete"
  | .create => "create"
  | .update => "update"

end ChangeKind

inductive Change
  | create (desired : Declared)
  | update (desired : Declared) (observed : Stored) (fields : List Field)
  | delete (observed : Stored)
deriving DecidableEq, Inhabited, Repr

namespace Change

def kind : Change → ChangeKind
  | .create .. => .create
  | .update .. => .update
  | .delete .. => .delete

def name : Change → Text
  | .create desired => desired.name
  | .update desired .. => desired.name
  | .delete observed => observed.name

def fields : Change → List Field
  | .update _ _ fields => fields
  | _ => []

structure Counts where
  create : Int := 0
  update : Int := 0
  delete : Int := 0
deriving DecidableEq, Inhabited, Repr

namespace Counts

def total (c : Counts) : Int :=
  c.create + c.update + c.delete

end Counts

def countKind (kind : ChangeKind) (changes : List Change) : Nat :=
  changes.countP fun c => c.kind = kind

def count (changes : List Change) : Counts where
  create := countKind .create changes
  update := countKind .update changes
  delete := countKind .delete changes

theorem total_count (changes : List Change) : (count changes).total = changes.length := by
  induction changes with
  | nil => rfl
  | cons c rest ih =>
    cases c <;>
      simp only [count, Counts.total, countKind, List.countP_cons, List.length_cons, kind] at ih ⊢ <;>
      simp <;> omega

end Change

end Converge
