import Converge.Numeral

/-!
This module contains the life of a service version: a clone is a draft, becomes dirty with the first
change applied to it and may be activated once. An active version never changes again.
-/

namespace Converge

inductive Stage
  | draft
  | dirty
  | active
deriving DecidableEq, Inhabited, Repr

namespace Stage

def label : Stage → Text
  | .draft => "draft"
  | .dirty => "dirty"
  | .active => "active"

def mayBecome : Stage → Stage → Bool
  | .active, _ => false
  | _, .draft => false
  | _, _ => true

end Stage

structure Version where
  number : Int
  stage : Stage := .draft
deriving DecidableEq, Inhabited, Repr

inductive VersionFault
  | locked (number : Int)
  | transition (number : Int) (current target : Stage)
deriving DecidableEq, Inhabited, Repr

namespace VersionFault

def message : VersionFault → Text
  | .locked number => "Version " ++ Numeral.ofInt number ++ " is active and cannot be mutated"
  | .transition number current target =>
    "Version " ++ Numeral.ofInt number ++ " cannot move from " ++ current.label ++ " to " ++
      target.label

end VersionFault

namespace Version

def isMutable (v : Version) : Bool :=
  v.stage ≠ .active

def ensureMutable (v : Version) : Except VersionFault Unit :=
  if v.isMutable then .ok () else .error (.locked v.number)

def moveTo (v : Version) (target : Stage) : Except VersionFault Version :=
  if v.stage.mayBecome target then .ok { v with stage := target }
  else .error (.transition v.number v.stage target)

def markDirty (v : Version) : Except VersionFault Version :=
  v.moveTo .dirty

def activate (v : Version) : Except VersionFault Version :=
  v.moveTo .active

theorem moveTo_ok {v w : Version} {target : Stage} (h : v.moveTo target = .ok w) :
    w = { v with stage := target } := by
  unfold moveTo at h
  split at h <;> simp_all

theorem markDirty_of_isMutable {v : Version} (h : v.isMutable = true) :
    v.markDirty = .ok { v with stage := .dirty } := by
  obtain ⟨number, stage⟩ := v
  cases stage <;> simp_all [isMutable, markDirty, moveTo, Stage.mayBecome]

theorem activate_of_isMutable {v : Version} (h : v.isMutable = true) :
    v.activate = .ok { v with stage := .active } := by
  obtain ⟨number, stage⟩ := v
  cases stage <;> simp_all [isMutable, activate, moveTo, Stage.mayBecome]

end Version

end Converge
