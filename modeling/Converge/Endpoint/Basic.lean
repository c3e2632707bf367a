import Converge.Value

/-!
This module contains the two records of a logging endpoint: what its user declares and what the
service stores, together with the fields that both have.
-/

namespace Converge

structure Declared where
  name : Text
  credential : Text
  format : Text := .empty
  formatVersion : Option Int := none
  placement : Option Text := none
  responseCondition : Option Text := none
deriving DecidableEq, Inhabited, Repr

/--
A stored format version. Services do not agree on how they represent the number.
-/
inductive FormatVersion
  | int (n : Int)
  | float (x : Binary64)
  | text (t : Text)
deriving DecidableEq, Inhabited, Repr

namespace FormatVersion

def toValue : FormatVersion → Value
  | .int n => .int n
  | .float x => .float x
  | .text t => .text t

end FormatVersion

/--
An endpoint as a version of a service stores it. The timestamps are the service's own and take part
in no comparison.
-/
structure Stored where
  serviceId : Text
  version : Int
  name : Text
  credential : Text
  format : Text := .empty
  formatVersion : Option FormatVersion := none
  placement : Option Text := none
  responseCondition : Option Text := none
  createdAt : Option Timestamp := none
  updatedAt : Option Timestamp := none
deriving DecidableEq, Inhabited, Repr

inductive Field
  | name
  | credential
  | format
  | formatVersion
  | placement
  | responseCondition
deriving DecidableEq, Inhabited, Repr

namespace Field

def all : List Field :=
  [.name, .credential, .format, .formatVersion, .placement, .responseCondition]

theorem mem_all (f : Field) : f ∈ all := by
  cases f <;> decide

def label : Field → Text
  | .name => "name"
  | .credential => "credential"
  | .format => "format"
  | .formatVersion => "format_version"
  | .placement => "placement"
  | .responseCondition => "response_condition"

end Field

namespace Declared

def agree (a b : Declared) : Field → Bool
  | .name => a.name = b.name
  | .credential => a.credential = b.credential
  | .format => a.format = b.format
  | .formatVersion => a.formatVersion = b.formatVersion
  | .placement => a.placement = b.placement
  | .responseCondition => a.responseCondition = b.responseCondition

def changedFields (desired current : Declared) : List Field :=
  Field.all.filter fun f => !agree desired current f

theorem eq_of_agree {a b : Declared} (h : ∀ f, agree a b f = true) : a = b := by
  have h₁ := h .name
  have h₂ := h .credential
  have h₃ := h .format
  have h₄ := h .formatVersion
  have h₅ := h .placement
  have h₆ := h .responseCondition
  cases a
  cases b
  simp_all [agree]

theorem changedFields_eq_nil_iff {a b : Declared} : changedFields a b = [] ↔ a = b := by
  constructor
  · intro h
    refine eq_of_agree fun f => ?_
    have := List.filter_eq_nil_iff.1 h f (Field.mem_all f)
    simpa using this
  · rintro rfl
    simp only [changedFields, List.filter_eq_nil_iff]
    intro f _
    cases f <;> simp [agree]

end Declared

end Converge
